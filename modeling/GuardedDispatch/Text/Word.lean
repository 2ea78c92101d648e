import GuardedDispatch.Text.Quoted
import GuardedDispatch.Text.Utf8

/-! # Words

A text is a sequence of code points, and some code points are no characters: halves of pairs that
stand on their own. A **word** is a text that may hold such halves (`Word`). Most words are texts of
characters, and a text stands for the word that it is.

Words are what their code points are (`Word.points_inj`): they are joined, lower-cased and
quoted point by point. Only to be shown as a text of characters, a word loses its halves
(`Word.shown`). -/

namespace GuardedDispatch

/-- A **word**: a text of characters, or one by its code points, not all of which are characters. -/
inductive Word where
  /-- A text of characters. -/
  | text (s : String)
  /-- Code points with a half of a pair among them. -/
  | codes (points : List Nat) (halves : ∃ point ∈ points, ¬ point.isValidChar)
  deriving DecidableEq, Repr

namespace Word

/-- A text is a word. -/
instance : Coe String Word := ⟨text⟩

instance : Inhabited Word := ⟨text ""⟩

/-- The **code points** of a word. -/
def points : Word → List Nat
  | text s => s.toList.map Char.toNat
  | codes points _ => points

/-- The word of some code points. -/
def ofPoints (points : List Nat) : Word :=
  if halves : ∃ point ∈ points, ¬ point.isValidChar then codes points halves
  else text (String.ofList (points.map Char.ofNat))

/-- Words are **joined** by their code points; halves that meet stay halves. -/
protected def append : Word → Word → Word
  | text s, text t => text (s ++ t)
  | v, w => ofPoints (v.points ++ w.points)

instance : Append Word := ⟨Word.append⟩

/-- The character of a code point; a mark stands for what is none. -/
def charOfCode (point : Nat) : Char :=
  if point.isValidChar then Char.ofNat point else Text.Utf8.replacement

/-- Lower-case the code points that follow `before` (nearest first). What is no character stays as
it is, and casing neither counts it as a letter nor passes it over. -/
def lowerPoints (before : List Char) : List Nat → List Nat
  | [] => []
  | point :: rest =>
    (if point.isValidChar then
      (Text.lowerAt before (Char.ofNat point) (rest.map charOfCode)).map Char.toNat
    else [point]) ++ lowerPoints (charOfCode point :: before) rest

/-- The **lower-case form** of a word. -/
def lowercase : Word → Word
  | text s => text (Text.lowercase s)
  | codes points _ => ofPoints (lowerPoints [] points)

/-- The **quoted form** of a word. -/
def quoted : Word → String
  | text s => Text.quoted s
  | codes points _ => Text.quotedCodes points

/-- A word as a text of characters: marks stand for the halves. -/
def shown : Word → String
  | text s => s
  | codes points _ => String.ofList (points.map charOfCode)

@[simp] theorem points_text (s : String) : (text s).points = s.toList.map Char.toNat := rfl

@[simp] theorem text_append (s t : String) : text s ++ text t = text (s ++ t) := rfl

@[simp] theorem lowercase_text (s : String) : (text s).lowercase = text (Text.lowercase s) := rfl

@[simp] theorem shown_text (s : String) : (text s).shown = s := rfl

/-- A word is made of its code points. -/
@[simp] theorem ofPoints_points (w : Word) : ofPoints w.points = w := by
  cases w with
  | text s =>
    have whole : ¬ ∃ point ∈ (text s).points, ¬ point.isValidChar := by
      simp only [points_text, List.mem_map]
      rintro ⟨-, ⟨c, -, rfl⟩, half⟩
      exact half c.valid
    have same : Char.ofNat ∘ Char.toNat = id := funext Char.ofNat_toNat
    rw [ofPoints, dif_neg whole]
    simp [same]
  | codes points halves => exact dif_pos halves

/-- Code points make a word of them. -/
@[simp] theorem points_ofPoints (points : List Nat) : (ofPoints points).points = points := by
  unfold ofPoints
  split
  · rfl
  · next whole =>
    rw [points_text, String.toList_ofList, List.map_map]
    refine (List.map_congr_left fun point mem => ?_).trans (List.map_id points)
    have valid : point.isValidChar := Decidable.not_not.1 fun half => whole ⟨point, mem, half⟩
    show (Char.ofNat point).toNat = point
    rw [Char.ofNat, dif_pos valid]
    exact UInt32.toNat_ofNatLT

/-- **Words are the same** iff their code points are. -/
theorem points_inj {v w : Word} : v.points = w.points ↔ v = w := by
  refine ⟨fun same => ?_, congrArg points⟩
  rw [← ofPoints_points v, same, ofPoints_points]

@[simp] theorem points_append (v w : Word) : (v ++ w).points = v.points ++ w.points := by
  show (Word.append v w).points = _
  unfold Word.append
  split
  · simp
  · exact points_ofPoints _

end Word

end GuardedDispatch
