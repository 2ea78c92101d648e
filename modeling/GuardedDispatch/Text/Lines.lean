/-! # Lines

The lines of a text, without their ends (`lines`). Besides the line feed and the carriage return,
alone or together, the vertical tab, the form feed, the separators of files, groups and records, the
next-line character and the two Unicode separators end a line. -/

namespace GuardedDispatch.Text

/-- Whether a character **ends a line**. -/
def endsLine (c : Char) : Bool :=
  let n := c.toNat
  (0xA ≤ n && n ≤ 0xD) || (0x1C ≤ n && n ≤ 0x1E) || n = 0x85 || n = 0x2028 || n = 0x2029

/-- A character in front of the first of some lines. -/
def consFirst (c : Char) : List (List Char) → List (List Char)
  | [] => [[c]]
  | line :: rest => (c :: line) :: rest

/-- The lines of characters. -/
def splitLines : List Char → List (List Char)
  | [] => []
  | '\r' :: '\n' :: rest => [] :: splitLines rest
  | c :: rest => if endsLine c then [] :: splitLines rest else consFirst c (splitLines rest)

/-- The **lines** of a text. -/
def lines (s : String) : List String := (splitLines s.toList).map String.ofList

@[simp] theorem splitLines_nil : splitLines [] = [] := by simp [splitLines]

/-- Characters that end no line are one line. -/
theorem splitLines_of_forall {cs : List Char} (h : ∀ c ∈ cs, endsLine c = false) (ne : cs ≠ []) :
    splitLines cs = [cs] := by
  induction cs with
  | nil => exact absurd rfl ne
  | cons c cs ih =>
    have hc : endsLine c = false := h c (by simp)
    have hr : c ≠ '\r' := by
      rintro rfl
      exact absurd hc (by decide)
    have step : splitLines (c :: cs) = consFirst c (splitLines cs) := by
      rw [splitLines.eq_def]
      split
      · simp_all
      · simp_all
      · simp_all
    rw [step]
    cases cs with
    | nil => simp [consFirst]
    | cons d ds => rw [ih (fun x hx => h x (by simp [hx])) (by simp)]; rfl

end GuardedDispatch.Text
