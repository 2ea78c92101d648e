import GuardedDispatch.Text.CaseTable

/-! # Lower-casing

Full lower-casing of a text. Three rules make it up:

* **Simple letters** take the lower-case letter of their run (`CaseRun.lower?`).
* **The dotted capital i** becomes two characters, a plain i and a combining dot.
* **A capital sigma** takes its final form when it ends a word (`endsWord`): a cased letter stands
  before it, none after it, and the marks that casing ignores do not count.

ASCII texts are settled by `lowerChar` alone (`lowerChar_of_lower`). -/

namespace GuardedDispatch.Text

/-- The lower-case letter of `code`, if the run has it as a capital. -/
def CaseRun.lower? (run : CaseRun) (code : Nat) : Option Char :=
  if run.first ≤ code ∧ code ≤ run.last ∧ (code - run.first) % run.step = 0 then
    some (Char.ofNat (Int.toNat (code + run.shift)))
  else
    none

/-- Whether a code point lies in one of the ranges. -/
def inRanges (ranges : List (Nat × Nat)) (code : Nat) : Bool :=
  ranges.any fun range => range.1 ≤ code && code ≤ range.2

/-- Whether a character takes part in upper and lower case. -/
def isCased (c : Char) : Bool := inRanges casedRanges c.toNat

/-- Whether a character is passed over when the end of a word is looked for. -/
def isCaseIgnorable (c : Char) : Bool := inRanges caseIgnorableRanges c.toNat

/-- The lower-case form of one character, away from any context. -/
def lowerChar (c : Char) : List Char :=
  if c.toNat < 128 then [c.toLower]
  else if c = 'İ' then ['i', Char.ofNat 0x307]
  else [(caseRuns.findSome? (·.lower? c.toNat)).getD c]

/-- The first character that casing does not ignore is a cased one. -/
def reachesCased (cs : List Char) : Bool :=
  match cs.dropWhile isCaseIgnorable with
  | [] => false
  | c :: _ => isCased c

/-- Whether a sigma between `before` (nearest first) and `after` **ends a word**. -/
def endsWord (before after : List Char) : Bool :=
  reachesCased before && !reachesCased after

/-- The lower-case form of one character that stands between others. -/
def lowerAt (before : List Char) (c : Char) (after : List Char) : List Char :=
  if c = 'Σ' then [if endsWord before after then 'ς' else 'σ'] else lowerChar c

/-- Lower-case the characters that follow `before` (nearest first). -/
def lowerFrom (before : List Char) : List Char → List Char
  | [] => []
  | c :: rest => lowerAt before c rest ++ lowerFrom (c :: before) rest

/-- The **lower-case form** of a text. -/
def lowercase (s : String) : String := String.ofList (lowerFrom [] s.toList)

@[simp] theorem lowerFrom_nil (before : List Char) : lowerFrom before [] = [] := rfl

theorem lowerFrom_cons_of_ne {c : Char} (before rest : List Char) (h : c ≠ 'Σ') :
    lowerFrom before (c :: rest) = lowerChar c ++ lowerFrom (c :: before) rest := by
  simp [lowerFrom, lowerAt, h]

/-- An ASCII character that is not a capital is its own lower-case form. -/
theorem lowerChar_of_lower {c : Char} (ascii : c.toNat < 128) (small : c.toLower = c) :
    lowerChar c = [c] := by
  simp [lowerChar, ascii, small]

/-- No run leads from a Latin letter to one that is not. -/
theorem CaseRun.lt_of_lower? {run : CaseRun} {code : Nat} {d : Char} (mem : run ∈ caseRuns)
    (latin : code < 256) (found : run.lower? code = some d) : d.toNat < 256 := by
  have runs : ∀ run ∈ caseRuns, run.first < 256 → run.last + run.shift < 256 := by
    decide +kernel
  have chars : ∀ n : Nat, n < 256 → (Char.ofNat n).toNat < 256 := by decide +kernel
  unfold CaseRun.lower? at found
  split at found
  · next inside =>
    cases found
    have stays := runs run mem (by omega)
    exact chars _ (by omega)
  · cases found

/-- **The lower case of a Latin letter** is Latin. -/
theorem lt_of_mem_lowerChar {c d : Char} (latin : c.toNat < 256) (mem : d ∈ lowerChar c) :
    d.toNat < 256 := by
  unfold lowerChar at mem
  split at mem
  · next ascii =>
    have small : ∀ n : Nat, n < 128 → (Char.ofNat n).toLower.toNat < 256 := by decide
    rw [List.mem_singleton.1 mem, ← Char.ofNat_toNat c]
    exact small c.toNat ascii
  split at mem
  · next dotted =>
    subst dotted
    exact absurd latin (by decide)
  · rw [List.mem_singleton.1 mem]
    cases found : caseRuns.findSome? (·.lower? c.toNat) with
    | none => exact latin
    | some lower =>
      obtain ⟨run, isRun, isLower⟩ := List.exists_of_findSome?_eq_some found
      exact run.lt_of_lower? isRun latin isLower

/-- So is that of a Latin text, where there is no sigma. -/
theorem lt_of_mem_lowerFrom : ∀ {before chars : List Char}, (∀ c ∈ chars, c.toNat < 256) →
    ∀ d ∈ lowerFrom before chars, d.toNat < 256
  | _, [], _ => by simp
  | before, c :: rest, latin => by
    have isLatin := latin c List.mem_cons_self
    have noSigma : c ≠ 'Σ' := by
      rintro rfl
      exact absurd isLatin (by decide)
    rw [lowerFrom_cons_of_ne before rest noSigma]
    intro d mem
    rcases List.mem_append.1 mem with mem | mem
    · exact lt_of_mem_lowerChar isLatin mem
    · exact lt_of_mem_lowerFrom (fun other mem => latin other (List.mem_cons_of_mem c mem)) d mem

end GuardedDispatch.Text
