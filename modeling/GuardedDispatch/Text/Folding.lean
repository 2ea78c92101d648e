import GuardedDispatch.Text.Lowercase

/-! # Letters apart from case

When two characters are the same letter, whatever their case. Each character has a key (`foldChar`):
its lower-case letter, or, where several lower-case letters share a capital, one that stands for
them all (`twins`). Characters are the same letter if their keys are (`sameLetter`), so that this is
an equivalence. A letter that becomes two characters, as the sharp s does, keeps to itself. -/

namespace GuardedDispatch.Text

/-- Lower-case letters that **share a capital** with others, each with the one that stands for all
of them. -/
def twins : List (Nat × Nat) :=
  [(0x131, 0x69), (0x17F, 0x73), (0xB5, 0x3BC), (0x345, 0x3B9), (0x1FBE, 0x3B9), (0x1FD3, 0x390),
   (0x1FE3, 0x3B0), (0x3D0, 0x3B2), (0x3F5, 0x3B5), (0x3D1, 0x3B8), (0x3F0, 0x3BA), (0x3D6, 0x3C0),
   (0x3F1, 0x3C1), (0x3C2, 0x3C3), (0x3D5, 0x3C6), (0x1C80, 0x432), (0x1C81, 0x434),
   (0x1C82, 0x43E), (0x1C83, 0x441), (0x1C84, 0x442), (0x1C85, 0x442), (0x1C86, 0x44A),
   (0x1C87, 0x463), (0x1C88, 0xA64B), (0x1E9B, 0x1E61), (0xFB05, 0xFB06)]

/-- The lower-case letter that stands for another one. -/
def twinOf (c : Char) : Char :=
  match twins.find? (·.1 == c.toNat) with
  | some twin => Char.ofNat twin.2
  | none => c

/-- The **key** of a character, the same for all forms of a letter. -/
def foldChar (c : Char) : Char := twinOf ((lowerChar c).headD c)

/-- Whether two characters are the **same letter**. -/
def sameLetter (a b : Char) : Bool := foldChar a == foldChar b

@[simp] theorem sameLetter_self (c : Char) : sameLetter c c = true := by simp [sameLetter]

theorem sameLetter_comm (a b : Char) : sameLetter a b = sameLetter b a := by
  simp [sameLetter, BEq.comm]

theorem sameLetter_trans {a b c : Char} (h : sameLetter a b = true) (h' : sameLetter b c = true) :
    sameLetter a c = true := by
  simp only [sameLetter, beq_iff_eq] at h h' ⊢
  exact h.trans h'

end GuardedDispatch.Text
