import GuardedDispatch.Decimal.Reading
import GuardedDispatch.Text.Blank
import GuardedDispatch.Text.DigitTable

/-! # Number literals

Texts that spell a number: a sign, and digits of any script in a base, or a decimal with a point and
an exponent. Blanks around a literal do not matter, but the separators among the controls are not
blank here (`isPadding`). -/

namespace GuardedDispatch.Decimal

/-- Whether a character is a separator among the controls. -/
def isSeparator (c : Char) : Bool := 0x1C ≤ c.toNat && c.toNat ≤ 0x1F

/-- Whether a character may stand **around a literal**. -/
def isPadding (c : Char) : Bool := Text.isBlank c && !isSeparator c

/-- The characters of a literal, without the blanks around it and with digits of ASCII alone. -/
def literalChars (s : String) : List Char :=
  (Text.dropEndWhile isPadding (s.toList.dropWhile isPadding)).map Text.toAsciiDigit

/-- A **sign** in front, as whether it is a minus sign, and what is left. -/
def takeSign : List Char → Bool × List Char
  | '-' :: rest => (true, rest)
  | '+' :: rest => (false, rest)
  | cs => (false, cs)

/-- The letter that announces a base behind a zero. -/
def baseLetter? : Nat → Option Char
  | 2 => some 'b'
  | 8 => some 'o'
  | 16 => some 'x'
  | _ => none

/-- Characters without the announcement of a base. -/
def dropBase (base : Nat) : List Char → List Char
  | '0' :: letter :: rest =>
    if (baseLetter? base).any (· = letter.toLower) then rest else '0' :: letter :: rest
  | cs => cs

/-- The **integer** that a text spells in a base. -/
def integer? (base : Nat) (s : String) : Option Int :=
  let (negative, cs) := takeSign (literalChars s)
  let digits := dropBase base cs
  if digits.isEmpty then none
  else (natural? base digits).map fun n => if negative then -n else n

/-- The exponent at the end of a decimal. -/
def exponent? : List Char → Option Int
  | [] => some 0
  | c :: rest =>
    if c.toLower = 'e' then
      let (negative, digits) := takeSign rest
      if digits.isEmpty then none
      else (natural? 10 digits).map fun n => if negative then -n else n
    else none

/-- The **parts** of a decimal without its sign. -/
def parts? (cs : List Char) : Option Parts :=
  let whole := cs.takeWhile Char.isDigit
  let rest := cs.dropWhile Char.isDigit
  let (fraction, rest) :=
    match rest with
    | '.' :: more => (more.takeWhile Char.isDigit, more.dropWhile Char.isDigit)
    | _ => ([], rest)
  if whole.isEmpty && fraction.isEmpty then none
  else (exponent? rest).map fun exponent => ⟨whole, fraction, exponent⟩

/-- The **floating-point number** that a text spells: a decimal, or the word for an infinity or for
what is not a number. -/
def float? (s : String) : Option Float :=
  let (negative, cs) := takeSign (literalChars s)
  let word := String.ofList (cs.map Char.toLower)
  if word = "inf" ∨ word = "infinity" then some (if negative then -1.0 / 0.0 else 1.0 / 0.0)
  else if word = "nan" then some (0.0 / 0.0)
  else (parts? cs).map (·.toFloat negative)

/-- Whatever may stand around a literal is blank. -/
theorem isBlank_of_isPadding {c : Char} (h : isPadding c = true) : Text.isBlank c = true := by
  simp only [isPadding, Bool.and_eq_true] at h
  exact h.1

@[simp] theorem takeSign_nil : takeSign [] = (false, []) := rfl

end GuardedDispatch.Decimal
