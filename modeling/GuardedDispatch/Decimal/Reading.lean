/-! # Reading decimals

The numbers that digits spell. Only ASCII digits are digits here. -/

namespace GuardedDispatch.Decimal

/-- The value of a decimal digit. -/
def digitValue? (c : Char) : Option Nat :=
  if '0' ≤ c ∧ c ≤ '9' then some (c.toNat - '0'.toNat) else none

/-- The value of a digit in a base of up to thirty-six; letters go on after nine. -/
def digitIn? (base : Nat) (c : Char) : Option Nat :=
  let value :=
    if '0' ≤ c ∧ c ≤ '9' then some (c.toNat - '0'.toNat)
    else if 'a' ≤ c ∧ c ≤ 'z' then some (c.toNat - 'a'.toNat + 10)
    else if 'A' ≤ c ∧ c ≤ 'Z' then some (c.toNat - 'A'.toNat + 10)
    else none
  value.filter (· < base)

/-- The natural number that digits of a base spell, if they are all digits. -/
def natural? (base : Nat) (cs : List Char) : Option Nat :=
  cs.foldl (fun value c => do return (← value) * base + (← digitIn? base c)) (some 0)

/-- The natural number that decimal digits spell; other characters are passed over. -/
def natural (cs : List Char) : Nat :=
  cs.foldl (fun value c => value * 10 + (digitValue? c).getD 0) 0

/-- The floating-point number nearest to `mantissa · 10 ^ exponent`. Far out, where every number is
zero or infinite, the exponent is not carried out. -/
def toFloat (negative : Bool) (mantissa : Nat) (exponent : Int) : Float :=
  let size :=
    if mantissa = 0 then 0.0
    else if exponent < -100000 then 0.0
    else if 100000 < exponent then 1.0 / 0.0
    else Float.ofScientific mantissa (exponent < 0) exponent.natAbs
  if negative then -size else size

/-- The parts of a decimal: digits before the point, digits after it, and an exponent. -/
structure Parts where
  whole : List Char
  fraction : List Char
  exponent : Int
  deriving DecidableEq, Repr

/-- The number of a decimal's parts. -/
def Parts.toFloat (parts : Parts) (negative : Bool) : Float :=
  Decimal.toFloat negative (natural (parts.whole ++ parts.fraction))
    (parts.exponent - parts.fraction.length)

@[simp] theorem natural_nil : natural [] = 0 := rfl

/-- One more digit behind others. -/
theorem natural_append_digit (cs : List Char) (c : Char) :
    natural (cs ++ [c]) = natural cs * 10 + (digitValue? c).getD 0 := by
  simp [natural]

end GuardedDispatch.Decimal
