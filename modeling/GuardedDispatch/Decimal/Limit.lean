/-! # Powers, and the limit of long integers

Integers of more digits than the limit are neither read from decimal digits nor written in them. In
other bases an integer may have any length. -/

namespace GuardedDispatch.Decimal

/-- A power of two. -/
def twoTo (n : Nat) : Nat := Nat.pow 2 n

/-- A power of ten. -/
def tenTo (n : Nat) : Nat := Nat.pow 10 n

/-- The most digits of an integer that is read or written. -/
def digitLimit : Nat := 4300

/-- Whether digits are too many to be read. -/
def exceedsLimit (digits : List Char) : Bool := digitLimit < digits.length

/-- Whether an integer has too many digits to be written. -/
def isLong (i : Int) : Bool := tenTo digitLimit ≤ i.natAbs

end GuardedDispatch.Decimal
