import GuardedDispatch.Decimal.Shortest

/-! # Exact magnitudes

The exact size of a number, so that integers and floating-point numbers compare without
rounding: a rational number, or an infinity at either end. -/

namespace GuardedDispatch.Decimal

/-- A number's exact **extent** on the line of rational numbers with both its ends. -/
inductive Extent where
  /-- Below every number. -/
  | bottom
  /-- A rational number. -/
  | number (value : Rat)
  /-- Above every number. -/
  | top
  deriving DecidableEq

/-- The extent of an integer. -/
def Extent.ofInt (i : Int) : Extent := .number i

/-- The extent of a positive finite number. -/
def Binary.toRat (b : Binary) : Rat :=
  mkRat (b.mantissa * twoTo b.exponent.toNat) (twoTo (-b.exponent).toNat)

/-- The extent of a floating-point number; what is not a number has none. -/
def Extent.ofFloat? (x : Float) : Option Extent :=
  let bits := x.toBits.toNat
  let magnitude := bits % twoTo 63
  let negative := decide (twoTo 63 ≤ bits)
  if 0x7FF * twoTo 52 < magnitude then none
  else if magnitude = 0x7FF * twoTo 52 then some (if negative then .bottom else .top)
  else
    let size := (Binary.ofBits magnitude).toRat
    some (.number (if negative then -size else size))

/-- Whether one extent lies **strictly below** another. -/
def Extent.below : Extent → Extent → Bool
  | .bottom, .bottom => false
  | .bottom, _ => true
  | .number _, .bottom => false
  | .number a, .number b => a < b
  | .number _, .top => true
  | .top, _ => false

@[simp] theorem Extent.below_ofInt (i j : Int) :
    (Extent.ofInt i).below (Extent.ofInt j) = decide (i < j) :=
  decide_eq_decide.mpr Rat.intCast_lt_intCast

@[simp] theorem Extent.below_self (e : Extent) : e.below e = false := by
  cases e with
  | number q => exact decide_eq_false Rat.lt_irrefl
  | _ => rfl

end GuardedDispatch.Decimal
