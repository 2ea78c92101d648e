import GuardedDispatch.Decimal.Limit

/-! # Shortest decimals

The decimal text of a binary floating-point number. A finite number is `m · 2 ^ q`
(`Binary.ofBits`); its text has the **fewest digits that read back** to the same number, and of
several such the digits nearest to it. The search looks at the two neighbours of the number on the
grid of one digit, of two digits, and so on, in exact natural-number arithmetic. -/

namespace GuardedDispatch.Decimal

/-- A positive finite number `mantissa · 2 ^ exponent`; `lowest` marks the smallest mantissa of
its binade, whose lower neighbour is only half a unit away. -/
structure Binary where
  mantissa : Nat
  exponent : Int
  lowest : Bool
  deriving DecidableEq, Repr

/-- The magnitude with the given 63 bits, for any bits but those of infinity. -/
def Binary.ofBits (bits : Nat) : Binary :=
  let field : Nat := bits / twoTo 52
  let fraction : Nat := bits % twoTo 52
  if field = 0 then ⟨fraction, -1074, false⟩
  else ⟨twoTo 52 + fraction, (field : Int) - 1075, fraction = 0 && field ≠ 1⟩

/-- An interval of numbers around `num / den`, from `(num - down) / den` to `(num + up) / den`, all
of which round to the same binary number; its ends count if `closed`. -/
structure Interval where
  num : Nat
  den : Nat
  down : Nat
  up : Nat
  closed : Bool
  deriving DecidableEq, Repr

/-- The numbers that **round to** a binary number. -/
def Binary.interval (b : Binary) : Interval :=
  let scale := twoTo b.exponent.toNat
  { num := 4 * b.mantissa * scale
    den := 4 * twoTo (-b.exponent).toNat
    down := (if b.lowest then 1 else 2) * scale
    up := 2 * scale
    closed := b.mantissa % 2 = 0 }

/-- Whether `n / d` lies in the interval. -/
def Interval.contains (i : Interval) (n d : Nat) : Bool :=
  let low := (i.num - i.down) * d
  let high := (i.num + i.up) * d
  let x := n * i.den
  if i.closed then low ≤ x && x ≤ high else low < x && x < high

/-- Digits, and the power of ten that the last of them stands for. -/
structure Digits where
  value : Nat
  exponent : Int
  deriving DecidableEq, Repr

/-- The point of the interval's grid of steps `10 ^ e` that is **nearest** to its centre among
those inside, if one is inside; of two equally near the one with an even last digit. -/
def Interval.onGrid? (i : Interval) (e : Int) : Option Digits :=
  let up := tenTo e.toNat
  let down := tenTo (-e).toNat
  let below := i.num * down / (i.den * up)
  let above := below + 1
  let inside := fun n : Nat => i.contains (n * up) down
  let offBelow := i.num * down - below * up * i.den
  let offAbove := above * up * i.den - i.num * down
  let preferAbove := offAbove < offBelow || (offAbove = offBelow && below % 2 = 1)
  if inside below && !(inside above && preferAbove) && below ≠ 0 then some ⟨below, e⟩
  else if inside above then some ⟨above, e⟩
  else none

/-- The power of ten of the leading digit of `num / den`, found by counting down from `top`. -/
def leading (num den : Nat) : Nat → Int → Int
  | 0, e => e
  | fuel + 1, e =>
    if tenTo e.toNat * den ≤ num * tenTo (-e).toNat then e else leading num den fuel (e - 1)

/-- The first grid with a point in the interval, from `count` digits on. -/
def Interval.search (i : Interval) (top : Int) : Nat → Nat → Digits
  | 0, _ => ⟨0, 0⟩
  | fuel + 1, count =>
    match i.onGrid? (top - count) with
    | some digits => digits
    | none => i.search top fuel (count + 1)

/-- The **shortest digits** that read back to a positive binary number. -/
def Binary.shortest (b : Binary) : Digits :=
  let i := b.interval
  let estimate : Int := ((Nat.log2 b.mantissa : Int) + b.exponent) * 30103 / 100000 + 2
  i.search (leading i.num i.den 400 estimate) 20 0

/-- Remove the zeros at the end of the digits. -/
def Digits.trim : Nat → Digits → Digits
  | 0, d => d
  | fuel + 1, d =>
    if d.value ≠ 0 ∧ d.value % 10 = 0 then Digits.trim fuel ⟨d.value / 10, d.exponent + 1⟩ else d

/-- How a decimal is written: with a point between the powers of ten `low` and `high` of its
leading digit, and with an exponent of at least `width` digits elsewhere. -/
structure Style where
  low : Int
  high : Int
  width : Nat
  deriving DecidableEq, Repr

/-- The style of all texts of this library: `0.0001` and `1000000000000000.0` still have a point,
`1e-05` and `1e+16` an exponent. -/
def Style.plain : Style := ⟨-4, 15, 2⟩

/-- Zeros in front of a text that is shorter than `width`. -/
def padLeft (width : Nat) (cs : List Char) : List Char :=
  List.replicate (width - cs.length) '0' ++ cs

/-- The text of digits in a style. -/
def Digits.write (style : Style) (d : Digits) : List Char :=
  let digits := (toString d.value).toList
  let top := d.exponent + digits.length - 1
  if style.low ≤ top ∧ top ≤ style.high then
    if 0 ≤ d.exponent then digits ++ List.replicate d.exponent.toNat '0' ++ ['.', '0']
    else if 0 ≤ top then
      digits.take (top.toNat + 1) ++ '.' :: digits.drop (top.toNat + 1)
    else '0' :: '.' :: List.replicate ((-top).toNat - 1) '0' ++ digits
  else
    let head := digits.take 1 ++ (if digits.length = 1 then [] else '.' :: digits.drop 1)
    let sign := if top < 0 then '-' else '+'
    head ++ 'e' :: sign :: padLeft style.width (toString top.natAbs).toList

/-- The **text of a number**: the shortest decimal that reads back to it. -/
def text (x : Float) : String :=
  let bits := x.toBits.toNat
  let magnitude := bits % twoTo 63
  let sign := if twoTo 63 ≤ bits then ['-'] else []
  if 0x7FF * twoTo 52 < magnitude then "nan"
  else if magnitude = 0x7FF * twoTo 52 then String.ofList (sign ++ ['i', 'n', 'f'])
  else if magnitude = 0 then String.ofList (sign ++ ['0', '.', '0'])
  else
    let digits := (Binary.ofBits magnitude).shortest.trim 20
    String.ofList (sign ++ digits.write .plain)

end GuardedDispatch.Decimal
