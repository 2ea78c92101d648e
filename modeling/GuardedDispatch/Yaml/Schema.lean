import GuardedDispatch.Text.Base64
import GuardedDispatch.Text.Lowercase
import GuardedDispatch.Text.Quoted
import GuardedDispatch.Value.Printing
import GuardedDispatch.Yaml.Cursor
import GuardedDispatch.Yaml.Node
import GuardedDispatch.Yaml.Tag.Implicit

/-! # Values of texts

The value that a text spells under a tag (`valueOfText`). A tag that the text was given explicitly
may not fit it; then the text has no value. -/

namespace GuardedDispatch.Yaml

/-- A failure in a text that is well formed. -/
def unsuitable (cause : Failure) : Reading α := .error (.unsuitable cause)

/-- The text without the low lines that group digits. -/
def dropGrouping (text : String) : String := String.ofList (text.toList.filter (· ≠ '_'))

/-- The **truth value** of a word in any case. -/
def readBoolean (text : String) : Reading Value :=
  match booleanWords.find? (·.1 == Text.lowercase text) with
  | some (_, b) => .ok (.bool b)
  | none => unsuitable .key

/-- The integer that a text spells in a base. -/
def readBase (base : Nat) (text : String) : Reading Int :=
  match Decimal.integer? base text with
  | some n => .ok n
  | none =>
    let quoted := String.ofList ((Text.quoted text).toList.take 200)
    unsuitable (.value (.integer base quoted))

/-- The integer that decimal digits spell; there may not be too many of them. -/
def readDecimalInteger (text : String) : Reading Int :=
  let digits := (Decimal.takeSign (Decimal.literalChars text)).2.takeWhile Char.isDigit
  if Decimal.exceedsLimit digits then unsuitable (.value (.tooManyDigits (some digits.length)))
  else readBase 10 text

/-- The number whose digits in base sixty are given, the most significant first. -/
def ofSixties (digits : List Int) : Int := digits.foldl (fun number digit => number * 60 + digit) 0

/-- The **integer** that a text without its sign spells. -/
def readNatural (text : String) : Reading Int :=
  let cs := text.toList
  let rest := String.ofList (cs.drop 2)
  match cs with
  | [] => unsuitable .index
  | ['0'] => .ok 0
  | '0' :: 'b' :: _ => readBase 2 rest
  | '0' :: 'x' :: _ => readBase 16 rest
  | '0' :: _ => readBase 8 text
  | _ =>
    if cs.contains ':' then do
      let parts := (cs.splitOn ':').map String.ofList
      return ofSixties (← parts.mapM readDecimalInteger)
    else readDecimalInteger text

/-- The **integer** that a text spells. -/
def readInteger (text : String) : Reading Value :=
  let cs := (dropGrouping text).toList
  if cs.isEmpty then unsuitable .index
  else do
    let (negative, unsigned) := Decimal.takeSign cs
    let n ← readNatural (String.ofList unsigned)
    return .int (if negative then -n else n)

/-- The decimal that a text spells. -/
def readDecimal (text : String) : Reading Float :=
  match Decimal.float? text with
  | some x => .ok x
  | none => unsuitable (.value (.float (Text.quoted text)))

/-- A natural number as a floating-point number, if there is one near to it. -/
def floatOfNat (n : Nat) : Reading Float :=
  let x := Float.ofNat n
  if x.isFinite then .ok x else unsuitable (.overflow .float)

/-- The number whose digits in base sixty are given, the least significant first. -/
def floatOfSixties (digits : List Float) : Reading Float :=
  Prod.fst <$> digits.foldlM (fun (sum, base) digit => do
    return (sum + digit * (← floatOfNat base), base * 60)) ((0.0, 1) : Float × Nat)

/-- The floating-point number that characters without a sign spell. -/
def readMagnitude (cs : List Char) : Reading Float :=
  let word := String.ofList cs
  if word = ".inf" then .ok (1.0 / 0.0)
  else if cs.contains ':' then do
    let parts := (cs.splitOn ':').map String.ofList
    floatOfSixties (← parts.mapM readDecimal).reverse
  else readDecimal word

/-- The **floating-point number** that a text spells. One word for what is not a number always
stands for the same; all others stand for one of their own, whose mark is given. -/
def readFloat (mark : Nat) (text : String) : Reading Value :=
  let cs := (Text.lowercase (dropGrouping text)).toList
  if cs.isEmpty then unsuitable .index
  else do
    let (negative, unsigned) := Decimal.takeSign cs
    if String.ofList unsigned = ".nan" then return .nan 0
    let x ← readMagnitude unsigned
    return if x.isNaN then .nan (mark + 1) else .float (if negative then -x else x)

/-- The **octets** that a text of ASCII characters spells. -/
def readBinary (text : String) : Reading Value :=
  let cs := text.toList
  if cs.all (·.toNat < 128) then
    match Text.Base64.decode? cs with
    | some octets => .ok (.bytes octets)
    | none => malformed
  else malformed

/-- The **date** that a text spells. -/
def readTimestamp (text : String) : Reading Value :=
  match Calendar.Stamp.read? (dropFinalBreak text.toList) with
  | none => unsuitable .attribute
  | some stamp =>
    let built : Except Calendar.Fault Value :=
      match stamp.clock with
      | none => Value.date <$> Calendar.Date.ofParts stamp.year stamp.month stamp.day
      | some clock =>
        Value.moment <$> Calendar.Moment.ofParts stamp.year stamp.month stamp.day clock.hour
          clock.minute clock.second clock.microsecond clock.offset
    built.mapError fun fault => .unsuitable (.value (.calendar fault))

/-- The value that a **text** spells under a tag; the mark tells it from others. Timestamps are only
written as texts, while other values may be written as a mapping with a text that stands for it. -/
def valueOfText (tag : Tag) (mark : Nat) (direct : Bool) (text : String) : Reading Value :=
  match tag with
  | .null => .ok .null
  | .bool => readBoolean text
  | .int => readInteger text
  | .float => readFloat mark text
  | .binary => readBinary text
  | .timestamp => if direct then readTimestamp text else unsuitable (.type .notText)
  | .str => .ok (.str text)
  | _ => malformed

/-- The value that **code points** spell under a tag. -/
def valueOfCodes (tag : Tag) (mark : Nat) (direct : Bool) (points : List Nat) : Reading Value :=
  match tag with
  | .str => .ok (.ofWord (.ofPoints points))
  | _ => valueOfText tag mark direct (Word.ofPoints points).shown

end GuardedDispatch.Yaml
