import GuardedDispatch.Calendar.Stamp
import GuardedDispatch.Decimal.Literal
import GuardedDispatch.Yaml.Tag

/-! # Implicit tags

What a plain text is, by its form: a few words, integers in several bases and in groups of sixty,
decimals with a point, and timestamps. All other texts are themselves (`Tag.implicit`). -/

namespace GuardedDispatch.Yaml

/-- A word in small letters, with a capital, and in capitals. -/
def inAllCases (word : String) : List String := [word, word.capitalize, word.toUpper]

/-- The words for **truth values**. -/
def booleanWords : List (String × Bool) :=
  [("yes", true), ("no", false), ("true", true), ("false", false), ("on", true), ("off", false)]

/-- Whether characters are a first one of some class and any number of some class behind it. -/
def isRun (first rest : Char → Bool) : List Char → Bool
  | [] => false
  | c :: cs => first c && cs.all rest

/-- Whether a character is one of some, or the low line that groups digits. -/
def isGrouped (digits : List Char) (c : Char) : Bool := c = '_' || digits.contains c

/-- The decimal digits. -/
def decimalDigits : List Char := "0123456789".toList

/-- The hexadecimal digits. -/
def hexDigits : List Char := "0123456789abcdefABCDEF".toList

/-- Whether characters are a number below sixty, of one or two digits. -/
def isSixtieth : List Char → Bool
  | [a] => a.isDigit
  | [a, b] => '0' ≤ a && a ≤ '5' && b.isDigit
  | _ => false

/-- Whether parts between colons are groups of sixty: at least two, the first of which may be long.
-/
def isSixties (first : Char → Bool) : List (List Char) → Bool
  | head :: second :: more =>
    isRun first (isGrouped decimalDigits) head && (second :: more).all isSixtieth
  | _ => false

/-- Whether characters are an **integer** without its sign. -/
def isNatural (cs : List Char) : Bool :=
  match cs with
  | '0' :: 'b' :: digits => !digits.isEmpty && digits.all (isGrouped ['0', '1'])
  | '0' :: 'x' :: digits => !digits.isEmpty && digits.all (isGrouped hexDigits)
  | '0' :: digits => digits.all (isGrouped "01234567".toList)
  | _ =>
    let isFirst := fun c => '1' ≤ c && c ≤ '9'
    isRun isFirst (isGrouped decimalDigits) cs || isSixties isFirst (cs.splitOn ':')

/-- Whether characters are the end of a decimal: nothing, or an exponent with its sign. -/
def isExponent : List Char → Bool
  | [] => true
  | e :: sign :: digits =>
    (e = 'e' || e = 'E') && (sign = '-' || sign = '+') && isRun Char.isDigit Char.isDigit digits
  | _ => false

/-- Whether characters are the digits behind a point, and the end of a decimal. -/
def isFraction (cs : List Char) : Bool := isExponent (cs.dropWhile (isGrouped decimalDigits))

/-- Whether characters are a **decimal** with digits before its point, without its sign. -/
def isDecimal (cs : List Char) : Bool :=
  let whole := cs.takeWhile (· ≠ '.')
  match cs.dropWhile (· ≠ '.') with
  | '.' :: fraction =>
    (isRun Char.isDigit (isGrouped decimalDigits) whole && isFraction fraction) ||
      (isSixties Char.isDigit (whole.splitOn ':') && fraction.all (isGrouped decimalDigits))
  | _ => false

/-- Whether characters are a floating-point number. -/
def isFloat (cs : List Char) : Bool :=
  let unsigned := (Decimal.takeSign cs).2
  isDecimal unsigned ||
    (inAllCases "inf").any (fun word => unsigned = '.' :: word.toList) ||
    [".nan", ".NaN", ".NAN"].any (fun word => cs = word.toList) ||
    match cs with
    | '.' :: d :: rest => d.isDigit && isFraction rest
    | _ => false

/-- Whether characters are a timestamp; without a time of day only full dates are. -/
def isTimestamp (cs : List Char) : Bool :=
  (Calendar.Stamp.read? cs).any fun stamp => stamp.isFull || stamp.clock.isSome

/-- Characters without a line feed at the end, if there is anything before it. -/
def dropFinalBreak (cs : List Char) : List Char :=
  if 1 < cs.length && cs.getLast? = some '\n' then cs.dropLast else cs

/-- The tag of a **plain text**. -/
def Tag.implicit (text : String) : Tag :=
  let cs := dropFinalBreak text.toList
  let word := String.ofList cs
  if (booleanWords.flatMap (inAllCases ·.1)).contains word then .bool
  else if isFloat cs then .float
  else if isNatural (Decimal.takeSign cs).2 then .int
  else if word = "<<" then .merge
  else if text = "" ∨ word = "~" ∨ (inAllCases "null").contains word then .null
  else if isTimestamp cs then .timestamp
  else if word = "=" then .value
  else if word = "!" ∨ word = "&" ∨ word = "*" then .other (Tag.beginning ++ "yaml")
  else .str

end GuardedDispatch.Yaml
