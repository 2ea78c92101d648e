import GuardedDispatch.Decimal.Shortest
import GuardedDispatch.Failure
import GuardedDispatch.Text.Quoted
import GuardedDispatch.Value.Printing

/-! # Writing JSON

Values as compact JSON texts: no blanks, characters outside ASCII as they are, keys in their order.
Lists and fixed sequences become arrays; the keys of maps may be texts, numbers, truth values or
absent, and become texts. Values of other kinds have no JSON form, and neither have numbers that are
not finite and integers of too many digits. -/

namespace GuardedDispatch.Json

/-- One character inside quotes. -/
def escape (c : Char) : List Char :=
  if c = '"' then ['\\', '"']
  else if c = '\\' then ['\\', '\\']
  else if c = '\n' then ['\\', 'n']
  else if c = '\r' then ['\\', 'r']
  else if c = '\t' then ['\\', 't']
  else if c.toNat = 8 then ['\\', 'b']
  else if c.toNat = 12 then ['\\', 'f']
  else if c.toNat < 32 then '\\' :: 'u' :: Text.Quoted.hex 4 c.toNat
  else [c]

/-- A text in quotes. -/
def writeText (s : String) : String :=
  String.ofList ('"' :: s.toList.flatMap escape ++ ['"'])

/-- A floating-point number; it must be finite. -/
def writeFloat (x : Float) : Except Failure String :=
  if x.isFinite then .ok (Decimal.text x) else .error (.value .notFinite)

/-- An integer; it must not have too many digits. -/
def writeInt (i : Int) : Except Failure String :=
  if Decimal.isLong i then .error (.value (.tooManyDigits none)) else .ok (integerText i)

/-- The word for a truth value. -/
def writeBool (b : Bool) : String := if b then "true" else "false"

/-- A key as text. -/
def writeKey : Value → Except Failure String
  | .str s => .ok (writeText s)
  | .codes .. => .error .unencodable
  | .bool b => .ok (writeText (writeBool b))
  | .null => .ok (writeText "null")
  | .int i => (writeInt i).map writeText
  | .float x => (writeFloat x).map writeText
  | .nan _ => .error (.value .notFinite)
  | _ => .error (.type .notJson)

mutual

/-- The JSON form of a value. -/
def write : Value → Except Failure String
  | .null => .ok "null"
  | .bool b => .ok (writeBool b)
  | .int i => writeInt i
  | .float x => writeFloat x
  | .nan _ => .error (.value .notFinite)
  | .str s => .ok (writeText s)
  | .codes .. => .error .unencodable
  | .list items => (writeItems items).map fun parts => "[" ++ ",".intercalate parts ++ "]"
  | .tuple items => (writeItems items).map fun parts => "[" ++ ",".intercalate parts ++ "]"
  | .map fields =>
    (writeFields fields).map fun parts => "\x7b" ++ ",".intercalate parts ++ "\x7d"
  | _ => .error (.type .notJson)

/-- The JSON forms of items. -/
def writeItems : List Value → Except Failure (List String)
  | [] => .ok []
  | v :: rest => do
    let first ← write v
    return first :: (← writeItems rest)

/-- The JSON forms of fields. -/
def writeFields : Fields → Except Failure (List String)
  | [] => .ok []
  | (k, v) :: rest => do
    let key ← writeKey k
    let value ← write v
    return (key ++ ":" ++ value) :: (← writeFields rest)

end

end GuardedDispatch.Json
