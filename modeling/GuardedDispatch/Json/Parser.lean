import GuardedDispatch.Decimal.Reading
import GuardedDispatch.Failure
import GuardedDispatch.Value.Equality

/-! # Reading JSON

JSON texts as values. Numbers with a point or an exponent are floating-point numbers, as are the
words for an infinity and for what is not a number; all other numbers are integers. A key that
occurs again replaces the earlier value in its place. Readers take the characters from the front and
answer what they read and what is left (`Reader`); nesting is bounded by the length of the text. -/

namespace GuardedDispatch.Json

/-- What keeps a text from being **read**. -/
inductive Problem where
  /-- A fault, and how many characters are left at its place. -/
  | fault (fault : Fault) (left : Nat)
  /-- An unsuitable number. -/
  | unsuitable (fault : ValueFault)

/-- A **reader** of something at the front of a text. -/
abbrev Reader (α : Type) := List Char → Except Problem (α × List Char)

/-- Fail in front of some characters. -/
def fail (fault : Fault) (cs : List Char) : Except Problem α := .error (.fault fault cs.length)

/-- Whether a character may stand between tokens. -/
def isBlank (c : Char) : Bool := c = ' ' || c = '\t' || c = '\n' || c = '\r'

/-- Pass over blanks. -/
def skipBlanks (cs : List Char) : List Char := cs.dropWhile isBlank

/-- The value of four hexadecimal digits in front of other characters. -/
def readHex4? (cs : List Char) : Option (Nat × List Char) :=
  match cs with
  | a :: b :: c :: d :: e :: rest =>
    (Decimal.natural? 16 [a, b, c, d]).map (·, e :: rest)
  | _ => none

/-- The character of a code unit; half of a pair on its own is no character. -/
def charOfUnit (unit : Nat) : Char :=
  if 0xD800 ≤ unit ∧ unit ≤ 0xDFFF then Char.ofNat 0xFFFD else Char.ofNat unit

/-- The character that two code units spell together, if they are a pair. -/
def charOfPair? (high low : Nat) : Option Char :=
  if 0xD800 ≤ high ∧ high ≤ 0xDBFF ∧ 0xDC00 ≤ low ∧ low ≤ 0xDFFF then
    some (Char.ofNat (0x10000 + (high - 0xD800) * 0x400 + (low - 0xDC00)))
  else
    none

/-- The character of a code unit, and of the one behind it if they are a pair. -/
def joinUnits (high : Nat) (rest : List Char) : Char × List Char :=
  match rest with
  | '\\' :: 'u' :: more =>
    match readHex4? more with
    | some (low, after) =>
      match charOfPair? high low with
      | some c => (c, after)
      | none => (charOfUnit high, rest)
    | none => (charOfUnit high, rest)
  | _ => (charOfUnit high, rest)

/-- Read the escape that starts with the letter u behind a backslash. -/
def readUnit : Reader Char := fun cs =>
  match readHex4? (cs.drop 1) with
  | some (high, rest) => .ok (joinUnits high rest)
  | none => fail .unit cs

/-- The character of a short escape. -/
def shortEscape? : Char → Option Char
  | '"' => some '"'
  | '\\' => some '\\'
  | '/' => some '/'
  | 'b' => some '\x08'
  | 'f' => some '\x0c'
  | 'n' => some '\n'
  | 'r' => some '\r'
  | 't' => some '\t'
  | _ => none

/-- Read the escape at a backslash. -/
def readEscape (start : Nat) : Reader Char := fun cs =>
  match cs.drop 1 with
  | [] => .error (.fault .openText start)
  | 'u' :: rest => readUnit ('u' :: rest)
  | c :: rest =>
    match shortEscape? c with
    | some char => .ok (char, rest)
    | none => fail .escape cs

/-- Read the characters of a text up to its closing quote, at most `fuel` of them; `start` is how
many characters are left at its opening quote. -/
def readChars (start : Nat) : Nat → List Char → Reader (List Char)
  | 0, _, _ => .error (.fault .openText start)
  | fuel + 1, done, cs =>
    match cs with
    | [] => .error (.fault .openText start)
    | '"' :: rest => .ok (done.reverse, rest)
    | c :: rest =>
      if c = '\\' then do
        let (char, after) ← readEscape start cs
        readChars start fuel (char :: done) after
      else if c.toNat < 32 then fail .control cs
      else readChars start fuel (c :: done) rest

/-- Read a text behind its opening quote. -/
def readText (cs : List Char) : Except Problem (String × List Char) :=
  (readChars (cs.length + 1) (cs.length + 1) [] cs).map fun (chars, rest) =>
    (String.ofList chars, rest)

/-- The digits at the front, and what is left. -/
def spanDigits (cs : List Char) : List Char × List Char :=
  (cs.takeWhile Char.isDigit, cs.dropWhile Char.isDigit)

/-- The digits of a whole number at the front, and what is left; a zero stands alone. -/
def spanWhole (cs : List Char) : List Char × List Char :=
  match cs with
  | '0' :: rest => (['0'], rest)
  | _ => spanDigits cs

/-- Read the exponent of a number, if there is one. -/
def readExponent (cs : List Char) : Option Int × List Char :=
  match cs with
  | e :: rest =>
    if e = 'e' ∨ e = 'E' then
      let (negative, digits) :=
        match rest with
        | '-' :: more => (true, more)
        | '+' :: more => (false, more)
        | more => (false, more)
      let (exponent, after) := spanDigits digits
      if exponent.isEmpty then (none, cs)
      else
        let size : Int := Decimal.natural exponent
        (some (if negative then -size else size), after)
    else (none, cs)
  | [] => (none, cs)

/-- Read the digits behind a point, if there are any. -/
def readFraction (cs : List Char) : Option (List Char) × List Char :=
  match cs with
  | '.' :: rest =>
    let (fraction, after) := spanDigits rest
    if fraction.isEmpty then (none, cs) else (some fraction, after)
  | _ => (none, cs)

/-- Read a number. -/
def readNumber : Reader Value := fun cs =>
  let (negative, unsigned) :=
    match cs with
    | '-' :: rest => (true, rest)
    | _ => (false, cs)
  let (whole, rest) := spanWhole unsigned
  if whole.isEmpty then fail .noValue cs
  else
    let (fraction, rest) := readFraction rest
    let (exponent, rest) := readExponent rest
    if fraction.isNone && exponent.isNone then
      let size : Int := Decimal.natural whole
      if Decimal.exceedsLimit whole then
        .error (.unsuitable (.tooManyDigits (some whole.length)))
      else .ok (.int (if negative then -size else size), rest)
    else
      let parts : Decimal.Parts := ⟨whole, fraction.getD [], exponent.getD 0⟩
      .ok (.float (parts.toFloat negative), rest)

/-- The words for values. -/
def words : List (String × Value) :=
  [("null", .null), ("true", .bool true), ("false", .bool false), ("NaN", .nan 0),
   ("Infinity", .float (1.0 / 0.0)), ("-Infinity", .float (-1.0 / 0.0))]

/-- The value of the word at the front, and what is left. -/
def readWord? (cs : List Char) : Option (Value × List Char) :=
  words.findSome? fun (word, value) =>
    if word.toList.isPrefixOf cs then some (value, cs.drop word.length) else none

/-- Read a word or a number. -/
def readScalar : Reader Value := fun cs =>
  match readWord? cs with
  | some found => .ok found
  | none => readNumber cs

mutual

/-- Read a value, nested at most `fuel` deep. -/
def readValue : Nat → Reader Value
  | 0, cs => fail .noValue cs
  | fuel + 1, cs =>
    match cs with
    | '"' :: rest => (readText rest).map fun (s, after) => (.str s, after)
    | '[' :: rest =>
      match skipBlanks rest with
      | ']' :: after => .ok (.list [], after)
      | rest => (readItems fuel rest).map fun (items, after) => (.list items, after)
    | '\x7b' :: rest =>
      match skipBlanks rest with
      | '\x7d' :: after => .ok (.map [], after)
      | rest => (readFields fuel [] rest).map fun (fields, after) => (.map fields, after)
    | cs => readScalar cs

/-- Read the items of a list up to its closing bracket. -/
def readItems : Nat → Reader (List Value)
  | 0, cs => fail .noValue cs
  | fuel + 1, cs => do
    let (item, rest) ← readValue fuel cs
    match skipBlanks rest with
    | ',' :: more =>
      let (items, after) ← readItems fuel (skipBlanks more)
      return (item :: items, after)
    | ']' :: after => return ([item], after)
    | rest => fail .noComma rest

/-- Read the fields of an object up to its closing brace, behind those already read. -/
def readFields : Nat → Fields → Reader Fields
  | 0, _, cs => fail .noKey cs
  | fuel + 1, fields, cs =>
    match cs with
    | '"' :: rest => do
      let (key, rest) ← readText rest
      match skipBlanks rest with
      | ':' :: rest =>
        let (value, rest) ← readValue fuel (skipBlanks rest)
        let fields := putField (.str key) value fields
        match skipBlanks rest with
        | ',' :: more => readFields fuel fields (skipBlanks more)
        | '\x7d' :: after => return (fields, after)
        | rest => fail .noComma rest
      | rest => fail .noColon rest
    | cs => fail .noKey cs

end

/-- Read a whole text: a value with blanks around it. -/
def readAll (cs : List Char) : Except Problem Value := do
  let (value, rest) ← readValue (cs.length + 1) (skipBlanks cs)
  let rest := skipBlanks rest
  if rest.isEmpty then return value else fail .more rest

/-- The failure of a problem with a text. -/
def Problem.failure (cs : List Char) : Problem → Failure
  | .fault found left => .value (.json found (.behind (cs.take (cs.length - left))))
  | .unsuitable found => .value found

/-- The value of a JSON **text**. -/
def parse (text : String) : Except Failure Value :=
  let cs := text.toList
  (readAll cs).mapError (·.failure cs)

end GuardedDispatch.Json
