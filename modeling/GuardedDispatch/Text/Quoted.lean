import GuardedDispatch.Text.Lowercase
import GuardedDispatch.Text.PrintableTable

/-! # Quoted texts

The **quoted form** of a text, as it stands inside the printed form of a list or a map: single
quotes, unless the text holds a single quote and no double one; a backslash before the quote and
before a backslash; short escapes for the line and tab characters; and hexadecimal escapes for
every other character that is not printable. -/

namespace GuardedDispatch.Text

/-- Whether a quoted text shows the character as it is. -/
def isPrintable (c : Char) : Bool :=
  if c.toNat < 128 then 32 ≤ c.toNat && c.toNat < 127 else inRanges printableRanges c.toNat

namespace Quoted

/-- The lower-case hexadecimal digit of a number below sixteen. -/
def hexDigit (n : Nat) : Char :=
  if n < 10 then Char.ofNat (48 + n) else Char.ofNat (87 + n)

/-- The last `width` hexadecimal digits of a number. -/
def hex : Nat → Nat → List Char
  | 0, _ => []
  | width + 1, n => hex width (n / 16) ++ [hexDigit (n % 16)]

/-- The **quote** that a text is written between. -/
def quoteFor (cs : List Char) : Char :=
  if cs.contains '\'' && !cs.contains '"' then '"' else '\''

/-- One character between the given quotes. -/
def escape (quote c : Char) : List Char :=
  if c = quote ∨ c = '\\' then ['\\', c]
  else if c = '\n' then ['\\', 'n']
  else if c = '\r' then ['\\', 'r']
  else if c = '\t' then ['\\', 't']
  else if isPrintable c then [c]
  else if c.toNat < 0x100 then '\\' :: 'x' :: hex 2 c.toNat
  else if c.toNat < 0x10000 then '\\' :: 'u' :: hex 4 c.toNat
  else '\\' :: 'U' :: hex 8 c.toNat

/-- The quoted form of the characters of a text. -/
def encode (cs : List Char) : List Char :=
  let quote := quoteFor cs
  quote :: cs.flatMap (escape quote) ++ [quote]

/-- One octet between the given quotes: ASCII octets as characters, all others by their value. -/
def escapeOctet (quote : Char) (octet : UInt8) : List Char :=
  if octet.toNat < 128 then escape quote (Char.ofNat octet.toNat)
  else '\\' :: 'x' :: hex 2 octet.toNat

@[simp] theorem length_hex (width n : Nat) : (hex width n).length = width := by
  induction width generalizing n with
  | zero => rfl
  | succ width ih => simp [hex, ih]

end Quoted

/-- The **quoted form** of a text. -/
def quoted (s : String) : String := String.ofList (Quoted.encode s.toList)

/-- One code point between the given quotes; one that is no character is written by its value. -/
def Quoted.escapeCode (quote : Char) (point : Nat) : List Char :=
  if point.isValidChar then escape quote (Char.ofNat point) else '\\' :: 'u' :: hex 4 point

/-- The quoted form of code points. -/
def quotedCodes (points : List Nat) : String :=
  let quote := Quoted.quoteFor (points.map Char.ofNat)
  String.ofList (quote :: points.flatMap (Quoted.escapeCode quote) ++ [quote])

/-- The quoted form of octets: a letter b, then the octets between quotes. -/
def quotedOctets (octets : List UInt8) : String :=
  let quote := Quoted.quoteFor (octets.map fun octet => Char.ofNat octet.toNat)
  String.ofList ('b' :: quote :: octets.flatMap (Quoted.escapeOctet quote) ++ [quote])

end GuardedDispatch.Text
