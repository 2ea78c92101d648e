import GuardedDispatch.Decimal.Reading
import GuardedDispatch.Text.Utf8

/-! # Percent encoding

Texts in addresses. **Encoding** writes the octets of a text, all but letters, digits, a few marks
and those given as safe as a percent sign and two digits. **Decoding** reads such triples back; a
percent sign that starts none stands for itself, and octets that are not UTF-8 are read leniently.
-/

namespace GuardedDispatch.Text.Percent

/-- The upper-case hexadecimal digit of a number below sixteen. -/
def hexDigit (n : Nat) : Char :=
  if n < 10 then Char.ofNat (48 + n) else Char.ofNat (55 + n)

/-- Letters, digits and the marks that are never encoded. -/
def isUnreserved (n : Nat) : Bool :=
  let c := Char.ofNat n
  n < 128 && (c.isAlphanum || c = '_' || c = '.' || c = '-' || c = '~')

/-- One octet, encoded unless it is safe. -/
def encodeOctet (safe : List Char) (octet : UInt8) : List Char :=
  let n := octet.toNat
  if isUnreserved n || (n < 128 && safe.contains (Char.ofNat n)) then [Char.ofNat n]
  else ['%', hexDigit (n / 16), hexDigit (n % 16)]

/-- The **encoded** form of a text. -/
def encode (safe : List Char) (s : String) : String :=
  String.ofList ((Utf8.encode s).flatMap (encodeOctet safe))

/-- The octets of a text whose triples are read back. -/
def octets : List Char → List UInt8
  | [] => []
  | '%' :: a :: b :: rest =>
    match Decimal.natural? 16 [a, b] with
    | some n => UInt8.ofNat n :: octets rest
    | none => '%'.toUInt8 :: octets (a :: b :: rest)
  | c :: rest => Utf8.encode (String.singleton c) ++ octets rest

/-- The **decoded** form of a text. -/
def decode (s : String) : String := Utf8.decodeLossy (octets s.toList)

@[simp] theorem octets_nil : octets [] = [] := rfl

end GuardedDispatch.Text.Percent
