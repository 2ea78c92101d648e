/-! # UTF-8

Reading octets as text. A **strict** reading (`Utf8.decode?`) refuses every octet sequence that
is not the shortest form of a character; a **lenient** one (`Utf8.decodeLossy`) puts the
replacement character where a sequence breaks off, once for each longest prefix of a well-formed
sequence. -/

namespace GuardedDispatch.Text.Utf8

/-- How many octets follow a leading octet, which values the first of them may have, and the bits
that the leading octet contributes. -/
structure Lead where
  trailing : Nat
  low : Nat
  high : Nat
  bits : Nat
  deriving DecidableEq, Repr

/-- The reading of a **leading octet** of a sequence of two to four octets. The bounds rule out
overlong forms, surrogates and code points past the last plane. -/
def Lead.ofOctet? (n : Nat) : Option Lead :=
  if 0xC2 ≤ n ∧ n ≤ 0xDF then some ⟨1, 0x80, 0xBF, n - 0xC0⟩
  else if n = 0xE0 then some ⟨2, 0xA0, 0xBF, 0⟩
  else if n = 0xED then some ⟨2, 0x80, 0x9F, 13⟩
  else if 0xE1 ≤ n ∧ n ≤ 0xEF then some ⟨2, 0x80, 0xBF, n - 0xE0⟩
  else if n = 0xF0 then some ⟨3, 0x90, 0xBF, 0⟩
  else if 0xF1 ≤ n ∧ n ≤ 0xF3 then some ⟨3, 0x80, 0xBF, n - 0xF0⟩
  else if n = 0xF4 then some ⟨3, 0x80, 0x8F, 4⟩
  else none

/-- The state between two octets: nothing pending, or a sequence of which `missing` octets are
still to come, the next one between `low` and `high`. -/
inductive State where
  /-- Between two characters. -/
  | idle
  /-- Inside a character. -/
  | within (missing low high bits : Nat)
  deriving DecidableEq, Repr

/-- Read one octet between two characters: a character, a new state, or nothing for an octet that
cannot start one. -/
def start? (octet : UInt8) : Option (Option Char × State) :=
  let n := octet.toNat
  if n < 0x80 then some (some (Char.ofNat n), .idle)
  else (Lead.ofOctet? n).map fun lead => (none, .within lead.trailing lead.low lead.high lead.bits)

/-- Read one octet in any state. -/
def step? : State → UInt8 → Option (Option Char × State)
  | .idle, octet => start? octet
  | .within missing low high bits, octet =>
    let n := octet.toNat
    if low ≤ n ∧ n ≤ high then
      let bits := bits * 64 + (n - 0x80)
      if missing ≤ 1 then some (some (Char.ofNat bits), .idle)
      else some (none, .within (missing - 1) 0x80 0xBF bits)
    else
      none

/-- Read octets strictly from a state. -/
def decodeFrom? : State → List UInt8 → Option (List Char)
  | .idle, [] => some []
  | .within .., [] => none
  | state, octet :: rest => do
    let (char, next) ← step? state octet
    let chars ← decodeFrom? next rest
    return char.toList ++ chars

/-- How many octets can be read strictly from a state, up to one that breaks off. -/
def soundLengthFrom : State → List UInt8 → Nat
  | _, [] => 0
  | state, octet :: rest =>
    match step? state octet with
    | some (_, next) => soundLengthFrom next rest + 1
    | none => 0

/-- How many octets can be read strictly, up to one that breaks off. -/
def soundLength (octets : List UInt8) : Nat := soundLengthFrom .idle octets

/-- The characters that octets spell from a state, up to a sequence that breaks off. -/
def decodePrefixFrom : State → List UInt8 → List Char
  | _, [] => []
  | state, octet :: rest =>
    match step? state octet with
    | some (char, next) => char.toList ++ decodePrefixFrom next rest
    | none => []

/-- The characters that octets spell, up to a sequence that breaks off. -/
def decodePrefix (octets : List UInt8) : List Char := decodePrefixFrom .idle octets

/-- The text that the octets spell, or nothing if they are not well formed. -/
def decode? (octets : List UInt8) : Option String :=
  (decodeFrom? .idle octets).map String.ofList

/-- What is written for a sequence that breaks off. -/
def replacement : Char := Char.ofNat 0xFFFD

/-- Read octets leniently from a state. -/
def decodeLossyFrom : State → List UInt8 → List Char
  | .idle, [] => []
  | .within .., [] => [replacement]
  | state, octet :: rest =>
    match step? state octet with
    | some (char, next) => char.toList ++ decodeLossyFrom next rest
    | none =>
      match state with
      | .idle => replacement :: decodeLossyFrom .idle rest
      | .within .. =>
        match start? octet with
        | some (char, next) => replacement :: char.toList ++ decodeLossyFrom next rest
        | none => replacement :: replacement :: decodeLossyFrom .idle rest

/-- The text that the octets spell, with `replacement` where they are not well formed. -/
def decodeLossy (octets : List UInt8) : String :=
  String.ofList (decodeLossyFrom .idle octets)

/-- The octets of a text. -/
def encode (s : String) : List UInt8 := s.toUTF8.toList

/-- The octets of a text, each as a character of its own. -/
def octetChars (s : String) : List Char := (encode s).map fun octet => Char.ofNat octet.toNat

@[simp] theorem encode_empty : encode "" = [] := ByteArray.toList_empty

@[simp] theorem decodeFrom?_idle_nil : decodeFrom? .idle [] = some [] := rfl

@[simp] theorem decodeLossyFrom_idle_nil : decodeLossyFrom .idle [] = [] := rfl

end GuardedDispatch.Text.Utf8
