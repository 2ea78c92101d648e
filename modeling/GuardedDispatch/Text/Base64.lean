/-! # Base 64

Octets written with sixty-four characters, four characters for three octets, and padding signs where
fewer octets are left. Reading passes over all other characters, and stops where padding completes a
group. -/

namespace GuardedDispatch.Text.Base64

/-- The value of a character. -/
def value? (c : Char) : Option Nat :=
  if 'A' ≤ c ∧ c ≤ 'Z' then some (c.toNat - 'A'.toNat)
  else if 'a' ≤ c ∧ c ≤ 'z' then some (c.toNat - 'a'.toNat + 26)
  else if '0' ≤ c ∧ c ≤ '9' then some (c.toNat - '0'.toNat + 52)
  else if c = '+' then some 62
  else if c = '/' then some 63
  else none

/-- A **group** under way: the values read so far, at most three, and the padding behind them. -/
structure Group where
  values : List Nat := []
  padding : Nat := 0

namespace Group

/-- Whether padding completes the group. -/
def isPadded (group : Group) : Bool :=
  2 ≤ group.values.length && 4 ≤ group.values.length + group.padding

/-- The group with one more padding sign; in front of two values it does not count. -/
def pad (group : Group) : Group :=
  if 2 ≤ group.values.length then ⟨group.values, group.padding + 1⟩ else group

/-- The octets of the values so far; bits that make up no whole octet are dropped. -/
def octets (group : Group) : List UInt8 :=
  match group.values with
  | [a, b] => [UInt8.ofNat (a * 4 + b / 16)]
  | [a, b, c] => [UInt8.ofNat (a * 4 + b / 16), UInt8.ofNat (b % 16 * 16 + c / 4)]
  | [a, b, c, d] =>
    [UInt8.ofNat (a * 4 + b / 16), UInt8.ofNat (b % 16 * 16 + c / 4), UInt8.ofNat (c % 4 * 64 + d)]
  | _ => []

end Group

/-- Read characters behind those of a group. -/
def decodeFrom? (group : Group) : List Char → Option (List UInt8)
  | [] => if group.values.isEmpty then some [] else none
  | c :: rest =>
    match value? c with
    | some value =>
      let values := group.values ++ [value]
      if values.length = 4 then
        (decodeFrom? {} rest).map ((Group.mk values 0).octets ++ ·)
      else decodeFrom? ⟨values, 0⟩ rest
    | none =>
      if c = '=' then
        let padded := group.pad
        if padded.isPadded then some padded.octets else decodeFrom? padded rest
      else decodeFrom? group rest

/-- The octets that characters **spell**, if their groups are complete. -/
def decode? (cs : List Char) : Option (List UInt8) := decodeFrom? {} cs

@[simp] theorem decode?_nil : decode? [] = some [] := rfl

end GuardedDispatch.Text.Base64
