import GuardedDispatch.Text.Blank
import GuardedDispatch.Text.Utf8
import GuardedDispatch.Yaml.Cursor

/-! # Sources

The characters of a text, as far as they can be read (`Source`). A text is read in blocks
(`blockStart`), and only when the first character of a block is needed is it noticed that the block
holds what cannot be read: octets that are not text, or a character that may not stand in a text.
So a text that is not well formed near its start may well break off somewhere behind. -/

namespace GuardedDispatch.Yaml

/-- A **source**: the characters that can be read, and what is wrong behind them, if anything. -/
structure Source where
  chars : List Char
  beyond : Option Fault := none

/-- The length of a block. -/
def blockLength : Nat := 4096

/-- The number of octets that are decoded at a time. -/
def octetBlockLength : Nat := 8192

/-- Where the block of a character **starts**. The first two blocks are read together. -/
def blockStart (index : Nat) : Nat :=
  if index < 2 * blockLength then 0 else index / blockLength * blockLength

/-- Whether a character may stand in a text. -/
def isAllowed (c : Char) : Bool :=
  let n := c.toNat
  n = 0x9 || n = 0xA || n = 0xD || (0x20 ≤ n && n ≤ 0x7E) || n = 0x85 ||
    (0xA0 ≤ n && n ≠ 0xFFFE && n ≠ 0xFFFF)

namespace Source

/-- The source of characters, behind which something may be wrong. -/
def ofChars (cs : List Char) (beyond : Option Fault) : Source :=
  match cs.findIdx? (!isAllowed ·) with
  | some index => ⟨cs.take (blockStart index), some .malformed⟩
  | none => ⟨cs, beyond⟩

/-- The source of a **text**, whose line ends are folded. -/
def ofText (text : String) : Source := ofChars (Text.foldLineEnds text.toList) none

/-- The source of **octets**, as far as they are UTF-8. -/
def ofOctets (octets : List UInt8) : Source :=
  match Text.Utf8.decode? octets with
  | some text => ofText text
  | none =>
    let count := Text.Utf8.soundLength octets / octetBlockLength * octetBlockLength
    let cs := Text.foldLineEnds (Text.Utf8.decodePrefix (octets.take count))
    ofChars (cs.take (blockStart cs.length)) (some (.unsuitable .undecodable))

end Source

end GuardedDispatch.Yaml
