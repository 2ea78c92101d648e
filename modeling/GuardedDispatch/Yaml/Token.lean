import GuardedDispatch.Yaml.Cursor

/-! # Tokens

The marks and words that a document is made of. Blocks have no closing mark in the text: the lexer
derives one from the columns in which lines start. -/

namespace GuardedDispatch.Yaml

/-- A **token**. -/
inductive Token where
  /-- A line that names the version of the format. -/
  | version (major : Nat)
  /-- A line that gives a handle for the beginning of tags. -/
  | handle (name beginning : String)
  /-- A line with an instruction of no meaning here. -/
  | instruction
  /-- The mark before a document. -/
  | documentStart
  /-- The mark behind a document. -/
  | documentEnd
  /-- A block of items begins. -/
  | itemsStart
  /-- A block of fields begins. -/
  | fieldsStart
  /-- A block ends. -/
  | blockEnd
  /-- An opening bracket. -/
  | bracketOpen
  /-- A closing bracket. -/
  | bracketClose
  /-- An opening brace. -/
  | braceOpen
  /-- A closing brace. -/
  | braceClose
  /-- The mark before an item of a block. -/
  | item
  /-- A comma. -/
  | comma
  /-- The mark before a key; before most keys it is not written. -/
  | key
  /-- The mark before a value. -/
  | value
  /-- A reference to an anchored node. -/
  | reference (name : String)
  /-- A name for the node that follows. -/
  | anchor (name : String)
  /-- The tag of the node that follows: a handle, if it has one, and what follows the handle. -/
  | tag (handle : Option String) (suffix : String)
  /-- A text, and whether it is written plainly, without quotes. -/
  | scalar (text : String) (plain : Bool)
  /-- A text in quotes with code points that are no characters. -/
  | codes (points : List Nat)
  /-- The place where the tokens break off. -/
  | broken (fault : Fault)
  deriving DecidableEq, Repr

end GuardedDispatch.Yaml
