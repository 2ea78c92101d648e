/-! # Tags

What a node is. A **tag** is a name; the names under one beginning are those of the kinds of value
that documents can hold, and all others name nothing that can be read. -/

namespace GuardedDispatch.Yaml

/-- A **tag**. -/
inductive Tag where
  /-- The absent value. -/
  | null
  /-- A truth value. -/
  | bool
  /-- An integer. -/
  | int
  /-- A floating-point number. -/
  | float
  /-- Octets. -/
  | binary
  /-- A date. -/
  | timestamp
  /-- A text. -/
  | str
  /-- A list. -/
  | seq
  /-- A map. -/
  | map
  /-- A set. -/
  | set
  /-- A list of pairs without equal keys. -/
  | orderedMap
  /-- A list of pairs. -/
  | pairs
  /-- The key under which a map takes over the fields of others. -/
  | merge
  /-- The key of the value that stands for a map. -/
  | value
  /-- Any other name. -/
  | other (name : String)
  deriving DecidableEq, Repr

namespace Tag

/-- The beginning of the names of all tags that can be read. -/
def beginning : String := "tag:yaml.org,2002:"

/-- The tags that can be read, by what follows the beginning of their names. -/
def known : List (String × Tag) :=
  [("null", .null), ("bool", .bool), ("int", .int), ("float", .float), ("binary", .binary),
   ("timestamp", .timestamp), ("str", .str), ("seq", .seq), ("map", .map), ("set", .set),
   ("omap", .orderedMap), ("pairs", .pairs), ("merge", .merge), ("value", .value)]

/-- The tag of a **name**. -/
def ofName (name : String) : Tag :=
  match known.find? fun entry => beginning ++ entry.1 == name with
  | some (_, tag) => tag
  | none => .other name

/-- Whether the values under a tag are collections. -/
def isCollection : Tag → Bool
  | seq | map | set | orderedMap | pairs => true
  | _ => false

end Tag

end GuardedDispatch.Yaml
