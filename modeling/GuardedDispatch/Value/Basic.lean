import GuardedDispatch.Access.Identity
import GuardedDispatch.Calendar.Date
import GuardedDispatch.Guard.Rule
import GuardedDispatch.Value.Raised

/-! # Values

The dynamic values that documents, parameters and results are made of. Maps keep the order in
which their keys were first written. Values have a name of their kind (`Value.kindName`), a truth
value (`Value.truthy`) and, some of them, members (`Value.members?`).

A list or map may contain itself. It is then written as a knot: it bears a label, and inside it the
label stands for the whole. Values that are handed out have no labels of knots around them, because
a knot is opened before it is taken apart (`Value.opened`). -/

namespace GuardedDispatch

/-- A dynamic **value**. -/
inductive Value where
  /-- The absent value. -/
  | null
  /-- A truth value. -/
  | bool (b : Bool)
  /-- An integer of any size. -/
  | int (i : Int)
  /-- A floating-point number. -/
  | float (x : Float)
  /-- What is not a number, although its kind is that of floating-point numbers. It bears a mark,
  for it is the same as nothing but itself. -/
  | nan (mark : Nat)
  /-- A text. -/
  | str (s : String)
  /-- A text by its code points, some of which are no characters but halves of pairs. -/
  | codes (points : List Nat) (halves : ∃ point ∈ points, ¬ point.isValidChar)
  /-- Octets. -/
  | bytes (octets : List UInt8)
  /-- A list. -/
  | list (items : List Value)
  /-- A fixed sequence: it has members like a list, but is none. -/
  | tuple (items : List Value)
  /-- A set, each member once. -/
  | set (items : List Value)
  /-- A map from keys of any hashable kind. -/
  | map (fields : List (Value × Value))
  /-- A day. -/
  | date (d : Calendar.Date)
  /-- A moment. -/
  | moment (m : Calendar.Moment)
  /-- An identity. -/
  | identity (i : Identity)
  /-- A raised error that travels as a value. -/
  | error (e : Raised)
  /-- An HTTP response: status, lists of header values by name, content. -/
  | http (status : Value) (headers : List (Value × Value)) (content : Value)
  /-- A response that is not an HTTP response. -/
  | response
  /-- A rule that has already been read. -/
  | rule (r : Rule)
  /-- A list or map that contains itself: it bears a label. -/
  | knot (label : Nat) (body : Value)
  /-- The list or map around that bears a label. -/
  | again (label : Nat) (inMap : Bool)
  deriving Inhabited

/-- The fields of a map. -/
abbrev Fields := List (Value × Value)

namespace Value

/-- The name of a value's kind, as messages give it. -/
def kindName : Value → String
  | .null => "NoneType"
  | .bool _ => "bool"
  | .int _ => "int"
  | .float _ | .nan _ => "float"
  | .str _ | .codes .. => "str"
  | .bytes _ => "bytes"
  | .list _ => "list"
  | .tuple _ => "tuple"
  | .set _ => "set"
  | .map _ => "dict"
  | .date _ => "datetime.date"
  | .moment _ => "datetime.datetime"
  | .identity _ => "Identity"
  | .error e => e.kind.name
  | .http .. => "HttpResponse"
  | .response => "Response"
  | .rule _ => "RuleSpec"
  | .knot _ body => kindName body
  | .again _ inMap => if inMap then "dict" else "list"

/-- Whether a value counts as **true**: the absent value, zero and everything empty do not. -/
def truthy : Value → Bool
  | .null => false
  | .bool b => b
  | .int i => i ≠ 0
  | .float x => !(x == 0)
  | .str s => !s.isEmpty
  | .bytes octets => !octets.isEmpty
  | .list items | .tuple items | .set items => !items.isEmpty
  | .map fields => !fields.isEmpty
  | _ => true

/-- Whether the value is the absent one. -/
def isNull : Value → Bool
  | .null => true
  | _ => false

/-- Whether the value is a text. -/
def isText : Value → Bool
  | .str _ | .codes .. => true
  | _ => false

/-- The word that a value is, if it is a text. -/
def word? : Value → Option Word
  | .str s => some s
  | .codes points halves => some (.codes points halves)
  | _ => none

/-- Whether the value is a response of any kind. -/
def isResponse : Value → Bool
  | .http .. | .response => true
  | _ => false

mutual

/-- A value in which the whole stands in the place of its label. -/
def tie (label : Nat) (whole : Value) : Value → Value
  | .again l inMap => if l = label then whole else .again l inMap
  | .list items => .list (tieItems label whole items)
  | .tuple items => .tuple (tieItems label whole items)
  | .map fields => .map (tieFields label whole fields)
  | .knot l body => if l = label then .knot l body else .knot l (tie label whole body)
  | v => v

/-- Items in which the whole stands in the place of its label. -/
def tieItems (label : Nat) (whole : Value) : List Value → List Value
  | [] => []
  | v :: rest => tie label whole v :: tieItems label whole rest

/-- Fields in which the whole stands in the place of its label. -/
def tieFields (label : Nat) (whole : Value) : Fields → Fields
  | [] => []
  | (k, v) :: rest => (k, tie label whole v) :: tieFields label whole rest

end

/-- A value that is no knot: a knot is **opened**, so that its parts can be taken out. -/
def opened : Value → Value
  | .knot label body => tie label (.knot label body) body
  | v => v

/-- The fields of a map. -/
def fields? (v : Value) : Option Fields :=
  match v.opened with
  | .map fields => some fields
  | _ => none

/-- The items of a list. -/
def items? (v : Value) : Option (List Value) :=
  match v.opened with
  | .list items => some items
  | _ => none

/-- A text, or the absent value. -/
def ofText? (s : Option String) : Value := (s.map Value.str).getD .null

/-- A word as a value. -/
def ofWord : Word → Value
  | .text s => .str s
  | .codes points halves => .codes points halves

/-- A word, or the absent value. -/
def ofWord? (word : Option Word) : Value := (word.map ofWord).getD .null

/-- A list of words. -/
def ofWords (words : List Word) : Value := .list (words.map ofWord)

/-- A rule as the pairs of its field names and values. -/
def ofRule (r : Rule) : List (String × Value) :=
  [("controllers", ofWords r.controllers),
   ("actions", .list (r.actions.map ofWord?)),
   ("routes", ofWords r.routes),
   ("roles", ofWords r.roles),
   ("assertion", ofWord? r.assertion)]

/-- A code point as a text. -/
def ofCode (point : Nat) : Value := ofWord (.ofPoints [point])

/-- The **members** of a value in order, if it can be gone through: the characters of a text, the
octets, the items of a sequence or set, the keys of a map, the fields of a rule. -/
def members? (v : Value) : Option (List Value) :=
  match v.opened with
  | .str s => some (s.toList.map fun c => .str (String.singleton c))
  | .codes points _ => some (points.map ofCode)
  | .bytes octets => some (octets.map fun octet => .int octet.toNat)
  | .list items | .tuple items | .set items => some items
  | .map fields => some (fields.map (·.1))
  | .rule r => some ((ofRule r).map fun field => .tuple [.str field.1, field.2])
  | _ => none

@[simp] theorem fields?_map (fields : Fields) : fields? (.map fields) = some fields := rfl

@[simp] theorem items?_list (items : List Value) : items? (.list items) = some items := rfl

@[simp] theorem members?_list (items : List Value) : members? (.list items) = some items := rfl

/-- Opening a knot puts the knot itself in the place of its label. -/
@[simp] theorem opened_knot (label : Nat) (body : Value) :
    opened (.knot label body) = tie label (.knot label body) body := rfl

/-- Only the absent value is absent. -/
theorem isNull_iff {v : Value} : v.isNull = true ↔ v = .null := by
  cases v <;> simp [isNull]

@[simp] theorem truthy_null : truthy .null = false := rfl

@[simp] theorem truthy_bool (b : Bool) : truthy (.bool b) = b := rfl

@[simp] theorem truthy_str (s : String) : truthy (.str s) = !s.isEmpty := rfl

@[simp] theorem ofText?_none : ofText? none = .null := rfl

@[simp] theorem ofText?_some (s : String) : ofText? (some s) = .str s := rfl

@[simp] theorem ofWord_text (s : String) : ofWord (.text s) = .str s := rfl

@[simp] theorem isText_ofWord (word : Word) : (ofWord word).isText = true := by
  cases word <;> rfl

/-- The words are the texts. -/
theorem word?_eq_some_iff {v : Value} {word : Word} : v.word? = some word ↔ v = ofWord word := by
  cases v <;> cases word <;> simp [word?, ofWord]

@[simp] theorem word?_ofWord (word : Word) : (ofWord word).word? = some word :=
  word?_eq_some_iff.2 rfl

/-- Every text is a word. -/
theorem exists_eq_ofWord {v : Value} (isText : v.isText = true) : ∃ word, v = ofWord word := by
  cases v with
  | str s => exact ⟨.text s, rfl⟩
  | codes points halves => exact ⟨.codes points halves, rfl⟩
  | _ => cases isText

/-- A word counts as true unless it is empty. -/
theorem truthy_ofWord_iff {word : Word} : (ofWord word).truthy = true ↔ word ≠ .text "" := by
  cases word <;> simp [ofWord, truthy]

@[simp] theorem isNull_ofWord (word : Word) : (ofWord word).isNull = false := by
  cases word <;> rfl

theorem ofWord_ne_null (word : Word) : ofWord word ≠ .null := by
  cases word <;> simp [ofWord]

theorem ofWord_injective {v w : Word} (same : ofWord v = ofWord w) : v = w := by
  cases v <;> cases w <;> simp_all [ofWord]

@[simp] theorem ofWord?_none : ofWord? none = .null := rfl

@[simp] theorem ofWord?_some (word : Word) : ofWord? (some word) = ofWord word := rfl

end Value

end GuardedDispatch
