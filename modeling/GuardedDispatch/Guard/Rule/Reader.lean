import GuardedDispatch.Failure
import GuardedDispatch.Text.Utf8
import GuardedDispatch.Value.Equality
import GuardedDispatch.Value.Printing

/-! # Reading rules

A rule is read from a map whose fields may be scalars or lists and may go by two names.

* **One shape** (`itemsOf`): an absent value is the empty list, a text or octets a list of one, and
  everything with members the list of its members.
* **All issues** of a rule are collected, in field order (`Rule.ofFields`); only a value without
  members where a list is needed ends the reading at once.
* **A raw rule** may also be a sequence of pairs (`Fields.ofValue`). -/

namespace GuardedDispatch

/-- The value under the first of the keys that is present, and that key. -/
def firstPresent? (fields : Fields) (keys : List String) : Option (String × Value) :=
  keys.findSome? fun key => (Value.field? fields key).map (key, ·)

/-- A value as a **list of items**. -/
def itemsOf : Value → Except TypeFault (List Value)
  | .null => .ok []
  | .str s => .ok [.str s]
  | .codes points halves => .ok [.codes points halves]
  | .bytes octets => .ok [.bytes octets]
  | v =>
    match v.members? with
    | some items => .ok items
    | none => .error (.notIterable v.kindName)

/-- Read a text; octets are text if they are UTF-8. -/
def readText : Value → Except Lack Word
  | .str s => .ok s
  | .codes points halves => .ok (.codes points halves)
  | .bytes octets =>
    match Text.Utf8.decode? octets with
    | some s => .ok s
    | none => .error .notUnicode
  | _ => .error .notText

/-- Read a text or the absent value. -/
def readText? : Value → Except Lack (Option Word)
  | .null => .ok none
  | v => (readText v).map some

/-- Read every item, from the given position on, and collect the issues of those that fail. -/
def readItems (read : Value → Except Lack α) (key : String) :
    Nat → List Value → Except (List Issue) (List α)
  | _, [] => .ok []
  | position, item :: rest =>
    match read item, readItems read key (position + 1) rest with
    | .ok x, .ok xs => .ok (x :: xs)
    | .ok _, .error issues => .error issues
    | .error lack, .ok _ => .error [⟨[.key key, .index position], lack⟩]
    | .error lack, .error issues => .error (⟨[.key key, .index position], lack⟩ :: issues)

/-- The issues of one field. -/
def issuesOf (field : Except (List Issue) α) : List Issue :=
  match field with
  | .ok _ => []
  | .error issues => issues

/-- Read a field of **targets**: texts, none if the field is absent. -/
def readTargets (fields : Fields) (keys : List String) :
    Except TypeFault (Except (List Issue) (List Word)) :=
  match firstPresent? fields keys with
  | none => .ok (.ok [])
  | some (key, v) => (itemsOf v).map (readItems readText key 0)

/-- Read the **actions**: an absent field or value stands for the one absent action. -/
def readActions (fields : Fields) :
    Except TypeFault (Except (List Issue) (List (Option Word))) :=
  match firstPresent? fields ["action", "actions"] with
  | none | some (_, .null) => .ok (.ok [none])
  | some (key, v) => (itemsOf v).map (readItems readText? key 0)

/-- Read the **roles**: at least one. -/
def readRoles (fields : Fields) : Except TypeFault (Except (List Issue) (List Word)) :=
  match firstPresent? fields ["roles", "role"] with
  | none => .ok (.error [⟨[.key "roles"], .missing⟩])
  | some (key, v) =>
    (itemsOf v).map fun items =>
      if items.isEmpty then .error [⟨[.key key], .noRole⟩] else readItems readText key 0 items

/-- Read the **assertion**: a text, or none. -/
def readAssertion (fields : Fields) : Except (List Issue) (Option Word) :=
  match Value.field? fields "assertion" with
  | none => .ok none
  | some v => (readText? v).mapError fun lack => [⟨[.key "assertion"], lack⟩]

/-- The keys under which a kind of guard finds its targets. -/
def GuardKind.targetKeys : GuardKind → List String
  | .controller => ["controller", "controllers"]
  | .route => ["route", "routes"]

/-- The printed name of the subject of issues with a rule. -/
def ruleSubject : String := "RuleSpec"

/-- Read a rule from the **fields** of a map. -/
def Rule.ofFields (fields : Fields) : Except RuleFault Rule := do
  let controllers ← (readTargets fields GuardKind.controller.targetKeys).mapError .type
  let actions ← (readActions fields).mapError .type
  let routes ← (readTargets fields GuardKind.route.targetKeys).mapError .type
  let roles ← (readRoles fields).mapError .type
  match controllers, actions, routes, roles, readAssertion fields with
  | .ok controllers, .ok actions, .ok routes, .ok roles, .ok assertion =>
    return { controllers, actions, routes, roles, assertion }
  | controllers, actions, routes, roles, assertion =>
    throw (.invalid ⟨ruleSubject, issuesOf controllers ++ issuesOf actions ++ issuesOf routes ++
      issuesOf roles ++ issuesOf assertion⟩)

/-- Read a rule from a value: a map, or a rule that has been read before. -/
def Rule.ofValue : Value → Except RuleFault Rule
  | .rule r => .ok r
  | v =>
    match v.fields? with
    | some fields => Rule.ofFields fields
    | none => .error (.invalid ⟨ruleSubject, [⟨[], .notRule⟩]⟩)

/-- Write one pair into the fields: a key and a value. -/
def Fields.putPair (fields : Fields) (index : Nat) (item : Value) : Except RuleFault Fields :=
  match item.members? with
  | none => .error (.type (.notPair index))
  | some [key, value] =>
    match key.unhashable? with
    | some kind => .error (.type (.unhashable kind))
    | none => .ok (putField key value fields)
  | some members => .error (.pairLength index members.length)

/-- Write pairs into the fields, from the given position on. -/
def Fields.putPairs (fields : Fields) : Nat → List Value → Except RuleFault Fields
  | _, [] => .ok fields
  | index, item :: rest => do Fields.putPairs (← fields.putPair index item) (index + 1) rest

/-- The **fields** of a raw rule: a map's own, or those that a sequence of pairs spells. -/
def Fields.ofValue (v : Value) : Except RuleFault Fields :=
  match v.fields?, v.members? with
  | some fields, _ => .ok fields
  | none, some items => Fields.putPairs [] 0 items
  | none, none => .error (.type (.notIterable v.kindName))

/-- Read a raw rule: one that has been read before, or anything that has fields. -/
def Rule.ofRaw : Value → Except RuleFault Rule
  | .rule r => .ok r
  | raw => do Rule.ofFields (← Fields.ofValue raw)

@[simp] theorem readText_str (s : String) : readText (.str s) = .ok (.text s) := rfl

@[simp] theorem readText_ofWord (word : Word) : readText (.ofWord word) = .ok word := by
  cases word <;> rfl

@[simp] theorem itemsOf_str (s : String) : itemsOf (.str s) = .ok [.str s] := rfl

@[simp] theorem itemsOf_list (items : List Value) : itemsOf (.list items) = .ok items := rfl

/-- A rule that has been read stays as it is. -/
@[simp] theorem Rule.ofRaw_rule (r : Rule) : Rule.ofRaw (.rule r) = .ok r := rfl

@[simp] theorem Rule.ofValue_rule (r : Rule) : Rule.ofValue (.rule r) = .ok r := rfl

end GuardedDispatch
