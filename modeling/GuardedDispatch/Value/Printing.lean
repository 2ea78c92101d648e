import GuardedDispatch.Decimal.Limit
import GuardedDispatch.Decimal.Shortest
import GuardedDispatch.Failure
import GuardedDispatch.Text.Utf8
import GuardedDispatch.Value.Basic

/-! # Printed values

The text of a value. A text prints as itself (`Value.word`, and `Value.text` as it is shown), but
stands in quotes inside a list or a map (`Value.quoted`); the other kinds print the same way in both
places, apart from dates, identities, errors and rules, which name their kind when they stand inside
another value. Where a list or map would stand inside itself, only its brackets are printed.

A value that holds an integer of too many digits cannot be printed (`Value.print`,
`Value.printWord`), neither on its own nor inside another (`Value.printQuoted`). -/

namespace GuardedDispatch

/-- Whole numbers in decimal digits, with a sign when negative. -/
def integerText (i : Int) : String :=
  if i < 0 then "-" ++ toString i.natAbs else toString i.natAbs

namespace Value

/-- The printed truth values. -/
def boolText (b : Bool) : String := if b then "True" else "False"

/-- Parts between brackets, with commas. -/
def bracketed (opening closing : String) (parts : List String) : String :=
  opening ++ ", ".intercalate parts ++ closing

/-- A list of words in quotes. -/
def quotedWords (words : List Word) : String := bracketed "[" "]" (words.map Word.quoted)

/-- The printed form of a set of roles. -/
def quotedRoles (roles : List Word) : String :=
  if roles.isEmpty then "frozenset()"
  else bracketed "frozenset(\x7b" "\x7d)" (roles.map Word.quoted)

/-- The printed form of an optional word. -/
def quotedWord? (word : Option Word) : String := (word.map Word.quoted).getD "None"

/-- The fields of a rule as equations. -/
def ruleEquations (r : Rule) : List String :=
  ["controllers=" ++ quotedWords r.controllers,
   "actions=" ++ bracketed "[" "]" (r.actions.map quotedWord?),
   "routes=" ++ quotedWords r.routes,
   "roles=" ++ quotedWords r.roles,
   "assertion=" ++ quotedWord? r.assertion]

/-- The printed form of an identity. -/
def identityText (i : Identity) : String :=
  "Identity(subject=" ++ GuardedDispatch.Text.quoted i.subject ++ ", roles=" ++
    quotedRoles i.sortedRoles ++ ")"

/-- The printed form of a response, given those of its parts. -/
def responseText (status headers content : String) : String :=
  "HttpResponse(status_code=" ++ status ++ ", headers=" ++ headers ++ ", content=" ++ content ++ ")"

/-- A fixed sequence; a comma marks one with a single item. -/
def tupleText : List String → String
  | [part] => "(" ++ part ++ ",)"
  | parts => bracketed "(" ")" parts

/-- A set; empty braces would be an empty map. -/
def setText (parts : List String) : String :=
  if parts.isEmpty then "set()" else bracketed "\x7b" "\x7d" parts

/-- What stands where a list or map would stand inside itself. -/
def ellipsis (inMap : Bool) : String := if inMap then "\x7b...\x7d" else "[...]"

/-- Whether a value is a map. -/
def isMap : Value → Bool
  | .map _ => true
  | _ => false

mutual

/-- The printed form of a value inside lists and maps, some of which bear labels. -/
def quotedWithin (labels : List Nat) : Value → String
  | .null => "None"
  | .bool b => boolText b
  | .int i => integerText i
  | .float x => Decimal.text x
  | .nan _ => "nan"
  | .str s => GuardedDispatch.Text.quoted s
  | .codes points _ => GuardedDispatch.Text.quotedCodes points
  | .bytes octets => GuardedDispatch.Text.quotedOctets octets
  | .list items => bracketed "[" "]" (quotedItems labels items)
  | .tuple items => tupleText (quotedItems labels items)
  | .set items => setText (quotedItems labels items)
  | .map fields => bracketed "\x7b" "\x7d" (quotedFields labels fields)
  | .date d => d.quoted
  | .moment m => m.quoted
  | .identity i => identityText i
  | .error e => e.quoted
  | .http status headers content =>
    responseText (quotedWithin labels status)
      (bracketed "\x7b" "\x7d" (quotedFields labels headers)) (quotedWithin labels content)
  | .response => "<Response>"
  | .rule r => bracketed "RuleSpec(" ")" (ruleEquations r)
  | .knot label body =>
    if labels.contains label then ellipsis body.isMap else quotedWithin (label :: labels) body
  | .again _ inMap => ellipsis inMap

/-- The printed forms of items. -/
def quotedItems (labels : List Nat) : List Value → List String
  | [] => []
  | v :: rest => quotedWithin labels v :: quotedItems labels rest

/-- The printed forms of fields. -/
def quotedFields (labels : List Nat) : Fields → List String
  | [] => []
  | (k, v) :: rest =>
    (quotedWithin labels k ++ ": " ++ quotedWithin labels v) :: quotedFields labels rest

end

/-- The printed form of a value **inside** a list or a map. -/
def quoted (v : Value) : String := quotedWithin [] v

/-- The **word** of a value on its own: a text is its own. -/
def word : Value → Word
  | .str s => s
  | .codes points halves => .codes points halves
  | .date d => d.text
  | .moment m => m.text " "
  | .identity i => i.subject
  | .error e => e.text
  | .rule r => " ".intercalate (ruleEquations r)
  | v => quoted v

/-- The **text** of a value on its own, as it is shown. -/
def text (v : Value) : String := v.word.shown

mutual

/-- Whether a value holds an integer of too many digits. -/
def holdsLong : Value → Bool
  | .int i => Decimal.isLong i
  | .list items | .tuple items | .set items => holdsLongItem items
  | .map fields => holdsLongField fields
  | .http status headers content =>
    holdsLong status || holdsLongField headers || holdsLong content
  | .knot _ body => holdsLong body
  | _ => false

/-- Whether one of some items holds an integer of too many digits. -/
def holdsLongItem : List Value → Bool
  | [] => false
  | v :: rest => holdsLong v || holdsLongItem rest

/-- Whether one of some fields holds an integer of too many digits. -/
def holdsLongField : Fields → Bool
  | [] => false
  | (k, v) :: rest => holdsLong k || holdsLong v || holdsLongField rest

end

/-- What is written of a value, unless the value is **long**. -/
def unlessLong {α : Type} (v : Value) (written : α) : Except Failure α :=
  if v.holdsLong then .error (.value (.tooManyDigits none)) else .ok written

/-- **Print** a value on its own, if that can be done. -/
def print (v : Value) : Except Failure String := v.unlessLong v.text

/-- Print a value on its own **as a word**, if that can be done. -/
def printWord (v : Value) : Except Failure Word := v.unlessLong v.word

/-- Print a value as it stands **inside** a list or a map, if that can be done. -/
def printQuoted (v : Value) : Except Failure String := v.unlessLong v.quoted

/-- The text of a value on its own, as a value. -/
def asText (v : Value) : Value := .ofWord v.word

/-- The printed value **as a text**, if it can be printed. -/
def printed (v : Value) : Except Failure Value := v.unlessLong v.asText

@[simp] theorem text_str (s : String) : text (.str s) = s := rfl

@[simp] theorem word_str (s : String) : word (.str s) = s := rfl

@[simp] theorem text_null : text .null = "None" := by
  simp [text, word, quoted, quotedWithin]

/-- Only of what is long nothing can be written. -/
theorem unlessLong_eq_error_iff {α : Type} {v : Value} {written : α} {failure : Failure} :
    v.unlessLong written = .error failure ↔
      v.holdsLong = true ∧ failure = .value (.tooManyDigits none) := by
  unfold unlessLong
  cases v.holdsLong <;> simp [eq_comm]

/-- What is written of a value is there only if the value is not long. -/
theorem unlessLong_eq_ok_iff {α : Type} {v : Value} {written other : α} :
    v.unlessLong written = .ok other ↔ v.holdsLong = false ∧ other = written := by
  unfold unlessLong
  cases v.holdsLong <;> simp [eq_comm]

/-- Of what is long nothing is written. -/
theorem unlessLong_of_long {α : Type} {v : Value} (long : v.holdsLong = true) (written : α) :
    v.unlessLong written = .error (.value (.tooManyDigits none)) :=
  unlessLong_eq_error_iff.2 ⟨long, rfl⟩

/-- What is not long is written. -/
theorem unlessLong_of_short {α : Type} {v : Value} (short : v.holdsLong = false) (written : α) :
    v.unlessLong written = .ok written := by
  rw [unlessLong, short]
  rfl

@[simp] theorem holdsLong_ofWord (word : Word) : (ofWord word).holdsLong = false := by
  cases word <;> simp [ofWord, holdsLong]

/-- A word is printed as it is. -/
@[simp] theorem word_ofWord (word : Word) : (ofWord word).word = word := by
  cases word <;> rfl

@[simp] theorem print_str (s : String) : print (.str s) = .ok s := by
  simp [print, unlessLong, holdsLong]

@[simp] theorem printWord_ofWord (word : Word) : printWord (ofWord word) = .ok word := by
  simp [printWord, unlessLong]

end Value

end GuardedDispatch
