/-! # Faults of JSON texts

Why a text is no JSON (`Json.Fault`), and where (`Json.Place`). -/

namespace GuardedDispatch.Json

/-- Why a text is **no JSON**. -/
inductive Fault where
  /-- There is no value where one is needed. -/
  | noValue
  /-- There is no key where one is needed. -/
  | noKey
  /-- There is no colon behind a key. -/
  | noColon
  /-- There is neither a comma nor a closing mark behind a value. -/
  | noComma
  /-- A text has no closing quote. -/
  | openText
  /-- A text holds a control character. -/
  | control
  /-- A backslash starts no escape. -/
  | escape
  /-- An escape by code unit lacks digits. -/
  | unit
  /-- Something stands behind the value. -/
  | more
  deriving DecidableEq, Repr

/-- The text of a fault. -/
def Fault.message : Fault → String
  | .noValue => "Expecting value"
  | .noKey => "Expecting property name enclosed in double quotes"
  | .noColon => "Expecting ':' delimiter"
  | .noComma => "Expecting ',' delimiter"
  | .openText => "Unterminated string starting at"
  | .control => "Invalid control character at"
  | .escape => "Invalid \\escape"
  | .unit => "Invalid \\uXXXX escape"
  | .more => "Extra data"

/-- A **place** in a text: its line and column, counted from one, and how many characters stand
before it. -/
structure Place where
  line : Nat
  column : Nat
  index : Nat
  deriving DecidableEq, Repr

/-- The place behind some characters. -/
def Place.behind (cs : List Char) : Place where
  line := cs.count '\n' + 1
  column := (cs.reverse.takeWhile (· ≠ '\n')).length + 1
  index := cs.length

/-- The text of a place. -/
def Place.text (place : Place) : String :=
  "line " ++ toString place.line ++ " column " ++ toString place.column ++ " (char " ++
    toString place.index ++ ")"

/-- Before all characters is the first column of the first line. -/
@[simp] theorem Place.behind_nil : Place.behind [] = ⟨1, 1, 0⟩ := rfl

end GuardedDispatch.Json
