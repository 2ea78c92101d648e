import GuardedDispatch.Text.Word

/-! # Raised errors

Errors that applications, listeners and assertions raise themselves: a kind and a text. Such an
error may also travel as a value, as the parameter of an event. -/

namespace GuardedDispatch

/-- The **kinds** of error that can be raised by name. -/
inductive ErrorKind where
  /-- The identity may not access a resource. -/
  | unauthorized
  /-- Rules or settings are malformed. -/
  | configuration
  /-- Any error of the pipeline itself. -/
  | general
  /-- A failure while running. -/
  | runtime
  /-- An unsuitable value. -/
  | value
  /-- A guard outcome moved along an edge that does not exist. -/
  | transition
  deriving DecidableEq, Repr

/-- The printed name of a kind. -/
def ErrorKind.name : ErrorKind → String
  | .unauthorized => "UnAuthorizedException"
  | .configuration => "ConfigurationError"
  | .general => "GatekeeperError"
  | .runtime => "RuntimeError"
  | .value => "ValueError"
  | .transition => "InvalidTransition"

/-- An error with its text. -/
structure Raised where
  kind : ErrorKind
  text : Word
  deriving DecidableEq, Repr

/-- The printed form of a raised error inside a list or a map. -/
def Raised.quoted (error : Raised) : String :=
  error.kind.name ++ "(" ++ error.text.quoted ++ ")"

end GuardedDispatch
