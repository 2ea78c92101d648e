import GuardedDispatch.Failure
import GuardedDispatch.Value.Equality
import GuardedDispatch.Value.Printing

/-! # Traces

What a run asks and calls outside the pipeline, in order: listeners, authorization services,
routers, assertions and endpoints. `Asking` is the monad of computations that only ask: they fail or
give an answer, and leave a trace either way. -/

namespace GuardedDispatch

/-- One **call** of a trace. -/
inductive Call where
  /-- A listener ran, at a stage, with the error the event then had. -/
  | listener (label stage : String) (error : Value)
  /-- An authorization double was asked about a resource. -/
  | question (resource : Value)
  /-- A router was asked for the address of a route. -/
  | address (route : Value)
  /-- An assertion was asked about a caller, a resource and a privilege. -/
  | assertion (name : String) (subject : Option String) (resource privilege : Value)
  /-- A stage was entered, with an error and an identity. -/
  | stage (name : String) (error identity : Value)
  /-- An endpoint ran. -/
  | endpoint (name : String)

/-- A computation that only **asks**. -/
abbrev Asking := ExceptT Failure (StateM (List Call))

/-- Note a call in the trace. -/
def note (call : Call) : Asking Unit :=
  modifyThe (List Call) (· ++ [call])

/-- The result of asking, and the calls that were made. -/
def Asking.outcome (asking : Asking α) : Except Failure α × List Call :=
  Id.run ((ExceptT.run asking).run [])

end GuardedDispatch
