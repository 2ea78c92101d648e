import GuardedDispatch.Dispatch.Event

/-! # Scripted listeners

Listeners as data. A **script** is a list of actions on the event and on the parts of the site,
which it finds by name at the time when the action runs; it ends with a fixed result. The other
listeners are guards, strategies and spies (`Handler`). -/

namespace GuardedDispatch

/-- A reference to a guard. -/
abbrev GuardRef := Nat

/-- A reference to a strategy. -/
abbrev StrategyRef := Nat

/-- A reference to what guards consult. -/
abbrev AuthorityRef := Nat

/-- A reference to a provider of identities. -/
abbrev ProviderRef := Nat

mutual

/-- One **action** of a script. -/
inductive Action where
  /-- Write a parameter. -/
  | setParam (name : String) (value : Value)
  /-- Read a parameter. -/
  | getParam (name : String) (default : Value)
  /-- Read a parameter of the matched route. -/
  | matchParam (name : String) (default : Value)
  /-- Write the error. -/
  | setError (value : Value)
  /-- Set or clear the stop flag. -/
  | stop (flag : Bool)
  /-- Write the result. -/
  | setResult (value : Value)
  /-- Replace the response. -/
  | setResponse (value : Value)
  /-- Write the status of the response. -/
  | status (value : Value)
  /-- Add a header line to the response. -/
  | addHeader (name : String) (value : Value)
  /-- Read a header of the response. -/
  | getHeader (name : String)
  /-- Write the content of the response. -/
  | content (value : Value)
  /-- Add a page to the view. -/
  | addPage (template : Value)
  /-- Rename the event. -/
  | rename (name : String)
  /-- Move the outcome of a guard. -/
  | transition (guard : String) (target : Outcome)
  /-- Read the outcome of a guard. -/
  | outcome (guard : String)
  /-- Replace the matched route. -/
  | setMatch (routeMatch : Option RouteMatch)
  /-- Replace the router. -/
  | setRouter (table : Option (List (String × Value)))
  /-- Take the bus from the event. -/
  | unbind
  /-- Fail. -/
  | fail (cause : Failure)
  /-- Attach a script to a bus, and name the subscription. -/
  | attach (bus subscription stage : String) (script : Script) (priority : Value)
  /-- Detach a named subscription from a bus. -/
  | detach (bus subscription : String)
  /-- Give an identity to a provider. -/
  | setIdentity (provider : String) (identity : Option Identity)
  /-- Ask what guards consult about a resource. -/
  | isAllowed (authority : String) (resource privilege : Value)
  /-- Trigger a stage of the event on a bus. -/
  | trigger (bus : String) (stage : Option String)

/-- A **script**: its label, its actions and its result. -/
inductive Script where
  /-- A script of its parts. -/
  | of (label : String) (actions : List Action) (result : Value)

end

instance : Inhabited Action := ⟨.unbind⟩

instance : Inhabited Script := ⟨.of "" [] .null⟩

namespace Script

/-- The label of a script. -/
def label : Script → String
  | of label _ _ => label

/-- The actions of a script. -/
def actions : Script → List Action
  | of _ actions _ => actions

/-- The result of a script. -/
def result : Script → Value
  | of _ _ result => result

end Script

/-- A **listener**. -/
inductive Handler where
  /-- A guard checks the event. -/
  | guard (ref : GuardRef)
  /-- A strategy resolves the event. -/
  | strategy (ref : StrategyRef)
  /-- A script runs. -/
  | script (script : Script)
  /-- A spy notes the stage, the error and the identity. -/
  | spy (authority : AuthorityRef)

end GuardedDispatch
