import GuardedDispatch.Failure
import GuardedDispatch.Guard.Basic
import GuardedDispatch.Strategy

/-! # The registry

Which kinds of guard and strategy configuration may name, and under which ids. Applications may
register the kinds under ids of their own; an id can be taken once. -/

namespace GuardedDispatch

/-- A **registry** of guards and strategies by id, in the order of registration. -/
structure Registry where
  guards : List (String × GuardKind) := []
  strategies : List (String × StrategyKind) := []
  deriving DecidableEq, Repr

instance : Inhabited Registry := ⟨{}⟩

namespace Registry

/-- The registry of the kinds under their own ids. -/
def standard : Registry where
  guards := [GuardKind.controller, .route].map fun kind => (kind.id, kind)
  strategies := [StrategyKind.redirect, .unauthorized].map fun kind => (kind.id, kind)

/-- Register a guard. -/
def registerGuard (registry : Registry) (id : String) (kind : GuardKind) :
    Except RegistryFault Registry :=
  if (lookupField id registry.guards).isSome then .error (.guardTaken id)
  else .ok { registry with guards := registry.guards ++ [(id, kind)] }

/-- Register a strategy. -/
def registerStrategy (registry : Registry) (id : String) (kind : StrategyKind) :
    Except RegistryFault Registry :=
  if (lookupField id registry.strategies).isSome then .error (.strategyTaken id)
  else .ok { registry with strategies := registry.strategies ++ [(id, kind)] }

/-- The guard of an id; ids that are no texts have none. -/
def guard? (registry : Registry) : Value → Option GuardKind
  | .str id => lookupField id registry.guards
  | _ => none

/-- The strategy of an id; ids that are no texts have none. -/
def strategy? (registry : Registry) : Value → Option StrategyKind
  | .str id => lookupField id registry.strategies
  | _ => none

/-- The guard of an id, or the news that there is none. -/
def guard (registry : Registry) (id : Value) : Except RegistryFault GuardKind :=
  match registry.guard? id with
  | some kind => .ok kind
  | none => .error (.guardMissing id.text)

/-- The strategy of an id, or the news that there is none. -/
def strategy (registry : Registry) (id : Value) : Except RegistryFault StrategyKind :=
  match registry.strategy? id with
  | some kind => .ok kind
  | none => .error (.strategyMissing id.text)

end Registry

end GuardedDispatch
