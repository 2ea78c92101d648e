import GuardedDispatch.Guard.Rule.Reader

/-! # Guards

A guard is compiled from raw rules into **grants**: one for each pair of a controller and an action,
or for each route, in the order of the rules. Resources are named by `controllerResource` and
`routeResource`, both when rules are compiled and when requests are checked, so that a rule and a
request that name the same target agree. -/

namespace GuardedDispatch

/-- The resource of a controller, or of one of its actions or methods. The controller keeps its
letter case; what follows it is lower-cased. -/
def controllerResource (controller : Word) (action : Option Word) : Word :=
  "controller/" ++ controller ++
    match action with
    | none => ""
    | some action => ":" ++ action.lowercase

/-- The resource of a named route. -/
def routeResource (route : Word) : Word := "route/" ++ route

/-- A primitive **grant** of a resource to roles, perhaps under an assertion. -/
structure Grant where
  roles : List Word
  resource : Word
  assertion : Option Word
  deriving DecidableEq, Repr

/-- A grant as a positional rule; an assertion stands behind an absent privilege. -/
def Grant.positional (grant : Grant) : List Value :=
  [Value.ofWords grant.roles, .ofWord grant.resource] ++
    match grant.assertion with
    | none => []
    | some assertion => [.null, .ofWord assertion]

/-- The resources that a rule names for a kind of guard, controllers before their actions. -/
def GuardKind.resourcesOf (kind : GuardKind) (rule : Rule) : List Word :=
  match kind with
  | .controller =>
    rule.controllers.flatMap fun controller => rule.actions.map (controllerResource controller)
  | .route => rule.routes.map routeResource

/-- The targets that a rule names for a kind of guard. -/
def GuardKind.targetsOf (kind : GuardKind) (rule : Rule) : List Word :=
  match kind with
  | .controller => rule.controllers
  | .route => rule.routes

/-- The grants of one rule. -/
def GuardKind.grantsOf (kind : GuardKind) (rule : Rule) : List Grant :=
  (kind.resourcesOf rule).map fun resource => ⟨rule.roles, resource, rule.assertion⟩

/-- A **guard**: its kind and the grants it was compiled to. -/
structure Guard where
  kind : GuardKind
  grants : List Grant
  deriving DecidableEq, Repr

namespace Guard

/-- Read a raw rule that must name one of the guard's targets. -/
def readRule (kind : GuardKind) (raw : Value) : Except RuleFault Rule := do
  let rule ← Rule.ofRaw raw
  if (kind.targetsOf rule).isEmpty then throw (.noTarget kind.targetField)
  return rule

/-- Read raw rules in order, from the given position on. -/
def readRules (kind : GuardKind) : Nat → List Value → Except ConfigFault (List Rule)
  | _, [] => .ok []
  | index, raw :: rest => do
    let rule ← (readRule kind raw).mapError (.rule kind index)
    return rule :: (← readRules kind (index + 1) rest)

/-- The guard of some rules. -/
def ofRules (kind : GuardKind) (rules : List Rule) : Guard :=
  ⟨kind, rules.flatMap kind.grantsOf⟩

/-- **Compile** raw rules. -/
def compile (kind : GuardKind) (raws : List Value) : Except ConfigFault Guard :=
  (readRules kind 0 raws).map (ofRules kind)

/-- Compile the raw rules that are the members of a value. -/
def compileValue (kind : GuardKind) (rules : Value) : Except Failure Guard :=
  match rules.members? with
  | none => .error (.type (.notIterable rules.kindName))
  | some raws => (compile kind raws).mapError .configuration

/-- The guard's resources, each once, where it first appears. -/
def resources (guard : Guard) : List Word := (guard.grants.map (·.resource)).eraseDups

/-- The grants as positional rules. -/
def positionalRules (guard : Guard) : List Value :=
  guard.grants.map fun grant => .list grant.positional

/-- The printed form of a guard. -/
def quoted (guard : Guard) : String :=
  "<" ++ guard.kind.name ++ "(rules=" ++ toString guard.grants.length ++ ")>"

@[simp] theorem readRules_nil (kind : GuardKind) (index : Nat) : readRules kind index [] = .ok [] :=
  rfl

@[simp] theorem ofRules_kind (kind : GuardKind) (rules : List Rule) :
    (ofRules kind rules).kind = kind := rfl

@[simp] theorem ofRules_grants (kind : GuardKind) (rules : List Rule) :
    (ofRules kind rules).grants = rules.flatMap kind.grantsOf := rfl

end Guard

end GuardedDispatch
