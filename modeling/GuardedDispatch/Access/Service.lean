import GuardedDispatch.Access.Provider
import GuardedDispatch.Guard.Basic
import GuardedDispatch.Trace

/-! # The authorization service

An in-memory store of rules that answers whether a caller may access a resource. A role is allowed a
resource when a stored **allow** rule for it applies and no stored **deny** rule for that same role
does; a caller is allowed when one of its roles is. Resources that no rule or provider named are
denied.

Storing a rule takes several steps, and one that fails leaves those before it done: the assertion is
looked up, the resource becomes known, the roles are read, the rule is stored
(`Service.storeRule`). -/

namespace GuardedDispatch

/-- What an **assertion** decides about a caller's identity, a resource and a privilege. -/
abbrev Assertion := Option Identity → Value → Value → Except Failure Bool

/-- Assertions by name. -/
abbrev Assertions := List (String × Assertion)

/-- A **stored rule**; an absent privilege stands for all of them. -/
structure StoredRule where
  roles : List Word
  resource : Value
  privilege : Value
  assertion : Option (String × Assertion)

/-- Ask a named assertion. -/
def askAssertion (assertion : String × Assertion) (identity : Option Identity)
    (resource privilege : Value) : Asking Bool := do
  note (.assertion assertion.1 (identity.map (·.subject)) resource privilege)
  liftM (assertion.2 identity resource privilege)

/-- Whether a rule covers a role, resource and privilege, leaving its assertion aside. -/
def StoredRule.covers (rule : StoredRule) (role : Word) (resource privilege : Value) : Bool :=
  rule.roles.contains role && resource == rule.resource &&
    (rule.privilege.isNull || rule.privilege == privilege)

/-- Whether a rule **applies**: it covers the question, and its assertion, if any, agrees. -/
def StoredRule.applies (rule : StoredRule) (identity : Option Identity) (resource privilege : Value)
    (role : Word) : Asking Bool :=
  if rule.covers role resource privilege then
    match rule.assertion with
    | none => pure true
    | some assertion => askAssertion assertion identity resource privilege
  else
    pure false

/-- The two **kinds** of rule. -/
inductive RuleKind where
  /-- Lets roles in. -/
  | allow
  /-- Keeps roles out. -/
  | deny
  deriving DecidableEq, Repr

/-- The word for a kind of rule. -/
def RuleKind.word : RuleKind → String
  | .allow => "allow"
  | .deny => "deny"

/-- An authorization **service**. -/
structure Service where
  assertions : Assertions := []
  resources : List Value := []
  allows : List StoredRule := []
  denies : List StoredRule := []

namespace Service

/-- Whether a resource is known. -/
def knows (service : Service) (resource : Value) : Bool := service.resources.any (resource == ·)

/-- Whether one role is allowed: no deny rule applies for it, and an allow rule does. -/
def allowsRole (service : Service) (identity : Option Identity) (resource privilege : Value)
    (role : Word) : Asking Bool := do
  if ← service.denies.anyM (·.applies identity resource privilege role) then return false
  service.allows.anyM (·.applies identity resource privilege role)

/-- Whether a caller **is allowed** a resource. -/
def isAllowed (service : Service) (caller : Caller) (resource privilege : Value) : Asking Bool := do
  if let some kind := resource.unhashable? then throw (.type (.unhashable kind))
  if service.knows resource then
    caller.roles.anyM (service.allowsRole caller.identity resource privilege)
  else
    return false

/-- Steps that build a service, and keep what was done before a failure. -/
abbrev Building := ExceptT Failure (StateM Service)

/-- The service with a resource among those that it knows. -/
def learn (resource : Value) (service : Service) : Service :=
  if service.knows resource then service
  else { service with resources := service.resources ++ [resource] }

/-- Make a resource known. -/
def addResource (resource : Value) : Building Unit := do
  if let some kind := resource.unhashable? then throw (.type (.unhashable kind))
  modify (learn resource)

/-- The assertion that a rule names. -/
def findAssertion (service : Service) (resource : Value) :
    Value → Except Failure (Option (String × Assertion))
  | .null => .ok none
  | name => do
    if let some kind := name.unhashable? then throw (.type (.unhashable kind))
    match service.assertions.find? (fun entry => name == .str entry.1) with
    | some entry => return some entry
    | none => throw (.configuration (.unknownAssertion (← name.print) (← resource.print)))

/-- The roles that a value names: a text is one role, and of the members of anything else the texts
are roles. -/
def readRoles : Value → Except Failure (List Word)
  | .str role => .ok [role]
  | .codes points halves => .ok [.codes points halves]
  | v =>
    match v.members? with
    | none => .error (.type (.notIterable v.kindName))
    | some members =>
      match Value.unhashableItem? members with
      | some kind => .error (.type (.unhashable kind))
      | none => .ok (members.filterMap Value.word?)

/-- Put a rule behind the stored ones of its kind. -/
def push (kind : RuleKind) (rule : StoredRule) (service : Service) : Service :=
  match kind with
  | .allow => { service with allows := service.allows ++ [rule] }
  | .deny => { service with denies := service.denies ++ [rule] }

/-- **Store a rule.** -/
def storeRule (kind : RuleKind) (roles resource privilege assertion : Value) : Building Unit := do
  let assertion ← liftM ((← get).findAssertion resource assertion)
  addResource resource
  let roles ← liftM (readRoles roles)
  modify (push kind { roles, resource, privilege, assertion })

/-- Store a rule given by its parts in order; privilege and assertion may be left out. -/
def storeParts (kind : RuleKind) : List Value → Building Unit
  | [roles, resource] => storeRule kind roles resource .null .null
  | [roles, resource, privilege] => storeRule kind roles resource privilege .null
  | [roles, resource, privilege, assertion] => storeRule kind roles resource privilege assertion
  | _ => throw (.type .wrongArity)

/-- Store a **positional rule**. -/
def storePositional (kind : RuleKind) (rule : Value) : Building Unit :=
  match rule.members? with
  | none => throw (.type (.notIterable rule.kindName))
  | some parts => storeParts kind parts

/-- Store the positional rules that a value holds. -/
def storeSection (kind : RuleKind) (rules : Value) : Building Unit :=
  match rules.members? with
  | none => throw (.type (.notIterable rules.kindName))
  | some items => items.forM (storePositional kind)

/-- Store the rules of a map: all that it allows, then all that it denies. -/
def storeFields (fields : Fields) : Building Unit := do
  storeSection .allow ((Value.field? fields RuleKind.allow.word).getD (.list []))
  storeSection .deny ((Value.field? fields RuleKind.deny.word).getD (.list []))

/-- Store the rules of a value that has to be a map. -/
def storeRules (rules : Value) : Building Unit :=
  match rules.fields? with
  | some fields => storeFields fields
  | none => throw .attribute

/-- Store the grants of a guard. -/
def storeGuard (guard : Guard) : Building Unit :=
  guard.positionalRules.forM (storePositional .allow)

/-- Make the resources of a guard known. -/
def addGuardResources (guard : Guard) : Building Unit :=
  guard.resources.forM fun resource => addResource (.ofWord resource)

/-- Build a service that knows the resources of some guards and stores the rules of others. -/
def ofGuards (assertions : Assertions) (resourcesFrom rulesFrom : List Guard) :
    Except Failure Unit × Service :=
  Id.run ((ExceptT.run (do
    resourcesFrom.forM addGuardResources
    rulesFrom.forM storeGuard)).run { assertions })

/-- Run building steps on a service. -/
def build (service : Service) (steps : Building Unit) : Except Failure Unit × Service :=
  Id.run ((ExceptT.run steps).run service)

end Service

end GuardedDispatch
