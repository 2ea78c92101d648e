import GuardedDispatch.Access.Service
import GuardedDispatch.Config.Registry
import GuardedDispatch.Config.Settings

/-! # Blueprints

What a configuration document describes: guards with their rules, a failure strategy, and extra
rules for the authorization service.

* **Guards** (`buildGuards`): each section names a registered guard and holds a list of raw rules.
* **The strategy** (`buildStrategy`): a section is a map of options with a type, a bare id, `false`
  for no strategy, or absent; options that it lacks come from the settings.
* **Extra rules** (`readExtraRules`): lists of positional rules to allow and to deny.
* **The service** (`Blueprint.buildService`) knows and stores what the guards and the extra rules
  say. -/

namespace GuardedDispatch

/-- What a document **describes**. -/
structure Blueprint where
  guards : List Guard := []
  strategy : Option Strategy := none
  rules : Fields := []

namespace StrategyKind

/-- The options of a kind of strategy. -/
def options : StrategyKind → List String
  | redirect => ["redirect_route", "redirect_uri"]
  | unauthorized => ["template"]

/-- The first option that the kind cannot take. -/
def refusedOption? (kind : StrategyKind) : Fields → Option TypeFault
  | [] => none
  | (.str name, _) :: rest =>
    if name = "self" then some (.selfOption kind.name)
    else if kind.options.contains name then kind.refusedOption? rest
    else some (.unknownOption kind.name name)
  | _ :: _ => some .optionNotText

/-- Whether all options are named by texts. -/
def optionsNamed (options : Fields) : Bool := options.all (·.1.isText)

/-- What keeps options from being taken, if anything does. -/
def optionFault? (kind : StrategyKind) (options : Fields) : Option TypeFault :=
  if !optionsNamed options then some .optionNotText
  else
    match kind.refusedOption? options with
    | some fault => some fault
    | none =>
      match kind with
      | redirect => none
      | unauthorized =>
        if (Value.field? options "template").isNone then
          some (.missingOption kind.name "template")
        else none

/-- The strategy of a kind with options that it can take; what a redirection is not given has its
standard value. -/
def ofOptions (kind : StrategyKind) (options : Fields) : Except Failure Strategy :=
  match kind with
  | redirect => do
    let route ← Strategy.readRoute ((Value.field? options "redirect_route").getD (.str "login"))
    let uri ← Strategy.readUri ((Value.field? options "redirect_uri").getD .null)
    return .redirect route uri
  | unauthorized =>
    (Strategy.readTemplate ((Value.field? options "template").getD .null)).map .unauthorized

end StrategyKind

/-- Build a strategy from options of any names. -/
def Strategy.build (kind : StrategyKind) (options : Fields) : Except Failure Strategy :=
  match kind.optionFault? options with
  | some fault => .error (.type fault)
  | none => kind.ofOptions options

/-- The options that the settings give to the strategy of an id. -/
def Settings.strategyOptions (settings : Settings) (id : Value) : Fields :=
  if id == .str StrategyKind.unauthorized.id then
    [(.str "template", .ofWord settings.template)]
  else if id == .str StrategyKind.redirect.id then
    [(.str "redirect_route", .ofWord settings.redirectRoute),
     (.str "redirect_uri", .ofWord? settings.redirectUri)]
  else []

/-- The first fields overwritten and extended by the second. -/
def mergeFields (first second : Fields) : Fields :=
  second.foldl (fun fields field => putField field.1 field.2 fields) first

namespace Blueprint

/-- A value in a place that anything empty leaves free. -/
def sectionOr (default : Value) (found : Option Value) : Value :=
  match found with
  | some v => if v.truthy then v else default
  | none => default

/-- Build the guard of one section. -/
def buildGuard (registry : Registry) (id rules : Value) : Except Failure Guard := do
  match registry.guard? id with
  | none => throw (.configuration (.unknownGuard (← id.print)))
  | some kind =>
    match rules.items? with
    | some raws => (Guard.compile kind raws).mapError .configuration
    | none => throw (.configuration (.rulesNotList id.text))

/-- Build the **guards** of the sections, in order. -/
def buildGuards (registry : Registry) : Fields → Except Failure (List Guard)
  | [] => .ok []
  | (id, rules) :: rest => do
    let guard ← buildGuard registry id rules
    return guard :: (← buildGuards registry rest)

/-- The fields of the strategy's section; nothing if there is to be no strategy. -/
def strategyFields : Value → Except ConfigFault (Option Fields)
  | .bool false => .ok none
  | .null => .ok (some [])
  | .str id => .ok (some [(.str "type", .str id)])
  | .codes points halves => .ok (some [(.str "type", .codes points halves)])
  | v =>
    match v.fields? with
    | some fields => .ok (some fields)
    | none => .error .strategyNotMapping

/-- The id of the strategy that a section asks for. -/
def strategyId (settings : Settings) (fields : Fields) : Value :=
  sectionOr (.ofWord settings.unauthorizedStrategy) (Value.field? fields "type")

/-- Build the strategy of a section's fields. -/
def buildStrategyOf (settings : Settings) (registry : Registry) (fields : Fields) :
    Except Failure Strategy :=
  let id := strategyId settings fields
  match id.unhashable? with
  | some kind => .error (.type (.unhashable kind))
  | none =>
    match registry.strategy? id with
    | none => do throw (.configuration (.unknownStrategy (← id.print)))
    | some kind =>
      let options := mergeFields (settings.strategyOptions id) (dropField (.str "type") fields)
      match kind.optionFault? options with
      | some fault => .error (.configuration (.options id.text fault))
      | none => kind.ofOptions options

/-- Build the **strategy** of a section. -/
def buildStrategy (settings : Settings) (registry : Registry) (part : Value) :
    Except Failure (Option Strategy) := do
  match ← (strategyFields part).mapError .configuration with
  | none => return none
  | some fields => return some (← buildStrategyOf settings registry fields)

/-- Whether a value is a positional rule: a list of two to four parts. -/
def isPositional (rule : Value) : Bool :=
  rule.items?.any fun parts => 2 ≤ parts.length && parts.length ≤ 4

/-- Whether a value is a list of positional rules. -/
def arePositional (rules : Value) : Bool := rules.items?.any (·.all isPositional)

/-- Check the **extra rules** of the sections, in order. -/
def checkExtraRules : Fields → Except Failure Unit
  | [] => .ok ()
  | (kind, rules) :: rest => do
    if !(kind == .str RuleKind.allow.word || kind == .str RuleKind.deny.word) then
      throw (.configuration (.unknownRuleKind (← kind.print)))
    else if !arePositional rules then throw (.configuration (.extraShape kind.text))
    else checkExtraRules rest

/-- Read the extra rules of a document. -/
def readExtraRules (rules : Value) : Except Failure Fields := do
  match rules.fields? with
  | some fields =>
    checkExtraRules fields
    return fields
  | none => throw (.configuration .extraNotMapping)

/-- The sections of guards in a document. -/
def guardSections (guards : Value) : Except Failure Fields :=
  match guards.fields? with
  | some fields => .ok fields
  | none => .error (.configuration .guardsNotMapping)

/-- The blueprint of a **document**. -/
def ofDocument (settings : Settings) (registry : Registry) (document : Value) :
    Except Failure Blueprint := do
  match document.fields? with
  | some fields =>
    let sections ← guardSections (sectionOr (.map []) (Value.field? fields "guards"))
    let guards ← buildGuards registry sections
    let strategy ← buildStrategy settings registry ((Value.field? fields "strategy").getD .null)
    let rules ← readExtraRules (sectionOr (.map []) (Value.field? fields "rules"))
    return { guards, strategy, rules }
  | none => throw (.configuration .notMapping)

/-- Build the **service** of a blueprint. -/
def buildService (blueprint : Blueprint) (assertions : Assertions) :
    Except Failure Unit × Service :=
  Service.build { assertions } do
    blueprint.guards.forM Service.addGuardResources
    blueprint.guards.forM Service.storeGuard
    Service.storeFields blueprint.rules

end Blueprint

end GuardedDispatch
