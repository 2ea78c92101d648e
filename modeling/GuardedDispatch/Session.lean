import GuardedDispatch.Config.Blueprint
import GuardedDispatch.Dispatch.Run
import GuardedDispatch.Value.Order

/-! # Sessions

A session works on one site step by step. Besides the parts of the site it holds events, registries
and what was built from configuration documents, all under names of one directory. A step that fails
leaves the session as it was when it failed, and the session goes on with the next step.

The process-wide bus and registry are made when they are first asked for. -/

namespace GuardedDispatch

instance : Inhabited Event := ⟨{}⟩

/-- What was **built** from a document: its guards and its strategy, now parts of the site, and the
extra rules. -/
structure Installation where
  guards : List GuardRef := []
  strategy : Option StrategyRef := none
  rules : Fields := []

instance : Inhabited Installation := ⟨{}⟩

/-- A **session**. -/
structure Session where
  site : Site := {}
  events : Arena Event := .empty
  registries : Arena Registry := .empty
  installations : Arena Installation := .empty
  commonBus : Option BusRef := none
  commonRegistry : Option Nat := none
  trace : List Call := []

/-- A **step** of a session. -/
abbrev Step := ExceptT Failure (StateM Session)

namespace Session

/-- The result of a step, and the session after it. -/
def after (session : Session) (step : Step α) : Except Failure α × Session :=
  Id.run ((ExceptT.run step).run session)

/-- The site. -/
def getSite : Step Site := return (← get).site

/-- Replace the site. -/
def setSite (site : Site) : Step Unit := modify fun session => { session with site }

/-- Give a name to a part. -/
def enter (name : String) (entry : Entry) : Step Unit :=
  modify fun session => { session with site := session.site.enter name entry }

/-- The names that stand for a part, in order. -/
def namesOf (entry : Entry) : Step (List String) := do
  return sortTexts (((← getSite).directory.filter (·.2 == entry)).map (·.1))

/-- The event of a name. -/
def eventNamed (site : Site) (name : String) : Except Failure Nat :=
  site.named (fun | .event ref => some ref | _ => none) name

/-- The registry of a name. -/
def registryNamed (site : Site) (name : String) : Except Failure Nat :=
  site.named (fun | .registry ref => some ref | _ => none) name

/-- What was built from a document, by name. -/
def installationNamed (site : Site) (name : String) : Except Failure Nat :=
  site.named (fun | .config ref => some ref | _ => none) name

/-- The token of a name; no other part can take its place. -/
def tokenNamed (site : Site) (name : String) : Except Failure Nat := do
  let token ← site.named (fun | .token number => some (some number) | _ => some none) name
  (token.map .ok).getD (.error (.type .notToken))

/-! ### Identities and services -/

/-- Add a provider. -/
def addProvider (name : String) (provider : Provider) : Step Unit := do
  let (ref, site) := (← getSite).addProvider provider
  setSite (site.enter name (.provider ref))

/-- Give an identity to a provider: its own, or the one of the context, which gives a token. -/
def setIdentity (provider : String) (identity : Option Identity) (token : String) : Step Unit := do
  let site ← getSite
  let ref ← liftM (site.providerNamed provider)
  match site.providers.get ref with
  | .fixed .. => setSite (site.setIdentity ref identity)
  | .ofContext _ =>
    let (number, context) := site.context.bind identity
    setSite ({ site with context }.enter token (.token number))

/-- Use a token of a context provider. -/
def resetIdentity (provider token : String) : Step Unit := do
  let site ← getSite
  let ref ← liftM (site.providerNamed provider)
  match site.providers.get ref with
  | .fixed .. => throw .attribute
  | .ofContext _ =>
    let number ← liftM (tokenNamed site token)
    let context ← liftM (site.context.restore number)
    setSite { site with context }

/-- The caller whom a provider reports. -/
def callerOf (provider : String) : Step Caller := do
  let site ← getSite
  return site.caller (← liftM (site.providerNamed provider))

/-- The callers whom a provider reports to tasks that each set an identity and then wait for all
others to do so. Every task has a context of its own; a provider's own identity is set by none. -/
def callersOfTasks (provider : String) (identities : List (Option Identity)) :
    Step (List Caller) := do
  let site ← getSite
  let ref ← liftM (site.providerNamed provider)
  match site.providers.get ref with
  | .ofContext defaultRole => return identities.map fun identity => .of identity defaultRole
  | .fixed .. => if identities.isEmpty then return [] else throw .attribute

/-- The guards of some names. -/
def guardsNamed (names : List String) : Step (List Guard) := do
  let site ← getSite
  names.mapM fun name => return (site.guards.get (← liftM (site.guardNamed name))).guard

/-- Add a service built from guards; the answer holds its resources in order. -/
def addService (name provider : String) (resourcesFrom rulesFrom : List String)
    (assertions : Assertions) : Step (List Value) := do
  let ref ← liftM ((← getSite).providerNamed provider)
  let resourceGuards ← guardsNamed resourcesFrom
  let ruleGuards ← guardsNamed rulesFrom
  let (result, service) := Service.ofGuards assertions resourceGuards ruleGuards
  liftM result
  let (authority, site) := (← getSite).addAuthority (.service ref service)
  setSite (site.enter name (.authority authority))
  liftM (Value.sort service.resources)

/-- Add a double. -/
def addDouble (name : String) (double : Double) : Step Unit := do
  let (ref, site) := (← getSite).addAuthority (.double double)
  setSite (site.enter name (.authority ref))

/-- The service of a name; a double is none. -/
def serviceNamed (name : String) : Step (AuthorityRef × ProviderRef × Service) := do
  let site ← getSite
  let ref ← liftM (site.authorityNamed name)
  match site.authorities.get ref with
  | .service provider service => return (ref, provider, service)
  | .double _ | .mute => throw .attribute

/-- Run building steps on a service. -/
def buildOn (name : String) (steps : Service.Building Unit) : Step Unit := do
  let (ref, provider, service) ← serviceNamed name
  let (result, after) := service.build steps
  let site ← getSite
  setSite { site with authorities := site.authorities.set ref (.service provider after) }
  liftM result

/-- The resources of a service, in order. -/
def resourcesOf (name : String) : Step (List Value) := do
  let (_, _, service) ← serviceNamed name
  liftM (Value.sort service.resources)

/-- Ask, and keep the calls that asking made. -/
def ask (asking : Asking α) : Step α := do
  let (result, calls) := asking.outcome
  modify fun session => { session with trace := session.trace ++ calls }
  liftM result

/-- The oracle of a name. -/
def oracleNamed (name : String) : Step Oracle := do
  let site ← getSite
  return site.oracle (← liftM (site.authorityNamed name))

/-- Ask whether a resource is allowed. -/
def isAllowed (authority : String) (resource privilege : Value) : Step Bool := do
  ask ((← oracleNamed authority).isAllowed resource privilege)

/-- Ask who is asking. -/
def identityOf (authority : String) : Step Value := do
  ask (← oracleNamed authority).identity

/-! ### Guards and strategies -/

/-- Add a guard compiled from raw rules. -/
def addGuard (name : String) (kind : GuardKind) (rules : Value) (authority : Option String) :
    Step GuardRef := do
  let (authority, site) ← liftM ((← getSite).consulted authority)
  let guard ← liftM (Guard.compileValue kind rules)
  let (ref, site) := site.addGuard guard authority
  setSite (site.enter name (.guard ref))
  return ref

/-- Bind what a guard consults, or take it away. -/
def bindGuard (name : String) (authority : Option String) : Step GuardRef := do
  let site ← getSite
  let ref ← liftM (site.guardNamed name)
  let (authority, site) ← liftM (site.consulted authority)
  setSite (site.bindGuard ref authority)
  return ref

/-- Add a strategy built from options. -/
def addStrategy (name : String) (kind : StrategyKind) (options : Fields) : Step StrategyRef := do
  let strategy ← liftM (Strategy.build kind options)
  let (ref, site) := (← getSite).addStrategy strategy
  setSite (site.enter name (.strategy ref))
  return ref

/-- Set something on a strategy by name. -/
def changeStrategy (name field : String) (value : Value) : Step StrategyRef := do
  let site ← getSite
  let ref ← liftM (site.strategyNamed name)
  let changed ← liftM (Site.changePost (site.strategies.get ref) field value)
  setSite { site with strategies := site.strategies.set ref changed }
  return ref

/-! ### Buses -/

/-- Add a bus. -/
def addBus (name : String) : Step Unit := do
  let (ref, site) := (← getSite).addBus
  setSite (site.enter name (.bus ref))

/-- Name the process-wide bus; the answer holds all its names. -/
def nameCommonBus (name : String) : Step (List String) := do
  let ref ← match (← get).commonBus with
    | some ref => pure ref
    | none => do
      let (ref, site) := (← getSite).addBus
      setSite site
      modify fun session => { session with commonBus := some ref }
      pure ref
  enter name (.bus ref)
  namesOf (.bus ref)

/-- Forget the process-wide bus. -/
def resetCommonBus : Step Unit := modify fun session => { session with commonBus := none }

/-- Attach a script to a bus; the answer holds the number of the subscription. -/
def attach (bus subscription stage : String) (script : Script) (priority : Value) : Step Nat := do
  let site ← getSite
  let ref ← liftM (site.busNamed bus)
  let (handle, site) := site.attach ref stage (.script script) priority
  setSite (site.enter subscription (.subscription handle))
  return handle.number

/-- Detach a subscription. -/
def detach (bus subscription : String) : Step Bool := do
  let (found, site) ← liftM ((← getSite).detachNamed bus subscription)
  setSite site
  return found

/-- A listener of a bus, as a listing shows it. -/
structure Listed where
  stage : String
  label : String
  priority : Value
  number : Nat

/-- A subscription as a listing of its stage shows it. -/
def listed (site : Site) (stage : Stage)
    (subscription : Subscription Handler) : Listed :=
  ⟨stage.name, site.handlerText subscription.listener, subscription.priority, subscription.number⟩

/-- The listeners of a bus, stage by stage. -/
def listListeners (bus : String) : Step (List Listed) := do
  let site ← getSite
  let ref ← liftM (site.busNamed bus)
  let stages ← Stage.all.mapM fun stage => do
    let subscriptions ← liftM ((site.buses.get ref).listeners stage.name)
    return subscriptions.map (listed site stage)
  return stages.flatten

/-- What can be attached to a bus as a whole: a guard or a strategy. -/
def listenerNamed (site : Site) (name : String) : Except Failure (GuardRef ⊕ StrategyRef) :=
  site.named (fun | .guard ref => some (.inl ref) | .strategy ref => some (.inr ref) | _ => none)
    name

/-- Attach a strategy. -/
def attachStrategy (ref : StrategyRef) (bus : BusRef) : Step Unit := do
  let site ← getSite
  liftM (Site.requireHandles (site.strategies.get ref))
  setSite (site.attachStrategy ref bus)

/-- Detach a strategy. -/
def detachStrategy (ref : StrategyRef) (bus : BusRef) : Step Unit := do
  let site ← getSite
  liftM (Site.requireMembers (site.strategies.get ref))
  setSite (site.detachStrategy ref bus)

/-- Attach a guard or a strategy. -/
def attachListener (listener bus : String) (priority : Option Value) : Step Unit := do
  let site ← getSite
  let part ← liftM (listenerNamed site listener)
  let bus ← liftM (site.busNamed bus)
  match part with
  | .inl ref => setSite (site.attachGuard ref bus (priority.getD (.int Site.guardPriority)))
  | .inr ref => attachStrategy ref bus

/-- Detach a guard or a strategy. -/
def detachListener (listener bus : String) : Step Unit := do
  let site ← getSite
  let part ← liftM (listenerNamed site listener)
  let bus ← liftM (site.busNamed bus)
  match part with
  | .inl ref => setSite (site.detachGuard ref bus)
  | .inr ref => detachStrategy ref bus

/-! ### Events -/

/-- Add an event, bound to a bus if one is named. -/
def addEvent (name : String) (event : Event) (bus : Option String) : Step Unit := do
  let site ← getSite
  let bus ← liftM (bus.mapM site.busNamed)
  let (ref, events) := (← get).events.add { event with bus }
  modify fun session => { session with events }
  enter name (.event ref)

/-- Run on an event, and keep what the run did even if it fails. -/
def runOn (name : String) (run : Run α) : Step α := do
  let session ← get
  let ref ← liftM (eventNamed session.site name)
  let (result, scene) := run.on ⟨session.site, session.events.get ref, session.trace⟩
  set { session with
    site := scene.site
    events := session.events.set ref scene.event
    trace := scene.trace }
  liftM result

/-- The state of an event. -/
def eventState? (session : Session) (name : String) : Option Event :=
  match eventNamed session.site name with
  | .ok ref => some (session.events.get ref)
  | .error _ => none

/-- Trigger a stage of an event on a bus. -/
def trigger (bus event : String) (stage : Option String) : Step Responses := do
  let ref ← liftM ((← getSite).busNamed bus)
  runOn event (Run.trigger Run.depthLimit ref stage)

/-- Run actions on an event. -/
def act (event : String) (actions : List Action) : Step (List Value) :=
  runOn event (Run.actions (Run.trigger Run.depthLimit) actions)

/-- Let a guard check an event. -/
def checkEvent (guard event : String) : Step Unit := do
  let ref ← liftM ((← getSite).guardNamed guard)
  runOn event (Run.guard (Run.trigger Run.depthLimit) ref)

/-- Let a strategy resolve an event. -/
def resolveEvent (strategy event : String) : Step Unit := do
  let ref ← liftM ((← getSite).strategyNamed strategy)
  runOn event (Run.strategy ref)

/-! ### Registries and documents -/

/-- Add a registry. -/
def addRegistry (name : String) (registry : Registry) : Step Unit := do
  let (ref, registries) := (← get).registries.add registry
  modify fun session => { session with registries }
  enter name (.registry ref)

/-- The process-wide registry. -/
def commonRegistryRef : Step Nat := do
  match (← get).commonRegistry with
  | some ref => return ref
  | none =>
    let (ref, registries) := (← get).registries.add Registry.standard
    modify fun session => { session with registries, commonRegistry := some ref }
    return ref

/-- Name the process-wide registry; the answer holds all its names. -/
def nameCommonRegistry (name : String) : Step (List String) := do
  let ref ← commonRegistryRef
  enter name (.registry ref)
  namesOf (.registry ref)

/-- Forget the process-wide registry. -/
def resetCommonRegistry : Step Unit :=
  modify fun session => { session with commonRegistry := none }

/-- The registry of a name. -/
def registry (name : String) : Step Registry := do
  let session ← get
  return session.registries.get (← liftM (registryNamed session.site name))

/-- Change a registry. -/
def changeRegistry (name : String) (change : Registry → Except RegistryFault Registry) :
    Step Unit := do
  let session ← get
  let ref ← liftM (registryNamed session.site name)
  let after ← liftM ((change (session.registries.get ref)).mapError Failure.registry)
  set { session with registries := session.registries.set ref after }

/-- Make the guards and the strategy of a blueprint parts of a site. -/
def installInto (site : Site) (blueprint : Blueprint) : Installation × Site :=
  let (guards, site) := blueprint.guards.foldl (fun (refs, site) guard =>
    let (ref, site) := site.addGuard guard none
    (refs ++ [ref], site)) ([], site)
  match blueprint.strategy with
  | none => (⟨guards, none, blueprint.rules⟩, site)
  | some strategy =>
    let (ref, site) := site.addStrategy strategy
    (⟨guards, some ref, blueprint.rules⟩, site)

/-- Install a blueprint under a name. -/
def install (name : String) (blueprint : Blueprint) : Step Installation := do
  let session ← get
  let (installation, site) := installInto session.site blueprint
  let (ref, installations) := session.installations.add installation
  set { session with site, installations }
  enter name (.config ref)
  return installation

/-- What was built from a document, by name. -/
def installation (name : String) : Step Installation := do
  let session ← get
  return session.installations.get (← liftM (installationNamed session.site name))

/-- The guards of an installation, as they are now. -/
def guardsOf (site : Site) (installation : Installation) : List Guard :=
  installation.guards.map fun ref => (site.guards.get ref).guard

/-- Bind an authority to all guards of an installation. -/
def bindAll (site : Site) (installation : Installation) (authority : AuthorityRef) : Site :=
  installation.guards.foldl (fun site ref => site.bindGuard ref (some authority)) site

/-- Build the service of an installation and bind its guards to it; a failure binds none. -/
def buildAuthority (site : Site) (installation : Installation) (provider : ProviderRef)
    (assertions : Assertions) : Except Failure (AuthorityRef × Service × Site) := do
  let blueprint : Blueprint := { guards := guardsOf site installation, rules := installation.rules }
  let (result, service) := blueprint.buildService assertions
  result
  let (ref, site) := site.addAuthority (.service provider service)
  return (ref, service, bindAll site installation ref)

/-- Build the service of an installation under a name; the answer holds its resources as words. -/
def addAuthority (name installationName provider : String) (assertions : Assertions) :
    Step (List Word) := do
  let installation ← installation installationName
  let site ← getSite
  let provider ← liftM (site.providerNamed provider)
  let (ref, service, site) ← liftM (buildAuthority site installation provider assertions)
  setSite (site.enter name (.authority ref))
  return sortWords (← liftM (service.resources.mapM Value.printWord))

/-- The guard of an id in an installation. -/
def guardOf? (site : Site) (installation : Installation) (id : String) : Option GuardRef :=
  installation.guards.find? fun ref => (site.guards.get ref).guard.kind.id == id

/-- Name the guard of an id in an installation. -/
def nameGuardOf (name installationName id : String) : Step (Option GuardRef) := do
  let found := guardOf? (← getSite) (← installation installationName) id
  enter name ((found.map Entry.guard).getD .nothing)
  return found

/-- Name the strategy of an installation. -/
def nameStrategyOf (name installationName : String) : Step Unit := do
  let installation ← installation installationName
  enter name ((installation.strategy.map Entry.strategy).getD .nothing)

/-- Attach the guards of an installation to a bus. -/
def attachGuardsTo (site : Site) (installation : Installation) (bus : BusRef) : Site :=
  installation.guards.foldl
    (fun site ref => site.attachGuard ref bus (.int Site.guardPriority)) site

/-- Attach all listeners of an installation to a bus. -/
def attachAllTo (site : Site) (installation : Installation) (bus : BusRef) : Site :=
  let site := attachGuardsTo site installation bus
  match installation.strategy with
  | none => site
  | some ref => site.attachStrategy ref bus

/-- Detach the guards of an installation from a bus. -/
def detachGuardsFrom (site : Site) (installation : Installation) (bus : BusRef) : Site :=
  installation.guards.foldl (fun site ref => site.detachGuard ref bus) site

/-- Detach all listeners of an installation from a bus. -/
def detachAllFrom (site : Site) (installation : Installation) (bus : BusRef) : Site :=
  let site := detachGuardsFrom site installation bus
  match installation.strategy with
  | none => site
  | some ref => site.detachStrategy ref bus

/-- Check the strategy of an installation, if it has one. -/
def checkStrategy (site : Site) (installation : Installation)
    (check : StrategyPost → Except Failure Unit) : Except Failure Unit :=
  installation.strategy.forM fun ref => check (site.strategies.get ref)

/-- Attach all listeners of an installation. If the strategy cannot be attached, the guards are. -/
def attachAll (installationName bus : String) : Step Unit := do
  let installation ← installation installationName
  let site ← getSite
  let bus ← liftM (site.busNamed bus)
  match checkStrategy site installation Site.requireHandles with
  | .ok _ => setSite (attachAllTo site installation bus)
  | .error failure =>
    setSite (attachGuardsTo site installation bus)
    throw failure

/-- Detach all listeners of an installation. If the strategy cannot be detached, the guards are. -/
def detachAll (installationName bus : String) : Step Unit := do
  let installation ← installation installationName
  let site ← getSite
  let bus ← liftM (site.busNamed bus)
  match checkStrategy site installation Site.requireMembers with
  | .ok _ => setSite (detachAllFrom site installation bus)
  | .error failure =>
    setSite (detachGuardsFrom site installation bus)
    throw failure

/-- The printed forms of the listeners of an installation. -/
def listenerTexts (site : Site) (installation : Installation) : List String :=
  installation.guards.map (fun ref => site.handlerText (.guard ref)) ++
    (installation.strategy.toList.map fun ref => site.handlerText (.strategy ref))

end Session

end GuardedDispatch
