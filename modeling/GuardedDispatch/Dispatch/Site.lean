import GuardedDispatch.Access.Oracle
import GuardedDispatch.Dispatch.Bus
import GuardedDispatch.Dispatch.Script
import GuardedDispatch.Guard.Check
import GuardedDispatch.Strategy

/-! # The site

All parts that outlive one request: buses, guards, strategies, what guards consult, providers, and
the identity of the context. Parts refer to each other by number, because they are shared: a bus
that a guard was attached to sees the service bound to the guard later. A directory gives names to
parts.

* **Arenas** (`Arena`) hold the parts of one kind; every number has a part, those not yet given out
  an empty one.
* **Attaching** a guard or strategy keeps the handle of its subscription with it, and detaching it
  from a bus removes exactly the subscriptions of its handles (`release`). -/

namespace GuardedDispatch

/-- Numbered parts of one kind; `size` is the next number. -/
structure Arena (α : Type) where
  size : Nat
  get : Nat → α

namespace Arena

variable {α : Type}

/-- No part given out yet. -/
def empty [Inhabited α] : Arena α := ⟨0, fun _ => default⟩

/-- Replace the part of a number. -/
def set (arena : Arena α) (ref : Nat) (part : α) : Arena α :=
  ⟨arena.size, fun i => if i = ref then part else arena.get i⟩

/-- Give out the next number to a part. -/
def add (arena : Arena α) (part : α) : Nat × Arena α :=
  (arena.size, ⟨arena.size + 1, fun i => if i = arena.size then part else arena.get i⟩)

@[simp] theorem get_set_self (arena : Arena α) (ref : Nat) (part : α) :
    (arena.set ref part).get ref = part := by simp [set]

theorem get_set_of_ne {ref other : Nat} (h : other ≠ ref) (arena : Arena α) (part : α) :
    (arena.set ref part).get other = arena.get other := by simp [set, h]

@[simp] theorem get_add_self (arena : Arena α) (part : α) :
    (arena.add part).2.get (arena.add part).1 = part := by simp [add]

end Arena

/-- A **handle**: a subscription of a bus, by its number. -/
structure Handle where
  bus : BusRef
  number : Nat
  deriving DecidableEq, Repr

/-- A guard with the authority bound to it and the handles of its subscriptions. -/
structure GuardPost where
  guard : Guard
  authority : Option AuthorityRef := none
  handles : List Handle := []
  deriving DecidableEq, Repr

instance : Inhabited GuardPost := ⟨{ guard := ⟨.controller, []⟩ }⟩

/-- A strategy with the handles of its subscriptions, and whatever else was set on it by name. -/
structure StrategyPost where
  strategy : Strategy
  handles : List Handle := []
  extras : List (String × Value) := []

instance : Inhabited StrategyPost := ⟨{ strategy := .unauthorized .null }⟩

/-- What guards **consult**: a service that asks a provider who is asking, a double, or a part that
cannot be asked. -/
inductive Authority where
  /-- A service and its provider. -/
  | service (provider : ProviderRef) (service : Service)
  /-- A double. -/
  | double (double : Double)
  /-- A part of any other kind. -/
  | mute

instance : Inhabited Authority := ⟨.double {}⟩

/-- What a **name** stands for. -/
inductive Entry where
  /-- A bus. -/
  | bus (ref : BusRef)
  /-- A subscription. -/
  | subscription (handle : Handle)
  /-- A guard. -/
  | guard (ref : GuardRef)
  /-- A strategy. -/
  | strategy (ref : StrategyRef)
  /-- What guards consult. -/
  | authority (ref : AuthorityRef)
  /-- A provider. -/
  | provider (ref : ProviderRef)
  /-- A token of the identity context. -/
  | token (number : Nat)
  /-- An event. -/
  | event (ref : Nat)
  /-- A registry. -/
  | registry (ref : Nat)
  /-- What was built from a document. -/
  | config (ref : Nat)
  /-- Nothing: a part was looked for and not there. -/
  | nothing
  deriving DecidableEq, Repr

/-- The **site**. -/
structure Site where
  buses : Arena (Bus Handler) := .empty
  guards : Arena GuardPost := .empty
  strategies : Arena StrategyPost := .empty
  authorities : Arena Authority := .empty
  providers : Arena Provider := .empty
  context : IdentityContext := {}
  directory : List (String × Entry) := []

namespace Site

/-- Give a name to a part; a name that was in use changes its meaning. -/
def enter (site : Site) (name : String) (entry : Entry) : Site :=
  { site with directory := putField name entry site.directory }

/-- What a name stands for, if it stands for a part of the expected kind. -/
def named (site : Site) (pick : Entry → Option α) (name : String) : Except Failure α :=
  match lookupField name site.directory with
  | none => .error .key
  | some entry =>
    match pick entry with
    | none => .error .attribute
    | some part => .ok part

/-- The bus of a name. -/
def busNamed (site : Site) (name : String) : Except Failure BusRef :=
  site.named (fun | .bus ref => some ref | _ => none) name

/-- The handle of a name, if it stands for a subscription. -/
def handleNamed (site : Site) (name : String) : Except Failure (Option Handle) :=
  site.named (fun | .subscription handle => some (some handle) | _ => some none) name

/-- The guard of a name. -/
def guardNamed (site : Site) (name : String) : Except Failure GuardRef :=
  site.named (fun | .guard ref => some ref | _ => none) name

/-- The strategy of a name. -/
def strategyNamed (site : Site) (name : String) : Except Failure StrategyRef :=
  site.named (fun | .strategy ref => some ref | _ => none) name

/-- What guards consult under a name. -/
def authorityNamed (site : Site) (name : String) : Except Failure AuthorityRef :=
  site.named (fun | .authority ref => some ref | _ => none) name

/-- The provider of a name. -/
def providerNamed (site : Site) (name : String) : Except Failure ProviderRef :=
  site.named (fun | .provider ref => some ref | _ => none) name

/-- The caller whom a provider reports now. -/
def caller (site : Site) (ref : ProviderRef) : Caller :=
  (site.providers.get ref).caller site.context

/-- The **oracle** that an authority is now. -/
def oracle (site : Site) (ref : AuthorityRef) : Oracle :=
  match site.authorities.get ref with
  | .service provider service => service.oracle (site.caller provider)
  | .double double => double.oracle
  | .mute => .mute

/-- Attach a listener to a bus. -/
def attach (site : Site) (bus : BusRef) (stage : String) (handler : Handler) (priority : Value) :
    Handle × Site :=
  let (subscription, after) := (site.buses.get bus).attach stage handler priority
  (⟨bus, subscription.number⟩, { site with buses := site.buses.set bus after })

/-- Detach a handle from a bus; the answer tells whether it was attached there. -/
def detach (site : Site) (bus : BusRef) (handle : Handle) : Bool × Site :=
  if handle.bus = bus then
    let (found, after) := (site.buses.get bus).detach handle.number
    (found, { site with buses := site.buses.set bus after })
  else
    (false, site)

/-- Detach what a name stands for from a bus; only subscriptions are attached. -/
def detachNamed (site : Site) (bus name : String) : Except Failure (Bool × Site) := do
  let ref ← site.busNamed bus
  match ← site.handleNamed name with
  | some handle => return site.detach ref handle
  | none => return (false, site)

/-- **Release** handles from a bus: those that are attached to it are detached and dropped, and all
others are kept. -/
def release (bus : BusRef) : Bus Handler → List Handle → Bus Handler × List Handle
  | state, [] => (state, [])
  | state, handle :: rest =>
    if handle.bus = bus ∧ state.holds handle.number = true then
      release bus (state.remove handle.number) rest
    else
      let (after, kept) := release bus state rest
      (after, handle :: kept)

/-- The priority at which guards listen, unless another is given. -/
def guardPriority : Int := -1000

/-- The priority at which strategies listen. -/
def strategyPriority : Int := -5000

/-- The name under which another priority may be set on a strategy. -/
def priorityName : String := "PRIORITY"

/-- The name under which something else may be put in the place of a strategy's handles. -/
def handlesName : String := "_listeners"

/-- What is kept beside the handles when a value is put in their place: nothing if it is a list, as
handles can be added to it. -/
def extrasWithout (post : StrategyPost) (value : Value) : List (String × Value) :=
  if value.items?.isSome then dropField handlesName post.extras
  else putField handlesName value post.extras

/-- Set something on a strategy by **name**: an option, a field, its handles, which are lost, or
anything else, which is kept as it is. -/
def changePost (post : StrategyPost) (name : String) (value : Value) :
    Except Failure StrategyPost := do
  if let some strategy ← post.strategy.withOption? name value then return { post with strategy }
  if let some strategy := post.strategy.withField? name value then return { post with strategy }
  if name = handlesName then
    return { post with handles := [], extras := extrasWithout post value }
  return { post with extras := putField name value post.extras }

/-- Check that a strategy has handles to which one can be **added**. -/
def requireHandles (post : StrategyPost) : Except Failure Unit :=
  if (lookupField handlesName post.extras).isSome then .error .attribute else .ok ()

/-- Check that a strategy has handles that can be **gone through**. -/
def requireMembers (post : StrategyPost) : Except Failure Unit :=
  match lookupField handlesName post.extras with
  | none => .ok ()
  | some value =>
    if value.members?.isSome then .ok () else .error (.type (.notIterable value.kindName))

/-- The priority at which a strategy listens. -/
def priorityOf (post : StrategyPost) : Value :=
  (lookupField priorityName post.extras).getD (.int strategyPriority)

/-- Attach a guard to the route stage of a bus. -/
def attachGuard (site : Site) (ref : GuardRef) (bus : BusRef) (priority : Value) : Site :=
  let (handle, after) := site.attach bus Stage.route.name (.guard ref) priority
  let post := site.guards.get ref
  { after with guards := after.guards.set ref { post with handles := post.handles ++ [handle] } }

/-- Attach a strategy to the error stage of a bus. -/
def attachStrategy (site : Site) (ref : StrategyRef) (bus : BusRef) : Site :=
  let post := site.strategies.get ref
  let (handle, after) :=
    site.attach bus Stage.dispatchError.name (.strategy ref) (priorityOf post)
  { after with
    strategies := after.strategies.set ref { post with handles := post.handles ++ [handle] } }

/-- Detach a guard from a bus. -/
def detachGuard (site : Site) (ref : GuardRef) (bus : BusRef) : Site :=
  let post := site.guards.get ref
  let (after, kept) := release bus (site.buses.get bus) post.handles
  { site with
    buses := site.buses.set bus after
    guards := site.guards.set ref { post with handles := kept } }

/-- Detach a strategy from a bus. -/
def detachStrategy (site : Site) (ref : StrategyRef) (bus : BusRef) : Site :=
  let post := site.strategies.get ref
  let (after, kept) := release bus (site.buses.get bus) post.handles
  { site with
    buses := site.buses.set bus after
    strategies := site.strategies.set ref { post with handles := kept } }

/-- Bind an authority to a guard, or take it away. -/
def bindGuard (site : Site) (ref : GuardRef) (authority : Option AuthorityRef) : Site :=
  { site with guards := site.guards.set ref { site.guards.get ref with authority } }

/-- Give an identity to a provider of its own. -/
def setIdentity (site : Site) (ref : ProviderRef) (identity : Option Identity) : Site :=
  match site.providers.get ref with
  | .fixed _ defaultRole =>
    { site with providers := site.providers.set ref (.fixed identity defaultRole) }
  | .ofContext _ => site

/-- Add a bus. -/
def addBus (site : Site) : BusRef × Site :=
  let (ref, buses) := site.buses.add {}
  (ref, { site with buses })

/-- Add a guard. -/
def addGuard (site : Site) (guard : Guard) (authority : Option AuthorityRef) : GuardRef × Site :=
  let (ref, guards) := site.guards.add { guard, authority }
  (ref, { site with guards })

/-- Add a strategy. -/
def addStrategy (site : Site) (strategy : Strategy) : StrategyRef × Site :=
  let (ref, strategies) := site.strategies.add { strategy }
  (ref, { site with strategies })

/-- Add what guards consult. -/
def addAuthority (site : Site) (authority : Authority) : AuthorityRef × Site :=
  let (ref, authorities) := site.authorities.add authority
  (ref, { site with authorities })

/-- What a guard consults when it is bound to a name, if anything: to nothing it is not bound, and a
part of another kind cannot be asked. -/
def consulted (site : Site) : Option String → Except Failure (Option AuthorityRef × Site)
  | none => .ok (none, site)
  | some name =>
    match lookupField name site.directory with
    | none => .error .key
    | some .nothing => .ok (none, site)
    | some (.authority ref) => .ok (some ref, site)
    | some _ =>
      let (ref, site) := site.addAuthority .mute
      .ok (some ref, site)

/-- Add a provider. -/
def addProvider (site : Site) (provider : Provider) : ProviderRef × Site :=
  let (ref, providers) := site.providers.add provider
  (ref, { site with providers })

/-- The printed form of a listener. -/
def handlerText (site : Site) : Handler → String
  | .guard ref => (site.guards.get ref).guard.quoted
  | .strategy ref => (site.strategies.get ref).strategy.quoted
  | .script script => script.label
  | .spy _ => "spy"

end Site

end GuardedDispatch
