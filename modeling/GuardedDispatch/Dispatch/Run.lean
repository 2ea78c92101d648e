import GuardedDispatch.Dispatch.Site

/-! # Running the pipeline

Triggering a stage runs the listeners attached to it when the trigger starts, in order, up to the
first after which the event's stop flag is set (`runListeners`). Listeners change the event and the
site, and may trigger further stages of the same event before they are done; what they did remains
when they fail.

* **`Run`** is the monad of such steps, with the site, the event and the trace as its state.
* **`runHandler`** runs one listener; triggers inside it are left to the parameter `again`.
* **`trigger`** ties the knot: each nested trigger has one level less to go. -/

namespace GuardedDispatch

/-- What a run works on. -/
structure Scene where
  site : Site := {}
  event : Event := {}
  trace : List Call := []

/-- A **run**: it may fail, and keeps the scene either way. -/
abbrev Run := ExceptT Failure (StateM Scene)

namespace Run

/-- The result of a run on a scene, and the scene after it. -/
def on (run : Run α) (scene : Scene) : Except Failure α × Scene :=
  Id.run ((ExceptT.run run).run scene)

/-- The site. -/
def site : Run Site := return (← get).site

/-- Replace the site. -/
def setSite (site : Site) : Run Unit := modify fun scene => { scene with site }

/-- The event. -/
def event : Run Event := return (← get).event

/-- Replace the event. -/
def setEvent (event : Event) : Run Unit := modify fun scene => { scene with event }

/-- Change the event. -/
def changeEvent (change : Event → Event) : Run Unit :=
  modify fun scene => { scene with event := change scene.event }

/-- Note a call in the trace. -/
def note (call : Call) : Run Unit :=
  modify fun scene => { scene with trace := scene.trace ++ [call] }

/-- Ask, and keep the calls that asking made. -/
def ask (asking : Asking α) : Run α := do
  let (result, calls) := asking.outcome
  modify fun scene => { scene with trace := scene.trace ++ calls }
  liftM result

end Run

/-- What the listeners of one trigger returned, and whether one of them stopped it. -/
structure Responses where
  values : List Value := []
  stopped : Bool := false

/-- Run listeners in order, up to the first after which `isStopped` holds. -/
def runListeners [Monad m] (invoke : η → m Value) (isStopped : m Bool) : List η → m Responses
  | [] => pure {}
  | listener :: rest => do
    let value ← invoke listener
    if ← isStopped then
      return ⟨[value], true⟩
    else
      let responses ← runListeners invoke isStopped rest
      return { responses with values := value :: responses.values }

/-- How a listener triggers a stage on a bus; without a stage the event keeps its name. -/
abbrev Trigger := BusRef → Option String → Run Responses

namespace Run

/-- The HTTP response of the event, which must have one. -/
def httpResponse : Run HttpResponse := do
  match (← event).httpResponse? with
  | some response => return response
  | none => throw .attribute

/-- Replace the response of the event. -/
def setResponse (answer : Value) : Run Unit :=
  changeEvent fun event => { event with response := answer }

/-- Change a field of the response of the event. Responses of no particular kind and errors take
any field and do not show it; identities and rules do not take it, and all else has no fields. -/
def changeResponse (field : String) (change : HttpResponse → HttpResponse) : Run Unit := do
  match (← event).response with
  | .http status headers content =>
    setResponse (change ⟨status, HttpResponse.ofFields headers, content⟩).toValue
  | .response | .error _ => return ()
  | .identity _ => throw .frozen
  | .rule _ => throw (.value (.noField ruleSubject field))
  | _ => throw .attribute

/-- Attach a listener and name its subscription. -/
def attachNamed (bus subscription stage : String) (handler : Handler) (priority : Value) :
    Run Unit := do
  let site ← site
  let ref ← liftM (site.busNamed bus)
  let (handle, after) := site.attach ref stage handler priority
  setSite (after.enter subscription (.subscription handle))

/-- Detach a named subscription. -/
def detachNamed (bus subscription : String) : Run Bool := do
  let (found, after) ← liftM ((← site).detachNamed bus subscription)
  setSite after
  return found

/-- Run one **action**. -/
def action (again : Trigger) : Action → Run Value
  | .setParam name value => do
    changeEvent (·.setParam name value)
    return .null
  | .getParam name default => return (lookupField name (← event).params).getD default
  | .matchParam name default => do
    match (← event).routeMatch with
    | none => throw .attribute
    | some routeMatch => return (lookupField name routeMatch.params).getD default
  | .setError value => do
    changeEvent (·.setError value)
    return .null
  | .stop flag => do
    changeEvent fun event => { event with stopped := flag }
    return .null
  | .setResult value => do
    changeEvent fun event => { event with result := value }
    return .null
  | .setResponse value => do
    setResponse value
    return .null
  | .status value => do
    changeResponse "status_code" fun response => { response with status := value }
    return .null
  | .addHeader name value => do
    let response ← httpResponse
    setResponse (response.addHeader name value).toValue
    return .null
  | .getHeader name => return ((← httpResponse).header? name).getD .null
  | .content value => do
    changeResponse "content" fun response => { response with content := value }
    return .null
  | .addPage template => do
    changeEvent fun event => { event with pages := event.pages ++ [⟨template, []⟩] }
    return .null
  | .rename name => do
    changeEvent fun event => { event with name }
    return .null
  | .transition guard target => do
    setEvent (← liftM ((← event).transition guard target))
    return .null
  | .outcome guard => return .str ((← event).outcome guard).name
  | .setMatch routeMatch => do
    changeEvent fun event => { event with routeMatch }
    return .null
  | .setRouter table => do
    changeEvent fun event => { event with router := table.map Router.ofTable }
    return .null
  | .unbind => do
    changeEvent fun event => { event with bus := none }
    return .null
  | .fail cause => throw cause
  | .attach bus subscription stage script priority => do
    attachNamed bus subscription stage (.script script) priority
    return .null
  | .detach bus subscription => return .bool (← detachNamed bus subscription)
  | .setIdentity provider identity => do
    let site ← site
    setSite (site.setIdentity (← liftM (site.providerNamed provider)) identity)
    return .null
  | .isAllowed authority resource privilege => do
    let site ← site
    let ref ← liftM (site.authorityNamed authority)
    return .bool (← ask ((site.oracle ref).isAllowed resource privilege))
  | .trigger bus stage => do
    let ref ← liftM ((← site).busNamed bus)
    return .list (← again ref stage).values

/-- Run actions in order and collect their results. -/
def actions (again : Trigger) (actions : List Action) : Run (List Value) :=
  actions.mapM (action again)

/-- Run a **guard**: check the event, and announce a denial on the error stage. -/
def guard (again : Trigger) (ref : GuardRef) : Run Unit := do
  let site ← site
  let post := site.guards.get ref
  match ← ask (post.guard.kind.check (post.authority.map site.oracle) (← event)) with
  | .skip => return ()
  | .allowed event => setEvent event
  | .denied event bus =>
    setEvent event
    discard (again bus (some Stage.dispatchError.name))
  | .unrecorded event failure =>
    setEvent event
    throw failure

/-- Run a **strategy**. -/
def strategy (ref : StrategyRef) : Run Unit := do
  let post := (← site).strategies.get ref
  setEvent (← ask (post.strategy.resolve (← event)))

/-- Run a **script**. -/
def script (again : Trigger) (script : Script) : Run Value := do
  let event ← event
  note (.listener script.label event.name event.error)
  discard (actions again script.actions)
  return script.result

/-- Note what a **spy** sees. -/
def spy (authority : AuthorityRef) : Run Unit := do
  let event ← event
  let identity ← ask ((← site).oracle authority).identity
  note (.stage event.name event.error identity)

/-- Run a **listener**. -/
def handler (again : Trigger) : Handler → Run Value
  | .guard ref => do
    guard again ref
    return .null
  | .strategy ref => do
    strategy ref
    return .null
  | .script s => script again s
  | .spy authority => do
    spy authority
    return .null

/-- The name and flag with which a trigger starts. -/
def startStage (stage : Option String) (event : Event) : Event :=
  { event with name := stage.getD event.name, stopped := false }

/-- **Trigger** a stage of the event on a bus, with at most `depth` triggers inside each other. -/
def trigger : Nat → Trigger
  | 0, _, _ => throw .tooDeep
  | depth + 1, bus, stage => do
    changeEvent (startStage stage)
    let listeners ← liftM (((← site).buses.get bus).listeners (← event).name)
    runListeners (fun subscription => handler (trigger depth) subscription.listener)
      (return (← event).stopped) listeners

/-- How deep triggers may nest. -/
def depthLimit : Nat := 300

/-- Trigger a stage. -/
def triggerStage (bus : BusRef) (stage : Stage) : Run Responses :=
  trigger depthLimit bus (some stage.name)

end Run

end GuardedDispatch
