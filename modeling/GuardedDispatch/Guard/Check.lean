import GuardedDispatch.Access.Oracle
import GuardedDispatch.Dispatch.Event

/-! # Checking requests

What a guard does with a routed request. It asks its oracle about one candidate resource after the
other and stops at the first that is allowed; if none is, it turns the request down. Checking is a
computation that asks and otherwise changes nothing but the event (`GuardKind.check`): announcing a
denial on the error stage is left to the pipeline.

The steps have a fixed order. A guard that does not apply asks nothing and needs no oracle; the
names of all candidates are formed before the first question; the identity is learned after the
last. A denial is put on record before it is announced, and the record quotes the identity: where
that cannot be printed, the event stays denied and nothing is announced. -/

namespace GuardedDispatch

/-- What a guard decided about an event. -/
inductive Verdict where
  /-- The guard does not apply, or has decided before. -/
  | skip
  /-- The request may pass. -/
  | allowed (event : Event)
  /-- The request is turned down; the error stage is to run on the bus. -/
  | denied (event : Event) (bus : BusRef)
  /-- The request is turned down, and there is no record of it: the event is left as it is halfway,
  and the failure goes on. -/
  | unrecorded (event : Event) (failure : Failure)

namespace GuardKind

/-- Whether the guard has to check the event: a routed HTTP request without an error that the guard
has not decided yet. -/
def applies (kind : GuardKind) (event : Event) : Bool :=
  (match event.request with
    | some (.http _) => true
    | _ => false) &&
  event.routeMatch.isSome && !event.isError && event.outcome kind.id == .unchecked

/-- The text of an action or method that is to be lower-cased; octets are quoted, and the absent
value is none. -/
def segment? : Value → Except Failure (Option Word)
  | .null => .ok none
  | .str s => .ok (some s)
  | .codes points halves => .ok (some (.codes points halves))
  | .bytes octets => .ok (some (Text.quotedOctets octets))
  | _ => .error .attribute

/-- The resources of a controller under one segment, none if the segment is empty or absent. -/
def segmentResources (controller : Word) (segment : Value) : Except Failure (List Word) :=
  if segment.truthy then do
    return [controllerResource controller (← segment? segment)]
  else
    return []

/-- The **candidate resources** of a controller request, in the order of asking: the controller, its
action, its method. -/
def controllerCandidates (controller : Word) (action method : Value) :
    Except Failure (List Word) := do
  let ofAction ← segmentResources controller action
  let ofMethod ← segmentResources controller method
  return controllerResource controller none :: ofAction ++ ofMethod

/-- The method of an event's request. -/
def methodOf (event : Event) : Value :=
  match event.request with
  | some (.http request) => request.method
  | _ => .null

/-- What a guard checks about an event. -/
structure Target where
  /-- The resources to ask about, in order. -/
  candidates : Except Failure (List Word)
  /-- The parameters that describe a denial, given the identity. -/
  details : Value → List (String × Value)
  /-- What the text of a denial names. -/
  subject : Except Failure Word

/-- The target of a **controller** check. -/
def controllerTarget (routeMatch : RouteMatch) (method : Value) : Option Target :=
  let controller := (lookupField "controller" routeMatch.params).getD .null
  let action := (lookupField "action" routeMatch.params).getD .null
  if controller.isNull then none
  else some
    { candidates := do controllerCandidates (← controller.printWord) action method
      details := fun identity =>
        [("identity", identity), ("controller", controller), ("action", action)]
      subject := do
        let segment := if action.truthy then action else method
        return controllerResource (← controller.printWord) (← segment? segment) }

/-- The target of a **route** check. -/
def routeTarget (routeMatch : RouteMatch) : Option Target :=
  if routeMatch.name.isNull then none
  else some
    { candidates := do return [routeResource (← routeMatch.name.printWord)]
      details := fun identity => [("route", routeMatch.name), ("identity", identity)]
      subject := routeMatch.name.printWord }

/-- The target of a check, if the matched route has one for this kind of guard. -/
def target? (kind : GuardKind) (event : Event) : Option Target := do
  let routeMatch ← event.routeMatch
  match kind with
  | controller => controllerTarget routeMatch (methodOf event)
  | route => routeTarget routeMatch

/-- Whether the oracle allows one of the candidates; it is asked no further than the first. -/
def anyAllowed (oracle : Oracle) (candidates : List Word) : Asking Bool :=
  candidates.anyM fun resource => oracle.isAllowed (.ofWord resource) .null

/-- The parameters of an event after a **denial**: the error kind, the details, the exception. -/
def describeDenial (kind : GuardKind) (details : List (String × Value)) (subject : Word)
    (event : Event) : Event :=
  (details.foldl (fun event detail => event.setParam detail.1 detail.2)
    (event.setError (.str kind.errorKind))).setParam "exception"
      (.error ⟨.unauthorized, "You are not authorized to access " ++ subject⟩)

/-- The **record** of a denial: what is denied, to which identity, and for which event. -/
def recordOf (details : List (String × Value)) (subject : Word) (event : String) :
    Except Failure Word :=
  ((lookupField "identity" details).getD .null).printQuoted.map fun identity : String =>
    "Denied " ++ subject ++ " for identity " ++ identity ++ " (request " ++ event ++ ")"

/-- **Turn down** an event: the outcome moves to denied, the parameters describe why, the denial is
recorded, and the outcome moves on, because the error stage is to run. -/
def deny (kind : GuardKind) (event : Event) (details : List (String × Value)) (subject : Word) :
    Except Failure Verdict := do
  match event.bus with
  | none => throw (.configuration (.noBus event.id))
  | some bus =>
    let denied ← event.transition kind.id .denied
    let described := kind.describeDenial details subject denied
    match recordOf details subject event.id with
    | .error failure => return .unrecorded described failure
    | .ok _ => return .denied (← described.transition kind.id .errorTriggered) bus

/-- **Check** an event. -/
def check (kind : GuardKind) (oracle : Option Oracle) (event : Event) : Asking Verdict := do
  if kind.applies event then
    match kind.target? event with
    | none => return .skip
    | some target =>
      match oracle with
      | none => throw (.configuration (.noService kind))
      | some oracle =>
        let candidates ← liftM target.candidates
        if ← anyAllowed oracle candidates then
          return .allowed (← liftM (event.transition kind.id .allowed))
        else
          let identity ← oracle.identity
          let subject ← liftM target.subject
          liftM (kind.deny event (target.details identity) subject)
  else
    return .skip

/-- A guard that does not apply asks nothing. -/
theorem check_of_not_applies {kind : GuardKind} {event : Event} (h : kind.applies event = false)
    (oracle : Option Oracle) : kind.check oracle event = pure .skip := by
  simp [check, h]

end GuardKind

end GuardedDispatch
