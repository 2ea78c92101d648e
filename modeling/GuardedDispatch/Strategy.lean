import GuardedDispatch.Dispatch.Event

/-! # Failure strategies

What becomes of an authorization failure that nobody has answered. A **redirection** sends the
client elsewhere with `302 Found`; an **unauthorized page** answers `403 Forbidden` and adds a page
to the view. Both leave an event alone that has been answered, or whose error has nothing to do with
authorization (`Event.isAuthorizationError`). -/

namespace GuardedDispatch

/-- Whether the error of an event is an **authorization error**: a denial, or an application's own
error of that kind. -/
def Event.isAuthorizationError (event : Event) : Bool :=
  let error := event.error
  if error == .str GuardKind.controller.errorKind || error == .str GuardKind.route.errorKind then
    true
  else if error == .str ErrorMark.exception.name then
    match event.param "exception" with
    | .error e => e.kind = .unauthorized
    | _ => false
  else
    false

/-- A **strategy**. Options give it texts (`Strategy.withOption?`), but any value may be put in
their place (`Strategy.withField?`). -/
inductive Strategy where
  /-- Redirect to an address, or to a named route if the address is absent. -/
  | redirect (route uri : Value)
  /-- Show a page with a template. -/
  | unauthorized (template : Value)

/-- The kinds of strategy. -/
inductive StrategyKind where
  /-- Redirections. -/
  | redirect
  /-- Unauthorized pages. -/
  | unauthorized
  deriving DecidableEq, Repr

/-- The id under which configuration knows a kind of strategy. -/
def StrategyKind.id : StrategyKind → String
  | .redirect => "redirect"
  | .unauthorized => "unauthorized"

/-- The printed name of a kind of strategy. -/
def StrategyKind.name : StrategyKind → String
  | .redirect => "RedirectionStrategy"
  | .unauthorized => "UnauthorizedStrategy"

namespace Strategy

/-- The kind of a strategy. -/
def kind : Strategy → StrategyKind
  | redirect .. => .redirect
  | unauthorized _ => .unauthorized

/-- The printed form of a strategy. -/
def quoted (strategy : Strategy) : String := "<" ++ strategy.kind.name ++ ">"

/-- A route to redirect to, as text. -/
def readRoute (value : Value) : Except Failure Value := value.printed

/-- An address to redirect to, as text; anything empty is none. -/
def readUri (value : Value) : Except Failure Value :=
  if value.truthy then value.printed else .ok .null

/-- A template as text; it must not be empty. -/
def readTemplate (value : Value) : Except Failure Value :=
  if value.truthy then value.printed else .error (.configuration .noTemplate)

/-- A strategy with one of its options changed, if its kind has the option. -/
def withOption? (strategy : Strategy) (name : String) (value : Value) :
    Except Failure (Option Strategy) :=
  match strategy with
  | redirect route uri =>
    if name = "redirect_route" then (readRoute value).map fun route => some (redirect route uri)
    else if name = "redirect_uri" then (readUri value).map fun uri => some (redirect route uri)
    else .ok none
  | unauthorized _ =>
    if name = "template" then (readTemplate value).map fun template => some (unauthorized template)
    else .ok none

/-- A strategy with any value in the place of an option, if its kind has the field. -/
def withField? (strategy : Strategy) (name : String) (value : Value) : Option Strategy :=
  match strategy with
  | redirect route uri =>
    if name = "_redirect_route" then some (redirect value uri)
    else if name = "_redirect_uri" then some (redirect route value)
    else none
  | unauthorized _ => if name = "_template" then some (unauthorized value) else none

/-- The options of a strategy, by name. -/
def options : Strategy → List (String × Value)
  | redirect route uri => [("redirect_route", route), ("redirect_uri", uri)]
  | unauthorized template => [("template", template)]

/-- Whether the event still waits for an answer, as far as its response goes: it has none, or an
HTTP response that may be completed. -/
def openResponse? (event : Event) : Option HttpResponse :=
  if event.response.isNull then some {} else event.httpResponse?

/-- The **values** on a page about the event's error, if it is an authorization error. -/
def pageValues? (event : Event) : Option (List (String × Value)) :=
  let common := [("error", event.param "error"), ("identity", event.param "identity")]
  let error := event.error
  if error == .str GuardKind.controller.errorKind then
    some (common ++ [("controller", event.param "controller"), ("action", event.param "action")])
  else if error == .str GuardKind.route.errorKind then
    some (common ++ [("route", event.param "route")])
  else if error == .str ErrorMark.exception.name then
    match event.param "exception" with
    | .error e =>
      if e.kind = .unauthorized then
        some [("error", .str "error-unauthorized"), ("identity", event.param "identity"),
          ("reason", .ofWord e.text)]
      else none
    | _ => none
  else none

/-- The **address** that a redirection sends to: its own, or that of its route. -/
def address (route uri : Value) (event : Event) : Asking Value :=
  if !uri.isNull then pure uri
  else
    match event.router with
    | none => do throw (.configuration (.noRouter (← liftM route.print)))
    | some router => router.address route

/-- Answer an event by a redirection. -/
def resolveRedirect (route uri : Value) (event : Event) : Asking Event := do
  match event.result, openResponse? event with
  | .http .., _ => return event
  | _, none => return event
  | _, some response =>
    if event.routeMatch.isNone || !event.isAuthorizationError then return event
    let url ← address route uri event
    let response := { response.addHeader "Location" url with status := .int 302 }
    return { event with response := response.toValue }

/-- Answer an event by a page. -/
def resolveUnauthorized (template : Value) (event : Event) : Event :=
  if event.result.isResponse then event
  else
    match openResponse? event, pageValues? event with
    | some response, some values =>
      { event with
        pages := event.pages ++ [⟨template, values⟩]
        response := { response with status := .int 403 }.toValue }
    | _, _ => event

/-- **Resolve** the failure of an event. -/
def resolve : Strategy → Event → Asking Event
  | redirect route uri, event => resolveRedirect route uri event
  | unauthorized template, event => pure (resolveUnauthorized template event)

end Strategy

end GuardedDispatch
