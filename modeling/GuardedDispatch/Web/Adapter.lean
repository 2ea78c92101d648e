import GuardedDispatch.Session
import GuardedDispatch.Text.Blank
import GuardedDispatch.Web.App

/-! # The adapter

The pipeline in front of a web application. A request that matches an endpoint runs the route stage,
where the guards listen; if no error is left, the dispatch stage and the application. An error that
says the identity may not access something becomes the event's error and runs the error stage, like
a denial. A request that matches no endpoint runs the error stage and is left to the application.
Every request that is answered ends with the finish stage.

While a request is handled, the identity that it came with is current; afterwards the one before it
is current again, whatever happened (`Run.withIdentity`). -/

namespace GuardedDispatch.Web

/-- An application **behind guards**. -/
structure Guarded where
  app : App
  bus : BusRef
  authority : AuthorityRef
  provider : ProviderRef
  identify : Option (HttpRequest → Option Identity)
  renderer : Renderer

/-- The path of a request: that of its address, without line ends and tabs. -/
def requestPath (path : String) : String :=
  String.ofList ((addressPath path).toList.filter fun c => !(['\t', '\n', '\r'].contains c))

/-- One field of a query; blanks are written as plus signs. -/
def queryText (cs : List Char) : String :=
  Text.Percent.decode (String.ofList (cs.map fun c => if c = '+' then ' ' else c))

/-- The fields of a query: of several values of a name the last counts, in the place of the first.
A character outside ASCII that is not encoded counts as its octets. -/
def queryFields (query : String) : List (String × String) :=
  (((Text.Utf8.octetChars query).splitOn '&').filter (!·.isEmpty)).foldl (fun fields field =>
    putField (queryText (field.takeWhile (· ≠ '=')))
      (queryText ((field.dropWhile (· ≠ '=')).drop 1)) fields) []

/-- Header lines with the first value of each name. -/
def firstLines (lines : List (String × String)) : List (String × String) :=
  lines.foldl (fun found line =>
    if (lookupField line.1 found).isSome then found else found ++ [line]) []

/-- A request as the pipeline sees it. -/
def Incoming.toRequest (request : Incoming) : HttpRequest where
  method := .str request.method
  path := requestPath request.path
  headers := firstLines request.headers
  query := queryFields request.query

/-- Run with an identity bound to the context, and restore the one before it in any case. -/
def withIdentity (identity : Option Identity) (run : Run α) : Run α := do
  let site ← Run.site
  let (token, context) := site.context.bind identity
  Run.setSite { site with context }
  let result ← ExceptT.lift run.run
  let after ← Run.site
  let restored := after.context.restore token
  match restored with
  | .ok context => Run.setSite { after with context }
  | .error _ => pure ()
  liftM result

/-- Pass a request on to the application; the calls of its endpoints are noted. -/
def callNext (app : App) (request : Incoming) : Run Answer := do
  let served := app.serve request
  for name in served.endpoints do
    Run.note (.endpoint name)
  return served.answer

namespace Guarded

/-- Trigger a stage, and drop what its listeners returned. -/
def trigger (guarded : Guarded) (stage : Stage) : Run Unit :=
  discard (Run.triggerStage guarded.bus stage)

/-- End a request that was answered. -/
def finish (guarded : Guarded) (reply : Reply) : Run Reply := do
  guarded.trigger .finish
  return reply

/-- The reply that the event describes. -/
def eventReply (guarded : Guarded) : Run Reply := do
  liftM ((← Run.event).reply guarded.renderer)

/-- End a request that the application served. -/
def finishAnswer (guarded : Guarded) : Answer → Run Reply
  | .reply reply => guarded.finish reply
  | .raised failure => throw failure
  | .broken failure => do
    guarded.trigger .finish
    throw failure

/-- Handle a request that matches no endpoint. -/
def handleUnmatched (guarded : Guarded) (request : Incoming) : Run Reply := do
  Run.changeEvent (·.setError (.str ErrorMark.noMatch.name))
  guarded.trigger .dispatchError
  guarded.finishAnswer (← callNext guarded.app request)

/-- Answer an error that says the identity may not access something. -/
def answerUnauthorized (guarded : Guarded) (error : Raised) : Run Reply := do
  Run.changeEvent (·.setError (.str ErrorMark.exception.name))
  let identity ← Run.ask ((← Run.site).oracle guarded.authority).identity
  Run.changeEvent fun event =>
    (event.setParam "identity" identity).setParam "exception" (.error error)
  guarded.trigger .dispatchError
  guarded.finish (← guarded.eventReply)

/-- Pass an allowed request on. -/
def passOn (guarded : Guarded) (request : Incoming) : Run Reply := do
  guarded.trigger .dispatch
  match ← callNext guarded.app request with
  | .raised (.raised error) =>
    if error.kind = .unauthorized then guarded.answerUnauthorized error
    else throw (.raised error)
  | answer => guarded.finishAnswer answer

/-- Handle a request that matches an endpoint. -/
def handleMatched (guarded : Guarded) (request : Incoming) : Run Reply := do
  guarded.trigger .route
  if (← Run.event).isError then
    guarded.finish (← guarded.eventReply)
  else
    guarded.passOn request

/-- The **event** of a request. -/
def eventOf (guarded : Guarded) (request : Incoming) : Except Failure Event := do
  let routeMatch ← guarded.app.matchRoute request.method request.path
  return {
    id := "req_http"
    request := some (.http request.toRequest)
    routeMatch
    router := some guarded.app.router
    bus := some guarded.bus }

/-- **Handle** a request. -/
def handle (guarded : Guarded) (request : Incoming) : Run Reply := do
  Run.setEvent (← liftM (guarded.eventOf request))
  if (← Run.event).routeMatch.isNone then
    guarded.handleUnmatched request
  else
    match (← Run.site).providers.get guarded.provider with
    | .ofContext _ =>
      withIdentity (guarded.identify.bind (· request.toRequest)) (guarded.handleMatched request)
    | .fixed .. => guarded.handleMatched request

end Guarded

/-- What guards may be installed with; what is missing is made. -/
structure Installing where
  authority : Option AuthorityRef := none
  provider : Option ProviderRef := none
  bus : Option BusRef := none

/-- The provider that guards are installed with. -/
def Installing.providerIn (installing : Installing) (site : Site) : ProviderRef × Site :=
  match installing.provider with
  | some ref => (ref, site)
  | none => site.addProvider (.ofContext standardRole)

/-- The bus that guards are installed on. -/
def Installing.busIn (installing : Installing) (site : Site) : BusRef × Site :=
  match installing.bus with
  | some ref => (ref, site)
  | none => site.addBus

/-- **Install** guards in front of an application: the service is built unless one is given, all
guards are bound to it, and all listeners are attached to the bus. -/
def install (site : Site) (app : App) (installation : Installation) (installing : Installing)
    (identify : Option (HttpRequest → Option Identity)) (renderer : Renderer) :
    Except Failure (Guarded × Site) := do
  let (bus, site) := installing.busIn site
  let (provider, site) := installing.providerIn site
  let (authority, site) ← match installing.authority with
    | some ref => .ok (ref, Session.bindAll site installation ref)
    | none => do
      let (ref, _, site) ← Session.buildAuthority site installation provider []
      .ok (ref, site)
  return ({ app, bus, authority, provider, identify, renderer },
    Session.attachAllTo site installation bus)

end GuardedDispatch.Web
