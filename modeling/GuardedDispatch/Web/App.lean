import GuardedDispatch.Web.Pattern
import GuardedDispatch.Web.Reply
import GuardedDispatch.Web.Status

/-! # Applications

A web application is a list of routes: endpoints, applications mounted under a path, and entries of
other kinds. The first route that matches a request in full serves it (`App.serve`). If none does, a
route that matches but for its method answers 405; if that fails too, a path that some route matches
with or without a slash at its end is redirected there; all other requests are not found. Endpoints
get the parameters of the mounts above them in front of their own.

`App.matchRoute` finds the endpoint route that a guard is to judge. It passes over all routes
without an endpoint and goes on with later ones. A route whose pattern fits a path that cannot be
read ends the search with a failure. -/

namespace GuardedDispatch.Web

/-- A text without the slashes at its end. -/
def dropSlashes (s : String) : String :=
  String.ofList ((s.toList.reverse.dropWhile (· = '/')).reverse)

/-- A **request** as it arrives: a decoded path, a query and header lines with lower-case names. -/
structure Incoming where
  method : String
  path : String
  query : String := ""
  headers : List (String × String) := []

/-- How a route matches. -/
inductive Match where
  /-- It does not. -/
  | none
  /-- It does but for the method. -/
  | partly
  /-- In full, with the parameters of the path. -/
  | fully (params : Params)

/-- Whether a route matches at all. -/
def Match.isSome : Match → Bool
  | .none => false
  | _ => true

/-- The **answer** of an application to a request. -/
inductive Answer where
  /-- A reply. -/
  | reply (reply : Reply)
  /-- An error before any reply. -/
  | raised (failure : Failure)
  /-- An error after a reply was begun. -/
  | broken (failure : Failure)

/-- What an **endpoint** does. -/
inductive Behaviour where
  /-- Answers a value as JSON. -/
  | returns (value : Value)
  /-- Answers the parameters of the path as JSON. -/
  | echoes
  /-- Raises an error. -/
  | raises (error : Raised)
  /-- Answers an error status. -/
  | fails (status : Int)
  /-- Answers in a way of its own, given the parameters and the request. -/
  | answers (respond : Params → Incoming → Answer)

/-- An **endpoint**: a function of a module. -/
structure Endpoint where
  name : String
  module : String
  behaviour : Behaviour

/-- An entry **without an endpoint** that is no mounted application: how it matches a method and a
path, what it answers, and the addresses of the names it knows. -/
structure Extension where
  reads : String → String → Except Failure Match
  answer : Incoming → Answer
  address? : String → Option String

/-- A **route**. -/
inductive Route where
  /-- An endpoint under a path and some methods; it may have a name. -/
  | endpoint (path : String) (methods : List String) (name : Option String) (target : Endpoint)
  /-- An application mounted under a path. -/
  | mount (path : String) (name : String) (routes : List Route)
  /-- Any other entry. -/
  | extension (entry : Extension)

instance : Inhabited Route := ⟨.mount "" "" []⟩

/-- An **application**. -/
structure App where
  routes : List Route

/-- The text of the pattern of all paths below a mounted application. -/
def mountText (path : String) : String := dropSlashes path ++ "/\x7bpath:path\x7d"

mutual

/-- **Check** a route: its path has to be a pattern, and it has to take some method. What is mounted
is checked before its path. -/
def Route.check : Route → Except RouteFault Unit
  | .endpoint path methods _ _ => do
    Pattern.check path
    if methods.isEmpty then throw .noMethods
  | .mount path _ routes => do
    checkRoutes routes
    if !(path.isEmpty || path.startsWith "/") then throw .notRooted
    Pattern.check (mountText path)
  | .extension _ => .ok ()

/-- Check routes in order. -/
def checkRoutes : List Route → Except RouteFault Unit
  | [] => .ok ()
  | route :: rest => do
    route.check
    checkRoutes rest

end

/-- **Check** an application. -/
def App.check (app : App) : Except Failure Unit := (checkRoutes app.routes).mapError .route

/-- The part of a path below the root of an application. -/
def belowRoot (root path : String) : String :=
  if root.isEmpty then path
  else
    match dropFront? root.toList path.toList with
    | some [] => ""
    | some ('/' :: rest) => String.ofList ('/' :: rest)
    | _ => path

/-- The pattern of all paths below a mounted application. -/
def mountPattern (path : String) : Pattern := .ofText (mountText path)

/-- The parameters of the path of a mounted application, and the path below it, if the path is
below it. -/
def readMount (path below : String) : Except Failure (Option (Params × String)) := do
  match ← (mountPattern path).read below with
  | some params =>
    match lookupField "path" params with
    | some (.str rest) => return some (dropField "path" params, "/" ++ rest)
    | _ => return none
  | none => return none

/-- Parameters with further ones behind them; of two of a name the further one counts. -/
def Params.extend (params further : Params) : Params :=
  further.foldl (fun params (name, value) => putField name value params) params

namespace Route

/-- How a route **matches** a method and a path below the root. -/
def read (method below : String) : Route → Except Failure Match
  | .endpoint path methods _ _ =>
    ((Pattern.ofText path).read below).map fun
      | none => .none
      | some params => if methods.contains method then .fully params else .partly
  | .mount path _ _ =>
    (readMount path below).map fun
      | none => .none
      | some (params, _) => .fully params
  | .extension entry => entry.reads method below

/-- Whether a route matches a path with some method. -/
def touches (below : String) (route : Route) : Except Failure Bool :=
  (route.read "" below).map Match.isSome

end Route

/-- A **served** request: its answer, and the endpoints that ran. -/
structure Served where
  answer : Answer
  endpoints : List String := []

/-- A reply, or the error that kept it from being made. -/
def Answer.ofReply : Except Failure Reply → Answer
  | .ok made => .reply made
  | .error failure => .raised failure

/-- A reply that carries a detail. -/
def detailReply (status : Int) (front : List (String × String)) (detail : String) : Answer :=
  .ofReply (Reply.json (.int status) front (.map [(.str "detail", .str detail)]))

/-- Whether replies of a status have no body. -/
def hidesBody (status : Int) : Bool :=
  status < 200 || status = 204 || status = 205 || status = 304

/-- What came of an endpoint's error status. Its detail is the standard phrase, if there is one. -/
def errorStatus (status : Int) : Answer :=
  if hidesBody status then .ofReply (Reply.of (.int status) [] none [])
  else detailReply status [] ((phrase? status).getD "")

/-- Parameters as a value. -/
def paramsValue (params : Params) : Value :=
  .map (params.map fun param => (.str param.1, param.2))

/-- Whether a key marks a field that endpoints keep to themselves. -/
def isPrivateKey : Value → Bool
  | .str key => key.startsWith "_sa"
  | _ => false

mutual

/-- What goes out of an endpoint's value: maps lose their private fields. -/
def published : Value → Value
  | .list items => .list (publishedItems items)
  | .map fields => .map (publishedFields fields)
  | v => v

/-- What goes out of items. -/
def publishedItems : List Value → List Value
  | [] => []
  | v :: rest => published v :: publishedItems rest

/-- What goes out of fields. -/
def publishedFields : Fields → Fields
  | [] => []
  | (k, v) :: rest =>
    if isPrivateKey k then publishedFields rest else (k, published v) :: publishedFields rest

end

/-- Run an **endpoint**. -/
def Endpoint.run (target : Endpoint) (params : Params) (request : Incoming) : Answer :=
  match target.behaviour with
  | .returns value => .ofReply (Reply.json (.int 200) [] (published value))
  | .echoes => .ofReply (Reply.json (.int 200) [] (published (paramsValue params)))
  | .raises error => .raised (.raised error)
  | .fails status => errorStatus status
  | .answers respond => respond params request

/-- The answer to a method that a route does not take. -/
def refuseMethod (methods : List String) : Answer :=
  detailReply 405 [("allow", ", ".intercalate (sortTexts methods.eraseDups))] "Method Not Allowed"

/-- One character of a path inside an address: marks that would end the path are encoded. -/
def addressChar (c : Char) : List Char :=
  if c = '?' then ['%', '3', 'F']
  else if c = '#' then ['%', '2', '3']
  else if c = '\\' then ['%', '5', 'C']
  else [c]

/-- The path of an address that a decoded path makes; it starts with a slash unless it is empty. -/
def addressPath (path : String) : String :=
  match path.toList.flatMap addressChar with
  | [] => ""
  | '/' :: rest => String.ofList ('/' :: rest)
  | cs => String.ofList ('/' :: cs)

/-- The **host** that a request names first, if it names one. -/
def Incoming.host? (request : Incoming) : Option String := lookupField "host" request.headers

/-- The address of another path with the query of a request, on the host that the request names. -/
def Incoming.addressOf (request : Incoming) (path : String) : String :=
  ((request.host?.map ("http://" ++ ·)).getD "") ++ addressPath path ++
    (if request.query.isEmpty then "" else "?" ++ request.query)

/-- The path with a slash at its end if it has none, and without one otherwise. -/
def toggleSlash (below path : String) : String :=
  if below.endsWith "/" then dropSlashes path else path ++ "/"

/-- The answer of the first route that matches but for its method. -/
def refusal? (routes : List Route) (request : Incoming) (below : String) :
    Except Failure (Option Answer) :=
  routes.findSomeM? fun route => do
    match route, ← route.read request.method below with
    | .endpoint _ methods _ _, .partly => return some (refuseMethod methods)
    | .extension entry, .partly => return some (entry.answer request)
    | _, _ => return none

/-- The answer to a request that no route serves. -/
def unserved (routes : List Route) (root : String) (request : Incoming) :
    Except Failure Answer := do
  let below := belowRoot root request.path
  if let some answer ← refusal? routes request below then return answer
  let other := toggleSlash below request.path
  if below ≠ "/" then
    if ← routes.anyM (·.touches (belowRoot root other)) then
      return .ofReply (Reply.redirect (.int 307) (request.addressOf other))
  return detailReply 404 [] "Not Found"

/-- An answer, or the error that kept it from being found. -/
def Answer.ofExcept : Except Failure Answer → Answer
  | .ok answer => answer
  | .error failure => .raised failure

/-- What the application around a mounted one sees of it: an error comes after a reply was begun. -/
def Served.mounted (served : Served) : Served :=
  match served.answer with
  | .raised failure => { served with answer := .broken failure }
  | _ => served

/-- What is left to do when no route served. -/
def Served.orElse (served : Option Served) (routes : List Route) (root : String)
    (request : Incoming) : Served :=
  served.getD ⟨.ofExcept (unserved routes root request), []⟩

mutual

/-- Serve a request by a route that matches it in full. -/
def Route.serve? (root : String) (outer : Params) (request : Incoming) : Route → Option Served
  | .endpoint path methods name target =>
    match (Route.endpoint path methods name target).read request.method
      (belowRoot root request.path) with
    | .ok (.fully params) => some ⟨target.run (outer.extend params) request, [target.name]⟩
    | .ok _ => none
    | .error failure => some ⟨.raised failure, []⟩
  | .mount path _ routes =>
    match readMount path (belowRoot root request.path) with
    | .ok (some (params, rest)) =>
      let below := belowRoot root request.path
      let inner := root ++ String.ofList (below.toList.take (below.length - rest.length))
      let served := serveFirst? inner (outer.extend params) request routes
      some (Served.orElse served routes inner request).mounted
    | .ok none => none
    | .error failure => some ⟨.raised failure, []⟩
  | .extension entry =>
    match entry.reads request.method (belowRoot root request.path) with
    | .ok (.fully _) => some ⟨entry.answer request, []⟩
    | .ok _ => none
    | .error failure => some ⟨.raised failure, []⟩

/-- Serve a request by the first route that matches it in full. -/
def serveFirst? (root : String) (outer : Params) (request : Incoming) :
    List Route → Option Served
  | [] => none
  | route :: rest =>
    (route.serve? root outer request).or (serveFirst? root outer request rest)

end

/-- **Serve** a request. -/
def App.serve (app : App) (request : Incoming) : Served :=
  Served.orElse (serveFirst? "" [] request app.routes) app.routes "" request

/-- The route, with its parameters, that a guard is to judge: controller and action are always those
of the endpoint. -/
def Route.judged? (method path : String) : Route → Except Failure (Option RouteMatch)
  | .endpoint pattern methods name target => do
    match ← (Route.endpoint pattern methods name target).read method path with
    | .fully params =>
      return some ⟨.ofText? name, putField "action" (.str target.name)
        (putField "controller" (.str target.module) params)⟩
    | _ => return none
  | .mount .. | .extension _ => return none

/-- **Match** a request to the first endpoint route that takes it. -/
def App.matchRoute (app : App) (method path : String) : Except Failure (Option RouteMatch) :=
  app.routes.findSomeM? (·.judged? method path)

/-- One character of a route's address: a backslash is encoded. -/
def routeChar (c : Char) : List Char := if c = '\\' then ['%', '5', 'C'] else [c]

/-- The address of a path **on this host**: two slashes at its start would name another one, and so
would backslashes. -/
def guardSlashes (path : String) : String :=
  String.ofList (match path.toList.flatMap routeChar with
    | '/' :: '/' :: rest => ['/', '%', '2', 'F'] ++ rest
    | cs => cs)

mutual

/-- The path of a named route without parameters. Those of mounts stay open. -/
def Route.address? (wanted : String) : Route → Option String
  | .endpoint path _ name _ =>
    if name = some wanted && !(Pattern.ofText path).hasParameters then some (guardSlashes path)
    else none
  | .mount path name routes =>
    match dropFront? (name ++ ":").toList wanted.toList with
    | some rest =>
      (firstAddress? (String.ofList rest) routes).map fun below =>
        guardSlashes (dropSlashes (Pattern.ofText path).outline ++ below)
    | none => none
  | .extension entry => entry.address? wanted

/-- The path of the first route of a name. -/
def firstAddress? (wanted : String) : List Route → Option String
  | [] => none
  | route :: rest => (route.address? wanted).or (firstAddress? wanted rest)

end

/-- The **router** of an application. -/
def App.router (app : App) : Router where
  address name :=
    match firstAddress? name.text app.routes with
    | some path => pure (.str path)
    | none => throw (.noRoute name.text)

/-- The routes that describe an application, in front of its own. -/
def descriptionRoutes : List Route :=
  [("/openapi.json", "openapi"), ("/docs", "swagger_ui_html"),
   ("/docs/oauth2-redirect", "swagger_ui_redirect"), ("/redoc", "redoc_html")].map
    fun (path, name) =>
      .endpoint path ["GET", "HEAD"] (some name) ⟨name, "fastapi.applications", .returns .null⟩

end GuardedDispatch.Web
