import GuardedDispatch.Web.App

/-! # Which endpoint is judged

A request is dispatched to an endpoint if the endpoint's route is the first that matches it in full
(`App.Dispatches`). That endpoint then serves it (`serve_of_dispatches`), and it is the one that
guards judge (`matchRoute_of_dispatches`), although they look for a route in their own way.

They part where the first route that matches in full has no endpoint, such as a mounted application
(`App.Diverted`). Guards look on behind it, and judge the first endpoint there that takes the
request, if there is one (`matchRoute_of_diverted`), while another route serves it
(`judges_behind_mount`). -/

namespace GuardedDispatch.Web

/-- A route that does **not match** a request **in full**, and can tell. -/
def Route.PassesOver (request : Incoming) (route : Route) : Prop :=
  ∃ how, route.read request.method request.path = .ok how ∧ ∀ params, how ≠ .fully params

/-- A request that is **dispatched** to an endpoint: the route of the endpoint is the first that
matches it in full. -/
structure App.Dispatches (app : App) (request : Incoming) (name : Option String)
    (target : Endpoint) (params : Params) : Prop where
  first : ∃ before path methods after,
    app.routes = before ++ Route.endpoint path methods name target :: after ∧
    (∀ route ∈ before, route.PassesOver request) ∧
    (Route.endpoint path methods name target).read request.method request.path =
      .ok (.fully params)

/-- What the parameters of a pattern take from a path is read, one after the other. -/
theorem read_of_taken {pattern : Pattern} {path : String} {taken : List Taken}
    (takes : matchParts pattern.key pattern.parts path.toList = some taken) :
    pattern.read path = (taken.mapM Taken.read).map some := by
  rw [Pattern.read, takes]
  rfl

/-- A path is its own below no root. -/
theorem belowRoot_empty (path : String) : belowRoot "" path = path := rfl

/-- A route that passes over a request does not serve it. -/
theorem Route.PassesOver.serve? {request : Incoming} {route : Route}
    (passes : route.PassesOver request) (outer : Params) :
    route.serve? "" outer request = none := by
  obtain ⟨how, read, notFull⟩ := passes
  cases route with
  | endpoint path methods name target =>
    rw [Route.serve?, belowRoot_empty, read]
    cases how with
    | fully params => exact absurd rfl (notFull params)
    | _ => rfl
  | mount path name routes =>
    -- a mount matches in full or not at all
    rw [Route.serve?, belowRoot_empty]
    rw [Route.read] at read
    cases found : readMount path request.path with
    | error failure => rw [found] at read; cases read
    | ok below =>
      rw [found] at read
      cases below with
      | none => rfl
      | some below => cases read; exact absurd rfl (notFull below.1)
  | extension entry =>
    rw [Route.read] at read
    rw [Route.serve?, belowRoot_empty, read]
    cases how with
    | fully params => exact absurd rfl (notFull params)
    | _ => rfl

/-- Nor is it judged for it. -/
theorem Route.PassesOver.judged? {request : Incoming} {route : Route}
    (passes : route.PassesOver request) :
    route.judged? request.method request.path = .ok none := by
  obtain ⟨how, read, notFull⟩ := passes
  cases route with
  | endpoint path methods name target =>
    rw [Route.judged?, read]
    cases how with
    | fully params => exact absurd rfl (notFull params)
    | _ => rfl
  | mount | extension => rfl

variable {app : App} {request : Incoming} {name : Option String} {target : Endpoint}
  {params : Params}

/-- **The endpoint serves** what is dispatched to it. -/
theorem serve_of_dispatches (dispatches : app.Dispatches request name target params) :
    app.serve request = ⟨target.run (Params.extend [] params) request, [target.name]⟩ := by
  obtain ⟨before, path, methods, after, routes, passOver, matched⟩ := dispatches.first
  have served : serveFirst? "" [] request app.routes =
      some ⟨target.run (Params.extend [] params) request, [target.name]⟩ := by
    rw [routes]
    clear routes
    -- over the routes before that of the endpoint, none of which serves the request
    induction before with
    | nil =>
      rw [List.nil_append, serveFirst?, Route.serve?, belowRoot_empty, matched]
      rfl
    | cons route rest ih =>
      rw [List.cons_append, serveFirst?, (passOver route List.mem_cons_self).serve? [],
        Option.none_or]
      exact ih fun other mem => passOver other (List.mem_cons_of_mem route mem)
  rw [App.serve, served]
  rfl

/-! ## What is judged -/

/-- Whether a route has an **endpoint** of its own. -/
def Route.isEndpoint : Route → Bool
  | .endpoint .. => true
  | .mount .. | .extension _ => false

/-- A route that is **not judged** for a request: it has no endpoint, or passes over it. -/
def Route.Unjudged (request : Incoming) (route : Route) : Prop :=
  route.isEndpoint = false ∨ route.PassesOver request

theorem Route.Unjudged.judged? {route : Route} (unjudged : route.Unjudged request) :
    route.judged? request.method request.path = .ok none := by
  rcases unjudged with other | passes
  · cases route with
    | endpoint => cases other
    | mount | extension => rfl
  · exact passes.judged?

/-- Routes that are not judged make **no difference** to what is. -/
theorem matchRoute_of_unjudged {routes before rest : List Route} (split : routes = before ++ rest)
    (unjudged : ∀ route ∈ before, route.Unjudged request) :
    (App.mk routes).matchRoute request.method request.path =
      (App.mk rest).matchRoute request.method request.path := by
  subst split
  induction before with
  | nil => rfl
  | cons route before ih =>
    rw [← ih fun other mem => unjudged other (List.mem_cons_of_mem route mem), App.matchRoute,
      List.cons_append, List.findSomeM?_cons, (unjudged route List.mem_cons_self).judged?]
    rfl

/-- Where no route is judged, there is no match. -/
theorem matchRoute_eq_none (unjudged : ∀ route ∈ app.routes, route.Unjudged request) :
    app.matchRoute request.method request.path = .ok none :=
  matchRoute_of_unjudged (List.append_nil app.routes).symm unjudged

/-- The **first endpoint** that takes a request is judged for it. -/
theorem matchRoute_of_endpoint {before after : List Route} {path : String} {methods : List String}
    (routes : app.routes = before ++ Route.endpoint path methods name target :: after)
    (unjudged : ∀ route ∈ before, route.Unjudged request)
    (matched : (Route.endpoint path methods name target).read request.method request.path =
      .ok (.fully params)) :
    app.matchRoute request.method request.path =
      .ok (some ⟨.ofText? name, putField "action" (.str target.name)
        (putField "controller" (.str target.module) params)⟩) := by
  refine (matchRoute_of_unjudged routes unjudged).trans ?_
  rw [App.matchRoute, List.findSomeM?_cons, Route.judged?, matched]
  rfl

/-- **The endpoint is judged** for what is dispatched to it, under its own name and module. -/
theorem matchRoute_of_dispatches (dispatches : app.Dispatches request name target params) :
    app.matchRoute request.method request.path =
      .ok (some ⟨.ofText? name, putField "action" (.str target.name)
        (putField "controller" (.str target.module) params)⟩) := by
  obtain ⟨before, path, methods, after, routes, passOver, matched⟩ := dispatches.first
  exact matchRoute_of_endpoint routes (fun route mem => .inr (passOver route mem)) matched

/-! ## Routes without an endpoint -/

/-- A request that is **diverted**: the first route that matches it in full has no endpoint. -/
structure App.Diverted (app : App) (request : Incoming) (behind : List Route) : Prop where
  first : ∃ before route params, app.routes = before ++ route :: behind ∧
    (∀ passed ∈ before, passed.PassesOver request) ∧
    route.read request.method request.path = .ok (.fully params) ∧ route.isEndpoint = false

/-- What is judged for a diverted request is what is judged **behind** the route that takes it. -/
theorem App.Diverted.matchRoute {behind : List Route} (diverted : app.Diverted request behind) :
    app.matchRoute request.method request.path =
      (App.mk behind).matchRoute request.method request.path := by
  obtain ⟨before, route, params, routes, passOver, -, other⟩ := diverted.first
  have split : app.routes = (before ++ [route]) ++ behind := by simpa using routes
  refine matchRoute_of_unjudged split ?_
  rw [List.forall_mem_append, List.forall_mem_singleton]
  exact ⟨fun passed mem => .inr (passOver passed mem), .inl other⟩

/-- A match **means an endpoint**: it has the name of its route, and the parameters of the path, but
controller and action are those of the endpoint, whatever the path calls so. -/
structure Means (found : RouteMatch) (name : Option String) (target : Endpoint) (params : Params) :
    Prop where
  name : found.name = .ofText? name
  controller : lookupField "controller" found.params = some (.str target.module)
  action : lookupField "action" found.params = some (.str target.name)
  others : ∀ key, key ≠ "controller" → key ≠ "action" →
    lookupField key found.params = lookupField key params

/-- What guards judge means the endpoint. -/
theorem means_judged (name : Option String) (target : Endpoint) (params : Params) :
    Means ⟨.ofText? name, putField "action" (.str target.name)
      (putField "controller" (.str target.module) params)⟩ name target params where
  name := rfl
  controller := by
    rw [lookupField_putField_of_ne (by decide), lookupField_putField_self]
  action := lookupField_putField_self _ _ _
  others key notController notAction := by
    rw [lookupField_putField_of_ne notAction, lookupField_putField_of_ne notController]

/-- **Which endpoint is judged.** For what is dispatched to an endpoint, it is that endpoint, which
serves it; and without a match in full there is none. A request that is diverted is judged as if it
had gone on: for the first endpoint behind the route that takes it, and not at all only if there is
none. -/
theorem matchRoute_of_routes (app : App) (request : Incoming) :
    (∀ name target params, app.Dispatches request name target params →
      app.serve request = ⟨target.run (Params.extend [] params) request, [target.name]⟩ ∧
        ∃ found, app.matchRoute request.method request.path = .ok (some found) ∧
          Means found name target params) ∧
    ((∀ route ∈ app.routes, route.PassesOver request) →
      app.matchRoute request.method request.path = .ok none) ∧
    ∀ behind, app.Diverted request behind →
      ((∀ route ∈ behind, route.Unjudged request) →
        app.matchRoute request.method request.path = .ok none) ∧
      ∀ before path methods name target after params,
        behind = before ++ Route.endpoint path methods name target :: after →
        (∀ route ∈ before, route.Unjudged request) →
        (Route.endpoint path methods name target).read request.method request.path =
          .ok (.fully params) →
        ∃ found, app.matchRoute request.method request.path = .ok (some found) ∧
          Means found name target params := by
  refine ⟨fun name target params dispatches => ?_, fun passOver => ?_, fun behind diverted => ?_⟩
  · exact ⟨serve_of_dispatches dispatches, _, matchRoute_of_dispatches dispatches,
      means_judged name target params⟩
  · exact matchRoute_eq_none fun route mem => .inr (passOver route mem)
  · rw [diverted.matchRoute]
    refine ⟨fun unjudged => ?_, fun before path methods name target after params => ?_⟩
    · exact matchRoute_eq_none unjudged
    · intro split unjudged matched
      exact ⟨_, matchRoute_of_endpoint split unjudged matched, means_judged name target params⟩

/-- A path that names a controller is judged under the module of its endpoint all the same. -/
theorem matchRoute_of_routes_controller :
    let page : Endpoint := ⟨"show", "app.pages", .returns .null⟩
    let app : App := ⟨[.extension ⟨fun _ _ => .ok .none, fun _ => .raised .key, fun _ => none⟩,
      .endpoint "/\x7bcontroller\x7d" ["GET"] (some "show") page]⟩
    ∃ found, app.matchRoute "GET" "/admin" = .ok (some found) ∧
      lookupField "controller" found.params = some (.str "app.pages") := by
  intro page app
  let request : Incoming := { method := "GET", path := "/admin" }
  have taken : (Pattern.ofText "/\x7bcontroller\x7d").read "/admin" = _ :=
    read_of_taken (show _ = some [⟨"controller", .segment, "admin".toList⟩] by decide +kernel)
  have dispatches : app.Dispatches request (some "show") page [("controller", .str "admin")] := by
    refine ⟨[_], _, _, [], rfl, ?_, ?_⟩
    · rw [List.forall_mem_singleton]
      exact ⟨.none, rfl, fun _ full => by cases full⟩
    · rw [Route.read, taken]
      rfl
  obtain ⟨-, found, matched, means⟩ := (matchRoute_of_routes app request).1 _ _ _ dispatches
  exact ⟨found, matched, means.controller⟩

/-- A mounted application serves what an endpoint behind it is judged for. -/
theorem judges_behind_mount :
    let download : Endpoint := ⟨"download", "app.files", .returns .null⟩
    let page : Endpoint := ⟨"show", "app.pages", .returns .null⟩
    let inner : Route := .endpoint "/\x7bname\x7d" ["GET"] none download
    let app : App := ⟨[.mount "/files" "files" [inner],
      .endpoint "/files/\x7bname\x7d" ["GET"] (some "show") page]⟩
    let request : Incoming := { method := "GET", path := "/files/a" }
    (∃ behind, app.Diverted request behind) ∧ (app.serve request).endpoints = ["download"] ∧
      app.matchRoute "GET" "/files/a" = .ok (some ⟨.str "show",
        [("name", .str "a"), ("controller", .str "app.pages"), ("action", .str "show")]⟩) := by
  intro download page inner app request
  have rest : (mountPattern "/files").read "/files/a" = _ :=
    read_of_taken (show _ = some [⟨"path", .rest, ['a']⟩] by decide +kernel)
  have outer : (Pattern.ofText "/files/\x7bname\x7d").read "/files/a" = _ :=
    read_of_taken (show _ = some [⟨"name", .segment, ['a']⟩] by decide +kernel)
  have segment : (Pattern.ofText "/\x7bname\x7d").read "/a" = _ :=
    read_of_taken (show _ = some [⟨"name", .segment, ['a']⟩] by decide +kernel)
  have below : readMount "/files" "/files/a" = .ok (some ([], "/a")) := by
    rw [readMount, rest]
    rfl
  refine ⟨⟨_, [], .mount "/files" "files" [inner], [], rfl, by simp, ?_, rfl⟩, ?_, ?_⟩
  · rw [Route.read, below]
    rfl
  · -- the mounted application serves the path below it
    have root : "" ++ String.ofList ("/files/a".toList.take ("/files/a".length - "/a".length)) =
        "/files" := by decide
    have taken : inner.read "GET" (belowRoot "/files" "/files/a") =
        .ok (.fully [("name", .str "a")]) := by
      rw [show belowRoot "/files" "/files/a" = "/a" by decide, Route.read, segment]
      rfl
    have served : serveFirst? "/files" [] request [inner] =
        some ⟨download.run [("name", .str "a")] request, ["download"]⟩ := by
      rw [serveFirst?, Route.serve?, taken]
      rfl
    rw [App.serve, serveFirst?, Route.serve?, belowRoot_empty, below]
    dsimp only
    rw [root, show Params.extend [] [] = [] from rfl, served]
    rfl
  · rw [App.matchRoute, List.findSomeM?_cons, Route.judged?]
    show List.findSomeM? _ _ = _
    rw [List.findSomeM?_cons, Route.judged?, Route.read, outer]
    rfl

end GuardedDispatch.Web
