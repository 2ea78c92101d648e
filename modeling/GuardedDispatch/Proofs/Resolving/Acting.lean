import GuardedDispatch.Proofs.Resolving.Abstaining

/-! # What acting comes to

Two descriptions of an error say whose it is: the test that both kinds of strategy make
(`Event.isAuthorizationError`), and the values that a page is shown with (`Event.Shows`). There are
such values exactly for the errors that pass the test, so the kinds agree on them.

A strategy acts in one step (`Strategy.Concludes`). A page and its status are added together and
nothing else is changed, and a redirection that finds no address leaves nothing behind but the
question it asked. -/

namespace GuardedDispatch

/-- What an event **shows** on a page, for each kind of authorization error. -/
inductive Event.Shows (event : Event) : List (String × Value) → Prop where
  /-- A guard of controllers denied it. -/
  | controller (isError : event.error = .str "error-unauthorized-controller") :
    Shows event [("error", event.error), ("identity", event.param "identity"),
      ("controller", event.param "controller"), ("action", event.param "action")]
  /-- A guard of routes denied it. -/
  | route (isError : event.error = .str "error-unauthorized-route") :
    Shows event [("error", event.error), ("identity", event.param "identity"),
      ("route", event.param "route")]
  /-- The application raised an error of that kind. -/
  | exception {text : Word} (isError : event.error = .str "error-exception")
    (raised : event.param "exception" = .error ⟨.unauthorized, text⟩) :
    Shows event [("error", .str "error-unauthorized"), ("identity", event.param "identity"),
      ("reason", .ofWord text)]

/-- An event that **opens** a response to strategies: a new one if it has none, or the HTTP response
that it has. -/
inductive Event.Opens (event : Event) : HttpResponse → Prop where
  /-- There is no response. -/
  | made (absent : event.response = .null) : Opens event {}
  /-- There is an HTTP response. -/
  | continued {response : HttpResponse} (there : event.httpResponse? = some response) :
    Opens event response

/-- An event that **lacks an address** for a route, as its router fails or it has none. -/
inductive Event.Lacks (event : Event) (route : Value) : Failure → List Call → Prop where
  /-- There is no router, and the failure names the route. -/
  | router {text : String} (missing : event.router = none) (named : route.print = .ok text) :
    Lacks event route (.configuration (.noRouter text)) []
  /-- There is no router, and the route has no printed form. -/
  | name {failure : Failure} (missing : event.router = none)
    (fails : route.print = .error failure) : Lacks event route failure []
  /-- The router fails. -/
  | address {router : Router} {failure : Failure} {calls : List Call}
    (there : event.router = some router)
    (fails : (router.address route).outcome = (.error failure, calls)) :
    Lacks event route failure calls

namespace Strategy

variable {event : Event} {values : List (String × Value)} {response : HttpResponse}

/-- **The values on a page** are what the event shows. -/
theorem pageValues?_eq_some_iff : pageValues? event = some values ↔ event.Shows values := by
  unfold pageValues?
  dsimp only
  constructor
  · intro shown
    split at shown
    · next ofController =>
      cases shown
      exact .controller (Value.beq_str_iff.1 ofController)
    split at shown
    · next ofRoute =>
      cases shown
      exact .route (Value.beq_str_iff.1 ofRoute)
    split at shown
    · next ofException =>
      split at shown
      · next raised isRaised =>
        obtain ⟨kind, text⟩ := raised
        split at shown
        · next denies =>
          cases denies
          cases shown
          exact .exception (Value.beq_str_iff.1 ofException) isRaised
        · cases shown
      · cases shown
    · cases shown
  · rintro (isError | isError | ⟨isError, raised⟩)
    · exact if_pos (Value.beq_str_iff.2 isError)
    · have same : (event.error == .str GuardKind.route.errorKind) = true :=
        Value.beq_str_iff.2 isError
      rw [if_neg (by rw [isError]; decide), if_pos same]
      rfl
    · have same : (event.error == .str ErrorMark.exception.name) = true :=
        Value.beq_str_iff.2 isError
      rw [if_neg (by rw [isError]; decide), if_neg (by rw [isError]; decide), if_pos same, raised]
      rfl

/-- **There is something to show iff the error is an authorization error.** -/
theorem isAuthorizationError_iff :
    event.isAuthorizationError = true ↔ ∃ values, event.Shows values := by
  rw [← pageValues?_isSome, Option.isSome_iff_exists]
  exact exists_congr fun values => pageValues?_eq_some_iff

/-- **The open response** is one that the event opens. -/
theorem openResponse?_eq_some_iff : openResponse? event = some response ↔ event.Opens response := by
  unfold openResponse?
  cases absent : event.response.isNull with
  | true =>
    have absent := Value.isNull_iff.1 absent
    constructor
    · rintro ⟨⟩
      exact .made absent
    · rintro (_ | ⟨there⟩)
      · rfl
      · rw [Event.httpResponse?, absent] at there
        cases there
  | false =>
    constructor
    · exact .continued
    · rintro (absent' | ⟨there⟩)
      · rw [absent'] at absent
        cases absent
      · exact there

/-- **A redirection finds no address** if it has none of its own and the event lacks one. -/
theorem address_outcome_eq_error_iff {route uri : Value} {failure : Failure} {calls : List Call} :
    (address route uri event).outcome = (.error failure, calls) ↔
      uri = .null ∧ event.Lacks route failure calls := by
  constructor
  · intro fails
    unfold address at fails
    split at fails
    · cases fails
    · next absent =>
      have absent : uri = .null := Value.isNull_iff.1 (by simpa using absent)
      refine ⟨absent, ?_⟩
      split at fails
      · next missing =>
        -- the failure of a missing router names the route, so that it has to be printed first
        cases named : route.print with
        | ok text =>
          rw [named] at fails
          cases fails
          exact .router missing named
        | error failure =>
          rw [named] at fails
          cases fails
          exact .name missing named
      · next router there => exact .address there fails
  · rintro ⟨rfl, lacks⟩
    unfold address
    cases lacks with
    | router missing named =>
      rw [missing, named]
      rfl
    | name missing fails =>
      rw [missing, fails]
      rfl
    | address there fails =>
      rw [there]
      exact fails

/-- What a strategy **concludes** about a scene: how it ends, and the scene it leaves. -/
inductive Concludes (strategy : Strategy) (scene : Scene) : Except Failure Unit × Scene → Prop where
  /-- It abstains. -/
  | abstained (abstains : strategy.Abstains scene.event) : Concludes strategy scene (.ok (), scene)
  /-- It shows a page behind those that were there, and forbids. -/
  | shown {template : Value} {response : HttpResponse} {values : List (String × Value)}
    (isPage : strategy = .unauthorized template) (acts : ¬ strategy.Abstains scene.event)
    (opens : scene.event.Opens response) (shows : scene.event.Shows values) :
    Concludes strategy scene (.ok (),
      { scene with
        event :=
          { scene.event with
            pages := scene.event.pages ++ [⟨template, values⟩]
            response := HttpResponse.toValue { response with status := .int 403 } } })
  /-- It sends to an address. -/
  | sent {route uri url : Value} {response : HttpResponse} {calls : List Call}
    (redirects : strategy = .redirect route uri) (acts : ¬ strategy.Abstains scene.event)
    (opens : scene.event.Opens response)
    (finds : (address route uri scene.event).outcome = (.ok url, calls)) :
    Concludes strategy scene (.ok (),
      { scene.noting calls with
        event :=
          { scene.event with
            response := HttpResponse.toValue
              { response.addHeader "Location" url with status := .int 302 } } })
  /-- It has no address, and the event lacks one. -/
  | failed {route : Value} {failure : Failure} {calls : List Call}
    (redirects : strategy = .redirect route .null) (acts : ¬ strategy.Abstains scene.event)
    (lacks : scene.event.Lacks route failure calls) :
    Concludes strategy scene (.error failure, scene.noting calls)

/-- Where nothing else keeps strategies of either kind from acting, they **abstain from the errors
that are no authorization errors**, and from no others. -/
theorem abstains_iff_of_opens {strategy : Strategy} (unanswered : event.result.isResponse = false)
    (routed : event.routeMatch.isSome = true) (opens : event.Opens response) :
    strategy.Abstains event ↔ event.isAuthorizationError = false := by
  refine ⟨fun abstains => ?_, .foreign⟩
  cases abstains with
  | answered heeded =>
    cases strategy with
    | redirect route uri =>
      -- a redirection heeds HTTP responses, and these are responses
      cases isResult : event.result with
      | http =>
        rw [isResult] at unanswered
        cases unanswered
      | _ =>
        rw [isResult] at heeded
        cases heeded
    | unauthorized template => exact absurd heeded (by simp [heeds, unanswered])
  | closed responds other =>
    have isOpen := openResponse?_eq_some_iff.2 opens
    rw [openResponse?_eq_none_iff.2 ⟨responds, other⟩] at isOpen
    cases isOpen
  | foreign other => exact other
  | unrouted redirects unmatched =>
    rw [unmatched] at routed
    cases routed

end Strategy

namespace Run

/-- **Running a strategy** concludes. -/
theorem concludes_strategy (ref : StrategyRef) (scene : Scene) :
    (scene.site.strategies.get ref).strategy.Concludes scene (settle (strategy ref) scene) := by
  rw [settle_strategy rfl, settle_bind, settle_ask]
  generalize (scene.site.strategies.get ref).strategy = strategy
  by_cases abstains : strategy.Abstains scene.event
  · have left : settle (pure scene.event : Asking Event) [] = (.ok scene.event, []) := rfl
    rw [Strategy.resolve_of_abstains abstains, Asking.outcome_eq_settle, left]
    show strategy.Concludes scene (.ok (), { scene.noting [] with event := scene.event })
    rw [Scene.noting_nil]
    exact .abstained abstains
  cases strategy with
  | redirect route uri =>
    obtain ⟨response, isOpen, resolves⟩ := Strategy.exists_resolveRedirect_of_acts abstains
    have opens := Strategy.openResponse?_eq_some_iff.1 isOpen
    rw [Strategy.resolve, resolves, Asking.outcome_eq_settle]
    rcases finds : (Strategy.address route uri scene.event).outcome with ⟨failure | url, calls⟩
    · rw [settle_bind_of_error finds]
      obtain ⟨rfl, lacks⟩ := Strategy.address_outcome_eq_error_iff.1 finds
      exact .failed rfl abstains lacks
    · rw [settle_bind_of_ok finds]
      exact .sent rfl abstains opens finds
  | unauthorized template =>
    obtain ⟨response, values, isOpen, shown, resolves⟩ :=
      Strategy.exists_resolveUnauthorized_of_acts abstains
    rw [Strategy.resolve, resolves]
    show Strategy.Concludes _ scene (.ok (), { scene.noting [] with event := _ })
    rw [Scene.noting_nil]
    exact .shown rfl abstains (Strategy.openResponse?_eq_some_iff.1 isOpen)
      (Strategy.pageValues?_eq_some_iff.1 shown)

/-- A redirection that acts and finds an address **sends** there. -/
theorem settle_strategy_of_redirect {ref : StrategyRef} {scene : Scene} {route uri url : Value}
    {response : HttpResponse} {calls : List Call}
    (redirects : (scene.site.strategies.get ref).strategy = .redirect route uri)
    (acts : ¬ (Strategy.redirect route uri).Abstains scene.event)
    (opens : scene.event.Opens response)
    (finds : (Strategy.address route uri scene.event).outcome = (.ok url, calls)) :
    settle (strategy ref) scene = (.ok (),
      { scene.noting calls with
        event :=
          { scene.event with
            response := HttpResponse.toValue
              { response.addHeader "Location" url with status := .int 302 } } }) := by
  have concludes := concludes_strategy ref scene
  rw [redirects] at concludes
  generalize settle (strategy ref) scene = ended at concludes ⊢
  cases concludes with
  | abstained abstains => exact absurd abstains acts
  | shown isPage => cases isPage
  | sent redirects' _ opens' finds' =>
    cases redirects'
    cases finds.symm.trans finds'
    have same := (Strategy.openResponse?_eq_some_iff.2 opens).symm.trans
      (Strategy.openResponse?_eq_some_iff.2 opens')
    cases same
    rfl
  | failed redirects' _ lacks =>
    cases redirects'
    cases finds.symm.trans (Strategy.address_outcome_eq_error_iff.2 ⟨rfl, lacks⟩)

/-- **What strategies conclude**, whatever an event is. There are values to show exactly for the
errors that are authorization errors, and where nothing else keeps it from acting, a strategy of
either kind acts on exactly these. It acts in full, or it leaves the event as it was. -/
theorem settle_strategy_concludes (ref : StrategyRef) (scene : Scene) :
    let strategy := (scene.site.strategies.get ref).strategy
    let event := scene.event
    (∀ values, Strategy.pageValues? event = some values ↔ event.Shows values) ∧
    (event.isAuthorizationError = true ↔ ∃ values, event.Shows values) ∧
    (∀ (either : Strategy) response, event.result.isResponse = false →
      event.routeMatch.isSome = true → event.Opens response →
      (either.Abstains event ↔ event.isAuthorizationError = false)) ∧
    strategy.Concludes scene (settle (Run.strategy ref) scene) := by
  intro strategy event
  exact ⟨fun values => Strategy.pageValues?_eq_some_iff, Strategy.isAuthorizationError_iff,
    fun either response => Strategy.abstains_iff_of_opens,
    concludes_strategy ref scene⟩

end Run

end GuardedDispatch
