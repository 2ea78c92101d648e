import GuardedDispatch.Proofs.Dispatch.Stages
import GuardedDispatch.Proofs.Resolving.Abstaining
import Mathlib.Data.List.Forall2

/-! # Strategies in succession

Several strategies may listen on the error stage of one bus. They all have one priority, so they run
in the order in which they were attached (`Site.lists_attachStrategies`), and they share the
response and the pages of the event.

* **`Event.Waits`**: an event on which every strategy acts. Whatever one of them leaves behind still
  waits (`Strategy.exists_resolve`).
* **`HttpResponse.Extends`**: a response to which nothing but locations was added. The status is
  no part of that, since every strategy sets it anew.
* **`Strategy.Answer`**: what strategies make of a response, one after the other. The last one
  settles the status. -/

namespace GuardedDispatch

/-! ## Responses -/

namespace HttpResponse

/-- The **lines** of a header, in the order in which they were added. -/
def lines (response : HttpResponse) (name : String) : List Value :=
  (lookupField name response.headers).getD []

/-- A response that **extends** another by locations: their lines come behind those that were there
before, and the content and all other headers are kept. The status does not count. -/
structure Extends (before after : HttpResponse) (urls : List Value) : Prop where
  locations : after.lines "Location" = before.lines "Location" ++ urls
  others : dropField "Location" after.headers = dropField "Location" before.headers
  content : after.content = before.content

/-- Another status extends a response by nothing. -/
theorem extends_status (response : HttpResponse) (status : Value) :
    response.Extends { response with status } [] where
  locations := (List.append_nil _).symm
  others := rfl
  content := rfl

/-- A location extends a response by itself. -/
theorem extends_addHeader (response : HttpResponse) (url status : Value) :
    response.Extends { response.addHeader "Location" url with status } [url] where
  locations := by simp [lines, addHeader]
  others := by simp [addHeader]
  content := rfl

theorem Extends.trans {first second third : HttpResponse} {urls further : List Value}
    (before : first.Extends second urls) (after : second.Extends third further) :
    first.Extends third (urls ++ further) where
  locations := by rw [after.locations, before.locations, List.append_assoc]
  others := after.others.trans before.others
  content := after.content.trans before.content

end HttpResponse

/-! ## One strategy -/

/-- The **status** that a kind of strategy answers with. -/
def StrategyKind.status : StrategyKind → Int
  | redirect => 302
  | unauthorized => 403

/-- An event that **waits** for strategies: it has an authorization error, a matched route and no
result, and a response may still be made or completed. -/
structure Event.Waits (event : Event) (response : HttpResponse) : Prop where
  denies : event.isAuthorizationError = true
  routed : event.routeMatch.isSome = true
  result : event.result = .null
  isOpen : Strategy.openResponse? event = some response

/-- Whoever completes the response of an event, and adds pages, leaves it waiting. -/
theorem Event.Waits.answered {event : Event} {response : HttpResponse}
    (waits : event.Waits response) (answer : HttpResponse) (pages : List Page) :
    ({ event with response := answer.toValue, pages } : Event).Waits answer where
  denies := waits.denies
  routed := waits.routed
  result := waits.result
  isOpen := HttpResponse.ofValue?_toValue answer

namespace Strategy

/-- What a redirection sends to: a route, and an address that goes before it. -/
def target? : Strategy → Option (Value × Value)
  | redirect route uri => some (route, uri)
  | unauthorized _ => none

/-- What a page is shown with. -/
def template? : Strategy → Option Value
  | redirect .. => none
  | unauthorized template => some template

/-- The **pages** that strategies show with some values, in order. -/
def pages (values : List (String × Value)) (strategies : List Strategy) : List Page :=
  (strategies.filterMap template?).map fun template => ⟨template, values⟩

theorem pages_cons (values : List (String × Value)) (strategy : Strategy)
    (rest : List Strategy) :
    pages values (strategy :: rest) = pages values [strategy] ++ pages values rest := by
  cases strategy <;> rfl

/-- What strategies **answer** an event whose response was open: the response is extended by the
address of every redirection, and has the status of the last strategy. -/
structure Answer (event : Event) (response : HttpResponse) (strategies : List Strategy)
    (answer : HttpResponse) (urls : List Value) : Prop where
  extended : response.Extends answer urls
  status : ∀ last, strategies.getLast? = some last → answer.status = .int last.kind.status
  sends : List.Forall₂ (fun target url => (address target.1 target.2 event).outcome.1 = .ok url)
    (strategies.filterMap target?) urls

/-- A strategy **finds its address** if it sends to none, or to one that is its own or that the
event's router assembles. -/
def FindsAddress (strategy : Strategy) (event : Event) : Prop :=
  ∀ target, strategy.target? = some target →
    ∃ url, (address target.1 target.2 event).outcome.1 = .ok url

/-- What is answered depends on the router of the event only. -/
theorem Answer.of_router {event other : Event} {response answer : HttpResponse}
    {strategies : List Strategy} {urls : List Value}
    (answers : Answer event response strategies answer urls)
    (same : other.router = event.router) : Answer other response strategies answer urls where
  extended := answers.extended
  status := answers.status
  sends := by
    refine answers.sends.imp fun target url found => ?_
    rw [address, same]
    exact found

/-- Where no strategy is, nothing is answered. -/
theorem answer_nil (event : Event) (response : HttpResponse) :
    Answer event response [] response [] where
  extended := response.extends_status response.status
  status _ isLast := by cases isLast
  sends := .nil

/-- Strategies behind another one go on with its answer. -/
theorem Answer.cons {event : Event} {response middle answer : HttpResponse} {strategy : Strategy}
    {rest : List Strategy} {urls further : List Value}
    (first : Answer event response [strategy] middle urls)
    (others : Answer event middle rest answer further)
    (same : rest = [] → answer = middle) :
    Answer event response (strategy :: rest) answer (urls ++ further) where
  extended := first.extended.trans others.extended
  status last isLast := by
    cases rest with
    | nil =>
      rw [same rfl]
      exact first.status last isLast
    | cons next rest => exact others.status last (by rwa [List.getLast?_cons_cons] at isLast)
  sends := by
    have sends := first.sends
    cases strategy with
    | redirect route uri => exact List.rel_append sends others.sends
    | unauthorized template =>
      cases sends
      exact others.sends

/-- **A strategy acts** on an event that waits: it answers, and puts its page behind the others. -/
theorem exists_resolve (strategy : Strategy) {event : Event} {response : HttpResponse}
    {values : List (String × Value)} (waits : event.Waits response)
    (shown : pageValues? event = some values) (finds : strategy.FindsAddress event) :
    ∃ answer urls, Answer event response [strategy] answer urls ∧
      (strategy.resolve event).outcome.1 = .ok
        { event with
          response := answer.toValue
          pages := event.pages ++ pages values [strategy] } := by
  obtain ⟨denies, routed, result, isOpen⟩ := waits
  cases strategy with
  | redirect route uri =>
    obtain ⟨url, found⟩ := finds (route, uri) rfl
    refine ⟨{ response.addHeader "Location" url with status := .int 302 }, [url],
      ⟨response.extends_addHeader url _, ?_, .cons found .nil⟩, ?_⟩
    · rintro last ⟨⟩
      rfl
    · show (resolveRedirect route uri event).outcome.1 = _
      unfold resolveRedirect
      rw [result, isOpen, denies, Option.isNone_eq_false_iff.2 routed]
      have noPage : event.pages ++ pages values [.redirect route uri] = event.pages :=
        List.append_nil _
      rw [noPage]
      rw [Asking.outcome_eq_settle] at found
      exact congrArg Prod.fst (settle_bind_of_ok (Prod.ext found rfl) _)
  | unauthorized template =>
    refine ⟨{ response with status := .int 403 }, [],
      ⟨response.extends_status _, ?_, .nil⟩, ?_⟩
    · rintro last ⟨⟩
      rfl
    · show Except.ok (resolveUnauthorized template event) = _
      unfold resolveUnauthorized
      rw [result, isOpen, shown]
      rfl

end Strategy

/-! ## Strategies one after the other -/

namespace Run

variable {response : HttpResponse} {values : List (String × Value)}

/-- What a scene has become once strategies have answered its event. -/
def answered (scene : Scene) (values : List (String × Value)) (strategies : List Strategy)
    (answer : HttpResponse) (calls : List Call) : Scene :=
  { scene.noting calls with
    event :=
      { scene.event with
        response := answer.toValue
        pages := scene.event.pages ++ Strategy.pages values strategies } }

theorem answered_answered (scene : Scene) (strategy : Strategy) (rest : List Strategy)
    (middle answer : HttpResponse) (calls further : List Call) :
    answered (answered scene values [strategy] middle calls) values rest answer further =
      answered scene values (strategy :: rest) answer (calls ++ further) := by
  rw [answered, answered, answered, Strategy.pages_cons values strategy rest, Scene.noting,
    Scene.noting, Scene.noting, ← List.append_assoc, ← List.append_assoc]

/-- **The first strategy** answers the event, and the others go on from there. -/
theorem exists_settle_strategy (again : Trigger) {scene : Scene} {ref : StrategyRef}
    (waits : scene.event.Waits response)
    (shown : Strategy.pageValues? scene.event = some values)
    (running : scene.event.stopped = false)
    (finds : (scene.site.strategies.get ref).strategy.FindsAddress scene.event) :
    let strategy := (scene.site.strategies.get ref).strategy
    ∃ answer urls calls, Strategy.Answer scene.event response [strategy] answer urls ∧
      ∀ rest, settle (discard (runListeners (handler again) isStopped (.strategy ref :: rest)))
          scene =
        settle (discard (runListeners (handler again) isStopped rest))
          (answered scene values [strategy] answer calls) := by
  intro strategy
  obtain ⟨answer, urls, answers, resolved⟩ := strategy.exists_resolve waits shown finds
  have ran : settle (discard (handler again (.strategy ref))) scene =
      (.ok (), answered scene values [strategy] answer
        (strategy.resolve scene.event).outcome.2) := by
    rw [settle_handler_strategy, settle_strategy rfl, settle_bind, settle_ask, resolved]
    rfl
  exact ⟨answer, urls, _, answers, fun rest =>
    settle_runListeners_of_running ran running rest⟩

/-- **Strategies act one after the other** on an event that waits for them, if there are any; if
there are none, the response is one that was begun. -/
theorem exists_settle_strategies (again : Trigger) : ∀ (refs : List StrategyRef) (scene : Scene)
    (response : HttpResponse), scene.event.Waits response →
    (refs = [] → scene.event.response = response.toValue) →
    Strategy.pageValues? scene.event = some values → scene.event.stopped = false →
    (∀ ref ∈ refs, (scene.site.strategies.get ref).strategy.FindsAddress scene.event) →
    let strategies := refs.map fun ref => (scene.site.strategies.get ref).strategy
    ∃ answer urls calls, Strategy.Answer scene.event response strategies answer urls ∧
      (refs = [] → answer = response) ∧
      settle (discard (runListeners (handler again) isStopped (refs.map Handler.strategy))) scene =
        (.ok (), answered scene values strategies answer calls)
  | [], scene, response, waits, begun, shown, running, finds => by
    refine ⟨response, [], [], Strategy.answer_nil _ _, fun _ => rfl, ?_⟩
    have same : answered scene values [] response [] = scene := by
      rw [answered, Scene.noting_nil, ← begun rfl, Strategy.pages, List.filterMap_nil, List.map_nil,
        List.append_nil]
    exact congrArg (Prod.mk _) same.symm
  | ref :: rest, scene, response, waits, _, shown, running, finds => by
    obtain ⟨middle, urls, calls, first, onwards⟩ := exists_settle_strategy again
      waits shown running (finds ref List.mem_cons_self)
    -- the response was begun, the event still waits, and the others find their addresses as before
    obtain ⟨answer, further, calls', others, same, settled⟩ :=
      exists_settle_strategies again rest (answered scene values [_] middle calls) middle
        (waits.answered middle _) (fun _ => rfl) shown running
        fun other mem => finds other (List.mem_cons_of_mem ref mem)
    refine ⟨answer, urls ++ further, calls ++ calls', first.cons (others.of_router rfl) ?_, by simp,
      ?_⟩
    · exact fun none => same (List.map_eq_nil_iff.1 none)
    · rw [List.map_cons, onwards, settled, answered_answered]
      rfl

end Run

/-! ## Strategies on one bus -/

/-- Attach strategies to one bus, in order. -/
def Site.attachStrategies (site : Site) (bus : BusRef) (refs : List StrategyRef) : Site :=
  refs.foldl (fun site ref => site.attachStrategy ref bus) site

/-- **Attaching strategies** of one priority lists them on the error stage behind what was listed
there. -/
theorem Site.lists_attachStrategies (bus : BusRef) {extent : Decimal.Extent} :
    ∀ (refs : List StrategyRef) (site : Site) (listeners : List Handler),
    (site.buses.get bus).Lists Stage.dispatchError.name extent listeners →
    (∀ ref ∈ refs, (priorityOf (site.strategies.get ref)).extent? = some extent) →
    SameParts site (site.attachStrategies bus refs) ∧
      ((site.attachStrategies bus refs).buses.get bus).Lists Stage.dispatchError.name extent
        (listeners ++ refs.map Handler.strategy)
  | [], site, listeners, lists, _ => ⟨.refl site, by rwa [List.map_nil, List.append_nil]⟩
  | ref :: rest, site, listeners, lists, level => by
    have first := sameParts_attachStrategy site ref bus
    have further : ((site.attachStrategy ref bus).buses.get bus).Lists Stage.dispatchError.name
        extent (listeners ++ [Handler.strategy ref]) := by
      rw [bus_attachStrategy]
      exact lists.attach (.strategy ref) (level ref List.mem_cons_self)
    have level' : ∀ other ∈ rest, (priorityOf
        ((site.attachStrategy ref bus).strategies.get other)).extent? = some extent := by
      intro other mem
      rw [priorityOf, first.extras other]
      exact level other (List.mem_cons_of_mem ref mem)
    obtain ⟨same, all⟩ := lists_attachStrategies bus rest _ _ further level'
    refine ⟨first.trans same, ?_⟩
    rw [List.append_assoc] at all
    exact all

namespace Run

/-- **Strategies share an event.** Whichever strategies are attached to a bus, one after the other
and alone on its error stage: triggered on an event that waits for them, the stage succeeds. The
event then has its response, or a new one, as the strategies answer it; every unauthorized page
stands behind the pages that were there, in the order of attaching; and nothing else has changed. -/
theorem exists_settle_trigger_attachStrategies {site : Site} {bus : BusRef}
    {extent : Decimal.Extent} {refs : List StrategyRef} {event : Event}
    (alone : (site.buses.get bus).Lists Stage.dispatchError.name extent [])
    (level : ∀ ref ∈ refs, (Site.priorityOf (site.strategies.get ref)).extent? = some extent)
    (attached : refs ≠ []) (waits : event.Waits response)
    (finds : ∀ ref ∈ refs, (site.strategies.get ref).strategy.FindsAddress event)
    (trace : List Call) (depth : Nat) :
    let strategies := refs.map fun ref => (site.strategies.get ref).strategy
    let after := site.attachStrategies bus refs
    ∃ answer urls values calls, Strategy.Answer event response strategies answer urls ∧
      Strategy.pageValues? event = some values ∧
      settle (discard (trigger (depth + 1) bus (some Stage.dispatchError.name)))
          { site := after, event, trace } =
        (.ok (),
          { site := after
            event :=
              { startStage (some Stage.dispatchError.name) event with
                response := answer.toValue
                pages := event.pages ++ Strategy.pages values strategies }
            trace := trace ++ calls }) := by
  intro strategies after
  obtain ⟨values, shown⟩ : ∃ values, Strategy.pageValues? event = some values :=
    Option.isSome_iff_exists.1 ((Strategy.pageValues?_isSome event).trans waits.denies)
  obtain ⟨same, lists⟩ := Site.lists_attachStrategies bus refs site [] alone level
  -- attached, they are the strategies that they were
  have kept : (refs.map fun ref => (after.strategies.get ref).strategy) = strategies :=
    List.map_congr_left fun ref _ => same.strategy ref
  let started : Event := startStage (some Stage.dispatchError.name) event
  have waits' : started.Waits response :=
    ⟨waits.denies, waits.routed, waits.result, waits.isOpen⟩
  have finds' : ∀ ref ∈ refs, (after.strategies.get ref).strategy.FindsAddress started := by
    intro ref mem
    rw [same.strategy ref]
    exact finds ref mem
  obtain ⟨answer, urls, calls, answers, -, settled⟩ :=
    exists_settle_strategies (trigger depth) refs { site := after, event := started, trace }
      response waits' (fun none => absurd none attached) shown rfl finds'
  dsimp only at answers settled
  rw [kept] at answers settled
  refine ⟨answer, urls, values, calls, answers.of_router rfl, shown, ?_⟩
  rw [settle_trigger lists depth]
  exact settled

/-- Two redirections around an unauthorized page add to a response that was there already, and the
second one settles the status. -/
theorem settle_trigger_page_between_redirections :
    let site : Site :=
      { strategies := ⟨3, fun
        | 0 => { strategy := .redirect (.str "login") .null }
        | 1 => { strategy := .unauthorized (.str "denied") }
        | _ => { strategy := .redirect (.str "login") (.str "/away") }⟩ }
    let response : HttpResponse :=
      { headers := [("Location", [.str "/old"]), ("X-Trace", [.int 7])], content := .str "kept" }
    let event : Event :=
      { routeMatch := some {}
        params := [("error", .str GuardKind.route.errorKind)]
        response := response.toValue
        router := some (Router.ofTable [("login", .str "/login")]) }
    ∃ (answer : HttpResponse) (values : List (String × Value)) (after : Scene),
      settle (discard (trigger 1 0 (some Stage.dispatchError.name)))
        { site := site.attachStrategies 0 [0, 1, 2], event } = (.ok (), after) ∧
      after.event.response = answer.toValue ∧ answer.status = .int 302 ∧
      answer.lines "Location" = [.str "/old", .str "/login", .str "/away"] ∧
      dropField "Location" answer.headers = [("X-Trace", [.int 7])] ∧
      answer.content = .str "kept" ∧ after.event.pages = [⟨.str "denied", values⟩] := by
  intro site response event
  have finds : ∀ ref ∈ [0, 1, 2], (site.strategies.get ref).strategy.FindsAddress event := by
    simp only [List.forall_mem_cons]
    refine ⟨?_, ?_, ?_, by simp⟩
    · rintro _ ⟨⟩
      exact ⟨.str "/login", rfl⟩
    · rintro _ ⟨⟩
    · rintro _ ⟨⟩
      exact ⟨.str "/away", rfl⟩
  have waits : event.Waits response := ⟨rfl, rfl, rfl, rfl⟩
  have level : ∀ ref ∈ [0, 1, 2], (Site.priorityOf (site.strategies.get ref)).extent? =
      some (.ofInt Site.strategyPriority) := by decide
  obtain ⟨answer, urls, values, calls, ⟨⟨locations, others, content⟩, status, sends⟩, -, settled⟩ :=
    exists_settle_trigger_attachStrategies (Bus.lists_of_empty rfl) level (by decide) waits finds
      [] 0
  -- both redirections have sent to their addresses
  change List.Forall₂ _ [(Value.str "login", Value.null), (Value.str "login", Value.str "/away")]
    urls at sends
  obtain _ | ⟨first, _ | ⟨second, _ | _⟩⟩ := sends
  cases first
  cases second
  exact ⟨answer, values, _, settled, rfl, status _ rfl, locations, others, content, rfl⟩

end Run

end GuardedDispatch
