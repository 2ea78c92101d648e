import GuardedDispatch.Proofs.Dispatch.Running
import GuardedDispatch.Proofs.Resolving
import Mathlib.Tactic.ByContra

/-! # When strategies abstain

A strategy that **abstains** returns without asking anybody and leaves the event exactly as it was
(`Strategy.Abstains`, `resolve_of_abstains`). Whoever does not abstain changes the event or fails,
so that abstaining is the same as leaving a scene alone (`Run.settle_strategy_eq_self_iff`).

Both kinds of strategy abstain from errors that are no authorization errors, and from events whose
response is not an HTTP response. They differ in the results that they take for an answer: for a
page it may be any response, for a redirection it has to be an HTTP response, so a redirection
answers an event that has a result of no particular kind (`redirects_over_response`). -/

namespace GuardedDispatch

namespace Strategy

/-- Whether a strategy takes a result for an **answer** that somebody else has given. -/
def heeds : Strategy → Value → Bool
  | redirect .., .http .. => true
  | redirect .., _ => false
  | unauthorized _, result => result.isResponse

/-- What makes a strategy **abstain** from an event. -/
inductive Abstains (strategy : Strategy) (event : Event) : Prop where
  /-- There is a result that it takes for an answer. -/
  | answered (heeded : strategy.heeds event.result = true)
  /-- There is a response, and it is not an HTTP response. -/
  | closed (responds : event.response.isNull = false) (other : event.httpResponse? = none)
  /-- The error is no authorization error. -/
  | foreign (other : event.isAuthorizationError = false)
  /-- It is a redirection, and no route was matched. -/
  | unrouted (redirects : strategy.kind = .redirect) (unmatched : event.routeMatch = none)

variable {strategy : Strategy} {event : Event} {route uri template : Value}

/-! ## Abstaining -/

/-- **There is something to show iff the error is an authorization error.** -/
theorem pageValues?_isSome (event : Event) :
    (pageValues? event).isSome = event.isAuthorizationError := by
  unfold pageValues? Event.isAuthorizationError
  dsimp only
  by_cases ofController : (event.error == .str GuardKind.controller.errorKind) = true
  · simp [ofController]
  by_cases ofRoute : (event.error == .str GuardKind.route.errorKind) = true
  · simp [ofController, ofRoute]
  -- what is left is an error of the application, or none that concerns a strategy
  simp only [ofController, ofRoute, Bool.or_self, Bool.false_eq_true, if_false]
  split
  · cases event.param "exception" with
    | error e => by_cases denies : e.kind = .unauthorized <;> simp [denies]
    | _ => rfl
  · rfl

/-- A response stays open unless it is one of another kind. -/
theorem openResponse?_eq_none_iff :
    openResponse? event = none ↔ event.response.isNull = false ∧ event.httpResponse? = none := by
  unfold openResponse?
  cases event.response.isNull <;> simp

/-- **Strategies that abstain leave the event alone**, and ask nobody. -/
theorem resolve_of_abstains (abstains : strategy.Abstains event) :
    strategy.resolve event = pure event := by
  cases strategy with
  | redirect route uri =>
    show resolveRedirect route uri event = pure event
    unfold resolveRedirect
    cases abstains with
    | answered heeded =>
      cases isResult : event.result with
      | http => rfl
      | _ => rw [isResult] at heeded; cases heeded
    | closed responds other =>
      rw [openResponse?_eq_none_iff.2 ⟨responds, other⟩]
      cases event.result <;> rfl
    | foreign other =>
      rw [other, Bool.not_false, Bool.or_true]
      split <;> rfl
    | unrouted _ unmatched =>
      rw [unmatched, Option.isNone_none, Bool.true_or]
      split <;> rfl
  | unauthorized template =>
    show pure (resolveUnauthorized template event) = pure event
    congr 1
    unfold resolveUnauthorized
    cases abstains with
    | answered heeded => exact if_pos heeded
    | closed responds other =>
      rw [openResponse?_eq_none_iff.2 ⟨responds, other⟩]
      exact ite_self _
    | foreign other =>
      rw [← pageValues?_isSome, Option.isSome_eq_false_iff, Option.isNone_iff_eq_none] at other
      rw [other]
      split
      · rfl
      · split <;> simp_all
    | unrouted redirects => cases redirects

/-! ## Acting -/

/-- What a strategy that acts has to work on. -/
theorem exists_of_not_abstains (acts : ¬ strategy.Abstains event) :
    strategy.heeds event.result = false ∧ (∃ response, openResponse? event = some response) ∧
      event.isAuthorizationError = true ∧
      (strategy.kind = .redirect → event.routeMatch.isNone = false) := by
  refine ⟨?_, ?_, ?_, fun redirects => ?_⟩
  · by_contra heeded
    exact acts (.answered (by simpa using heeded))
  · cases isOpen : openResponse? event with
    | some response => exact ⟨response, rfl⟩
    | none =>
      obtain ⟨responds, other⟩ := openResponse?_eq_none_iff.1 isOpen
      exact absurd (.closed responds other) acts
  · by_contra other
    exact acts (.foreign (by simpa using other))
  · cases matched : event.routeMatch with
    | none => exact absurd (.unrouted redirects matched) acts
    | some routeMatch => rfl

/-- A further location makes another response. -/
theorem toValue_addHeader_ne {response : HttpResponse}
    (isOpen : openResponse? event = some response) (url : Value) :
    HttpResponse.toValue { response.addHeader "Location" url with status := .int 302 } ≠
      event.response := by
  intro same
  unfold openResponse? Event.httpResponse? at isOpen
  rw [← same, HttpResponse.ofValue?_toValue] at isOpen
  change some { response.addHeader "Location" url with status := .int 302 } = some response
    at isOpen
  -- the response has the header lines that it had, and one more
  have lines := congrArg (fun response => lookupField "Location" response.headers)
    (Option.some.inj isOpen)
  change lookupField "Location" (response.addHeader "Location" url).headers =
    lookupField "Location" response.headers at lines
  rw [HttpResponse.addHeader, lookupField_putField_self] at lines
  cases found : lookupField "Location" response.headers with
  | none => rw [found] at lines; cases lines
  | some old =>
    rw [found, Option.getD_some, Option.some.injEq] at lines
    simpa using congrArg List.length lines

/-- **A redirection that acts** asks for its address, and adds that to the open response. -/
theorem exists_resolveRedirect_of_acts (acts : ¬ (redirect route uri).Abstains event) :
    ∃ response, openResponse? event = some response ∧
      resolveRedirect route uri event = do
        let url ← address route uri event
        return { event with response :=
          HttpResponse.toValue { response.addHeader "Location" url with status := .int 302 } } := by
  obtain ⟨unheeded, ⟨response, isOpen⟩, denies, matched⟩ := exists_of_not_abstains acts
  refine ⟨response, isOpen, ?_⟩
  unfold resolveRedirect
  rw [isOpen, matched rfl, denies]
  cases isResult : event.result with
  | http =>
    rw [isResult] at unheeded
    cases unheeded
  | _ => rfl

/-- **A page that is shown** comes behind the others, and the open response is forbidden. -/
theorem exists_resolveUnauthorized_of_acts (acts : ¬ (unauthorized template).Abstains event) :
    ∃ response values, openResponse? event = some response ∧ pageValues? event = some values ∧
      resolveUnauthorized template event =
        { event with
          pages := event.pages ++ [⟨template, values⟩]
          response := HttpResponse.toValue { response with status := .int 403 } } := by
  obtain ⟨unheeded, ⟨response, isOpen⟩, denies, -⟩ := exists_of_not_abstains acts
  have unheeded : event.result.isResponse = false := unheeded
  obtain ⟨values, shown⟩ : ∃ values, pageValues? event = some values :=
    Option.isSome_iff_exists.1 ((pageValues?_isSome event).trans denies)
  refine ⟨response, values, isOpen, shown, ?_⟩
  rw [resolveUnauthorized, unheeded, isOpen, shown]
  rfl

/-- **Strategies that act change the event**, unless they fail. -/
theorem ensures_ne_of_not_abstains (acts : ¬ strategy.Abstains event) :
    Ensures (strategy.resolve event) (· ≠ event) := by
  cases strategy with
  | redirect route uri =>
    obtain ⟨response, isOpen, resolves⟩ := exists_resolveRedirect_of_acts acts
    show Ensures (resolveRedirect route uri event) _
    rw [resolves]
    refine ensures_bind (ensures_true _) fun url _ => ensures_pure fun unchanged => ?_
    exact toValue_addHeader_ne isOpen url (congrArg Event.response unchanged)
  | unauthorized template =>
    obtain ⟨response, values, -, -, resolves⟩ := exists_resolveUnauthorized_of_acts acts
    refine ensures_pure fun unchanged => ?_
    -- there is one page more than before
    rw [resolves] at unchanged
    simpa using congrArg (fun after : Event => after.pages.length) unchanged

end Strategy

namespace Run

/-- **A strategy leaves the scene exactly as it was iff it abstains**: it returns, makes no call,
and neither the event nor anything else has changed. -/
theorem settle_strategy_eq_self_iff (ref : StrategyRef) (scene : Scene) :
    settle (strategy ref) scene = (.ok (), scene) ↔
      (scene.site.strategies.get ref).strategy.Abstains scene.event := by
  rw [settle_strategy rfl, settle_bind, settle_ask]
  constructor
  · intro unchanged
    by_contra acts
    have changes := Strategy.ensures_ne_of_not_abstains acts []
    rw [← Asking.outcome_eq_settle] at changes
    rcases asked : ((scene.site.strategies.get ref).strategy.resolve scene.event).outcome with
      ⟨_ | after, calls⟩
    · rw [asked] at unchanged
      cases unchanged
    · rw [asked] at unchanged
      exact changes after calls asked (congrArg (fun settled => settled.2.event) unchanged)
  · intro abstains
    rw [Strategy.resolve_of_abstains abstains]
    show (_, { scene.noting [] with event := scene.event }) = _
    rw [Scene.noting_nil]

/-- A redirection answers an event although its result is a response, since that is not an HTTP
response. -/
theorem redirects_over_response :
    let event : Event :=
      { routeMatch := some {}
        result := .response
        params := [("error", .str GuardKind.route.errorKind)] }
    let site : Site :=
      { strategies := ⟨1, fun _ => { strategy := .redirect (.str "login") (.str "/login") }⟩ }
    event.result.isResponse = true ∧
      ((strategy 0).on { site, event }).2.event.response =
        .http (.int 302) [(.str "Location", .list [.str "/login"])] .null := by
  refine ⟨rfl, ?_⟩
  rfl

end Run

end GuardedDispatch
