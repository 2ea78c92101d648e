import GuardedDispatch.Proofs.Dispatch.Stages

/-! # What a denial reports

A guard that denies an event writes down why before it triggers the error stage: the parameters of
the event become a report to those who listen there. Parameters have an order. What was there before
keeps its place, whether it is overwritten or not, and what is new comes behind it in the order of
the report (`Written`).

* **`Event.Reports`**: the entries of the report, for each kind of guard.
* **`Event.Announces`**: the event as the error stage opens on it. Apart from the report, the stage
  and the outcome of the guard, it is the event that was denied.
* **`Run.settle_guardBy_of_denied`**: the first listener of the error stage runs on that event. -/

namespace GuardedDispatch

/-! ## Writing entries -/

section

variable {α κ : Type} [BEq κ] [LawfulBEq κ]

/-- Fields after **writing entries** one after the other: an entry is what is found under its key,
everything else is found as before, and the keys that are new come last, in the order of writing. -/
structure Written (entries before after : List (κ × α)) : Prop where
  found : ∀ key, lookupField key after = (lookupField key entries).or (lookupField key before)
  keys : after.map (·.1) = before.map (·.1) ++
    (entries.map (·.1)).filter fun key => (lookupField key before).isNone

/-- **Writing entries** of different keys one after the other. -/
theorem written_foldl : ∀ (entries before : List (κ × α)), (entries.map (·.1)).Nodup →
    Written entries before
      (entries.foldl (fun fields entry => putField entry.1 entry.2 fields) before)
  | [], before, _ => ⟨fun key => rfl, (List.append_nil _).symm⟩
  | (k, v) :: rest, before, distinct => by
    obtain ⟨isNew, distinct⟩ := List.nodup_cons.1 distinct
    obtain ⟨found, keys⟩ := written_foldl rest (putField k v before) distinct
    refine ⟨fun key => ?_, ?_⟩
    · rw [List.foldl_cons, found, lookupField_cons]
      by_cases same : k = key
      · -- no later entry overwrites this one
        subst same
        simp [lookupField_of_notMem isNew]
      · rw [lookupField_putField_of_ne (Ne.symm same), if_neg (by simpa using same)]
    · -- for the keys of the later entries it makes no difference that this one was written
      have later : ((rest.map (·.1)).filter fun key =>
          (lookupField key (putField k v before)).isNone) =
            (rest.map (·.1)).filter fun key => (lookupField key before).isNone := by
        refine List.filter_congr fun key mem => ?_
        have ne : key ≠ k := fun same => isNew (same ▸ mem)
        rw [lookupField_putField_of_ne ne]
      rw [List.foldl_cons, keys, later, keys_putField, List.append_assoc, ← List.filter_append]
      rfl

end

/-! ## Reports -/

/-- The text of a denial that names its subject. -/
def denialText (subject : Word) : Word := "You are not authorized to access " ++ subject

namespace GuardKind

/-- The **report** of a denial, in the order of writing: the error, the details, the exception. -/
def report (kind : GuardKind) (details : List (String × Value)) (subject : Word) :
    List (String × Value) :=
  ("error", .str kind.errorKind) :: details ++
    [("exception", .error ⟨.unauthorized, denialText subject⟩)]

/-- Writing parameters one after the other leaves all else of an event alone. -/
theorem foldl_setParam : ∀ (entries : List (String × Value)) (event : Event),
    entries.foldl (fun event entry => event.setParam entry.1 entry.2) event =
      { event with
        params := entries.foldl (fun params entry => putField entry.1 entry.2 params) event.params }
  | [], _ => rfl
  | entry :: rest, event => by
    rw [List.foldl_cons, foldl_setParam rest, List.foldl_cons]
    rfl

/-- **Describing a denial** is writing its report. -/
theorem describeDenial_eq (kind : GuardKind) (details : List (String × Value)) (subject : Word)
    (event : Event) :
    kind.describeDenial details subject event =
      { event with
        params := (kind.report details subject).foldl
          (fun params entry => putField entry.1 entry.2 params) event.params } := by
  rw [← foldl_setParam, report, List.cons_append, List.foldl_cons, List.foldl_append]
  rfl

end GuardKind

/-- What an event **reports** once a guard has denied it to an identity. A controller is named with
its action, or with the method where the action is empty, in lower case; a route is named as it
is. -/
inductive Event.Reports (event : Event) (identity : Value) :
    GuardKind → List (String × Value) → Prop where
  /-- The report of a guard of controllers. -/
  | controller {routeMatch : RouteMatch} {controller action spoken : Value}
    {segment : Option Word} (routed : event.routeMatch = some routeMatch)
    (isController : (lookupField "controller" routeMatch.params).getD .null = controller)
    (isAction : (lookupField "action" routeMatch.params).getD .null = action)
    (isSpoken : spoken = if action.truthy then action else GuardKind.methodOf event)
    (named : GuardKind.segment? spoken = .ok segment) :
    Reports event identity .controller
      [("error", .str "error-unauthorized-controller"), ("identity", identity),
        ("controller", controller), ("action", action),
        ("exception", .error ⟨.unauthorized,
          denialText (controllerResource controller.word segment)⟩)]
  /-- The report of a guard of routes. -/
  | route {routeMatch : RouteMatch} (routed : event.routeMatch = some routeMatch) :
    Reports event identity .route
      [("error", .str "error-unauthorized-route"), ("route", routeMatch.name),
        ("identity", identity),
        ("exception", .error ⟨.unauthorized, denialText routeMatch.name.word⟩)]

/-- An event whose denial by a guard is **announced** with a report: the error stage has opened on
it, the guard has triggered that, and the report was written. All else is as it was before. -/
structure Event.Announces (kind : GuardKind) (report : List (String × Value))
    (before after : Event) : Prop where
  name : after.name = Stage.dispatchError.name
  running : after.stopped = false
  outcome : after.outcome kind.id = .errorTriggered
  others : ∀ guard, guard ≠ kind.id → after.outcome guard = before.outcome guard
  written : Written report before.params after.params
  rest : ∃ name stopped params outcomes,
    after = { before with name, stopped, params, outcomes }

namespace GuardKind

variable {kind : GuardKind} {event : Event} {identity : Value}

/-- The report on a target is that on the event, and its keys are different. -/
theorem reports_of_target {target : Target} {subject : Word}
    (found : kind.target? event = some target) (named : target.subject = .ok subject) :
    event.Reports identity kind (kind.report (target.details identity) subject) ∧
      ((kind.report (target.details identity) subject).map (·.1)).Nodup := by
  obtain ⟨routeMatch, routed, found⟩ := Option.bind_eq_some_iff.1 found
  cases kind with
  | controller =>
    dsimp only [controllerTarget] at found
    split at found
    · cases found
    · cases found
      obtain ⟨controller, printed, named⟩ := exists_ok_of_bind named
      obtain ⟨segment, isSegment, isSubject⟩ := exists_ok_of_bind named
      cases isSubject
      obtain ⟨-, rfl⟩ := Value.unlessLong_eq_ok_iff.1 printed
      exact ⟨.controller routed rfl rfl rfl isSegment, by simp [report]⟩
  | route =>
    dsimp only [routeTarget] at found
    split at found
    · cases found
    · cases found
      obtain ⟨-, rfl⟩ := Value.unlessLong_eq_ok_iff.1 named
      exact ⟨.route routed, by simp [report]⟩

/-- Turning down an event writes the report, and moves the outcome of the guard to its end. -/
theorem announces_of_deny {details : List (String × Value)} {subject : Word} {after : Event}
    {bus : BusRef} (denied : kind.deny event details subject = .ok (.denied after bus))
    (distinct : ((kind.report details subject).map (·.1)).Nodup) :
    event.bus = some bus ∧
      Event.Announces kind (kind.report details subject) event
        (Run.startStage (some Stage.dispatchError.name) after) := by
  obtain ⟨_, bound, denies⟩ := deny_eq_ok_iff.1 denied
  obtain @⟨_, first, _, -, moved, moved'⟩ := denies
  have announced : after.outcome kind.id = .errorTriggered := Event.outcome_of_transition moved'
  refine ⟨bound, rfl, rfl, announced, fun guard ne => ?_, ?_, ?_⟩
  · -- the description stands between the two moves, and leaves the outcomes alone
    have between : (kind.describeDenial details subject first).outcome guard =
        first.outcome guard := by
      rw [describeDenial_eq]
      rfl
    have isLast := Event.outcome_of_transition_of_ne moved' ne
    exact isLast.trans (between.trans (Event.outcome_of_transition_of_ne moved ne))
  · obtain ⟨outcomes, rfl⟩ := Event.exists_outcomes_of_transition moved
    obtain ⟨outcomes', rfl⟩ := Event.exists_outcomes_of_transition moved'
    rw [describeDenial_eq]
    exact written_foldl _ event.params distinct
  · obtain ⟨outcomes, rfl⟩ := Event.exists_outcomes_of_transition moved
    obtain ⟨outcomes', rfl⟩ := Event.exists_outcomes_of_transition moved'
    rw [describeDenial_eq]
    exact ⟨_, _, _, _, rfl⟩

/-- **A check that denies** an event has learned from the oracle who is asking, and leaves an event
that is announced with the report on it. -/
theorem exists_announces_of_check {oracle : Oracle} {after : Event} {bus : BusRef}
    {calls : List Call}
    (denies : (kind.check (some oracle) event).outcome = (.ok (.denied after bus), calls)) :
    ∃ identity questions report, settle oracle.identity questions = (.ok identity, calls) ∧
      event.Reports identity kind report ∧ event.bus = some bus ∧
      Event.Announces kind report event (Run.startStage (some Stage.dispatchError.name) after) := by
  rw [Asking.outcome_eq_settle] at denies
  by_cases applies : kind.applies event = true
  · cases found : kind.target? event with
    | none =>
      rw [check, if_pos applies, found] at denies
      cases denies
    | some target =>
      rw [check_of_target applies found] at denies
      obtain ⟨names, _, -, denies⟩ := exists_of_settle_bind denies
      obtain ⟨allowed, questions, -, denies⟩ := exists_of_settle_bind denies
      cases allowed with
      | true =>
        obtain ⟨passed, _, -, denies⟩ := exists_of_settle_bind denies
        cases denies
      | false =>
        -- all candidates were refused, and the identity is asked for behind these questions
        obtain ⟨identity, known, identifies, denies⟩ := exists_of_settle_bind denies
        obtain ⟨subject, same, named, denies⟩ := exists_of_settle_bind denies
        rw [settle_liftM, Prod.mk.injEq] at named denies
        obtain ⟨named, rfl⟩ := named
        obtain ⟨denied, rfl⟩ := denies
        obtain ⟨reports, distinct⟩ := reports_of_target found named
        obtain ⟨bound, announces⟩ := announces_of_deny denied distinct
        exact ⟨identity, questions, _, identifies, reports, bound, announces⟩
  · rw [check_of_not_applies (by simpa using applies)] at denies
    cases denies

end GuardKind

/-! ## The first listener -/

namespace Run

/-- **What error listeners see of a denial.** Whatever the oracle of a guard is, and whatever
parameters an event has: if the guard denies the event, the first listener of the error stage runs
on the event that is announced with the report on it, for the identity that the oracle gave; and
unless that listener fails or stops the stage, the others follow. This is what comes of the guards
of a site, with the oracle that their authority is. -/
theorem settle_guardBy_of_denied {kind : GuardKind} {oracle : Oracle} {scene : Scene}
    {denied : Event} {bus : BusRef} {calls : List Call}
    (denies : (kind.check (some oracle) scene.event).outcome = (.ok (.denied denied bus), calls))
    (depth : Nat) :
    let ended := settle (guardBy (trigger (depth + 1)) kind (some oracle)) scene
    (∀ ref, (scene.site.guards.get ref).guard.kind = kind →
      (scene.site.guards.get ref).authority.map scene.site.oracle = some oracle →
      settle (guard (trigger (depth + 1)) ref) scene = ended) ∧
    ∃ identity questions report seen,
      settle oracle.identity questions = (.ok identity, calls) ∧
      scene.event.Reports identity kind report ∧
      Event.Announces kind report scene.event seen ∧ scene.event.bus = some bus ∧
      ∀ first rest,
        (scene.site.buses.get bus).listeners Stage.dispatchError.name = .ok (first :: rest) →
        ended = match settle (handler (trigger depth) first.listener)
            { scene.noting calls with event := seen } with
          | (.error failure, after) => (.error failure, after)
          | (.ok _, after) =>
            if after.event.stopped then (.ok (), after)
            else settle (discard (runListeners (handler (trigger depth)) isStopped
              (rest.map (·.listener)))) after := by
  intro ended
  refine ⟨?_, ?_⟩
  · rintro ref rfl bound
    exact (settle_guard_eq_guardBy _ ref scene).trans (by rw [bound])
  obtain ⟨identity, questions, report, identifies, reports, bound, announces⟩ :=
    GuardKind.exists_announces_of_check denies
  refine ⟨identity, questions, report, _, identifies, reports, announces, bound, ?_⟩
  intro first rest listed
  have opens : ended = settle (discard (trigger (depth + 1) bus (some Stage.dispatchError.name)))
      { scene.noting calls with event := denied } := by
    show settle (guardBy _ kind (some oracle)) scene = _
    rw [settle_guardBy, denies]
  rw [opens, settle_discard, settle_trigger_of_listed listed,
    runListeners_map Subscription.listener, ← settle_discard, List.map_cons,
    settle_runListeners_cons, settle_discard]
  rcases settle (handler (trigger depth) first.listener) _ with ⟨failure | value, after⟩ <;> rfl

/-- Denied the action "Edit", a scripted listener runs on an event that has the controller of the
route where another one was, and all else of the report behind the other parameters. -/
theorem settle_guardBy_of_denied_edit :
    let listener : Handler := .script (.of "listener" [] .null)
    let bus : Bus Handler := ⟨[⟨Stage.dispatchError.name, listener, .int 0, 1⟩], 1⟩
    let scene : Scene :=
      { site := { buses := Arena.empty.set 0 bus }
        event :=
          { request := some (.http {})
            routeMatch := some
              { params := [("controller", .str "pages"), ("action", .str "Edit")] }
            params := [("controller", .str "old"), ("mark", .int 7)]
            bus := some 0 } }
    let double : Double := { identity := .str "somebody" }
    let calls : List Call := [.question (.str "controller/pages"),
      .question (.str "controller/pages:edit"), .question (.str "controller/pages:get")]
    ∃ seen : Event,
      settle (guardBy (trigger 2) .controller (some double.oracle)) scene =
        settle (discard (handler (trigger 1) listener)) { scene.noting calls with event := seen } ∧
      seen.name = Stage.dispatchError.name ∧ seen.outcome "controller" = .errorTriggered ∧
      seen.params.map (·.1) = ["controller", "mark", "error", "identity", "action", "exception"] ∧
      seen.param "controller" = .str "pages" ∧ seen.param "identity" = .str "somebody" ∧
      seen.param "mark" = .int 7 ∧
      seen.param "exception" =
        .error ⟨.unauthorized, "You are not authorized to access controller/pages:edit"⟩ := by
  intro listener bus scene double calls
  obtain ⟨-, identity, questions, report, seen, identifies, reports, announces, bound, runs⟩ :=
    @settle_guardBy_of_denied .controller double.oracle scene _ _ calls rfl 1
  have isIdentity : identity = .str "somebody" := by
    cases identifies
    rfl
  subst isIdentity
  cases reports with
  | controller routed isController isAction isSpoken named =>
    cases routed
    cases isController
    cases isAction
    cases isSpoken
    cases named
    have listed : (scene.site.buses.get 0).listeners Stage.dispatchError.name =
        .ok [⟨Stage.dispatchError.name, listener, .int 0, 1⟩] :=
      Bus.listeners_of_pairwise (show _ = some [(_, .ofInt 0)] from rfl)
        (List.pairwise_singleton _ _)
    refine ⟨seen, ?_, announces.name, announces.outcome, ?_, ?_, ?_, ?_, ?_⟩
    · rw [runs _ _ listed, settle_discard]
      rcases settle (handler (trigger 1) listener) _ with ⟨failure | value, after⟩
      · rfl
      · -- no other listener follows
        show (if after.event.stopped = true then _ else _) = _
        split <;> rfl
    · rw [announces.written.keys]
      decide
    · rw [Event.param, announces.written.found]
      rfl
    · rw [Event.param, announces.written.found]
      rfl
    · rw [Event.param, announces.written.found]
      rfl
    · have text : denialText (controllerResource (Value.str "pages").word (some "Edit")) =
          "You are not authorized to access controller/pages:edit" := by decide
      rw [Event.param, announces.written.found, ← text]
      rfl

end Run

end GuardedDispatch
