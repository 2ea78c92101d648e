import GuardedDispatch.Guard.Check
import GuardedDispatch.Proofs.Asking

/-! # What a guard checks

What a guard judges an event by is its **aim** (`Aim`): the controller, action and method of the
request, or the name of the matched route. An aim is accepted iff the oracle allows one of its
candidates (`Aim.Accepted`); a route without a name is no concern of the guard.

* **`GuardKind.Judges`**: the verdicts that are right about an event. An accepted event passes, and
  all others are turned down (`Event.TurnedDown`).
* **`GuardKind.exists_judges`**: a guard whose oracle answers comes to a right verdict. -/

namespace GuardedDispatch

/-- What a guard judges an event by. -/
inductive Aim where
  /-- The controller, its action if there is one, and the method. -/
  | controller (controller : Word) (action : Option Word) (method : Word)
  /-- The name of the route if it has one. -/
  | route (name : Option Word)
  deriving DecidableEq, Repr

namespace Aim

/-- The kind of guard whose aim it is. -/
def kind : Aim → GuardKind
  | controller .. => .controller
  | route _ => .route

/-- A segment to judge a controller by, unless it is empty or absent. -/
def segmentOf : Option Word → List (Option Word)
  | none => []
  | some segment => if segment = .text "" then [] else [some segment]

/-- The **segments** behind the controller: none, the action, the method. -/
def segments (action : Option Word) (method : Word) : List (Option Word) :=
  none :: segmentOf action ++ segmentOf (some method)

/-- The **candidates**: the resources of which one has to be allowed. -/
def candidates : Aim → List Word
  | controller c action method => (segments action method).map (controllerResource c)
  | route name => (name.map routeResource).toList

/-- An aim is **accepted** if one of its candidates is allowed, or if there is nothing to judge. -/
def Accepted (aim : Aim) (P : Word → Prop) : Prop :=
  (∃ resource ∈ aim.candidates, P resource) ∨ aim = .route none

theorem mem_segmentOf {segment other : Option Word} :
    other ∈ segmentOf segment ↔ ∃ s, segment = some s ∧ s ≠ .text "" ∧ other = some s := by
  rcases segment with _ | s
  · simp [segmentOf]
  · by_cases empty : s = .text "" <;> simp [segmentOf, empty]

/-- There is always the controller alone, and its action and method if they are not empty. -/
theorem mem_segments {action segment : Option Word} {method : Word} :
    segment ∈ segments action method ↔ segment = none ∨
      (∃ a, action = some a ∧ a ≠ .text "" ∧ segment = some a) ∨
      (method ≠ .text "" ∧ segment = some method) := by
  rw [segments, List.cons_append, List.mem_cons, List.mem_append, mem_segmentOf, mem_segmentOf]
  simp

end Aim

/-- An event **aims** at what it is judged by. -/
def Event.AimsAt (event : Event) : Aim → Prop
  | .controller c action method =>
    (∃ request, event.request = some (.http request) ∧ request.method = .ofWord method) ∧
    ∃ routeMatch, event.routeMatch = some routeMatch ∧
      lookupField "controller" routeMatch.params = some (.ofWord c) ∧
      (lookupField "action" routeMatch.params).getD .null = .ofWord? action
  | .route name =>
    (∃ request, event.request = some (.http request)) ∧
    ∃ routeMatch, event.routeMatch = some routeMatch ∧ routeMatch.name = .ofWord? name

/-- An event that a guard still **has to judge**: it aims at something, is bound to a bus, has no
error and was not decided. -/
structure Event.Undecided (event : Event) (aim : Aim) (bus : BusRef) : Prop where
  aims : event.AimsAt aim
  bound : event.bus = some bus
  sound : event.isError = false
  unchecked : event.outcome aim.kind.id = .unchecked

/-- A value that a page can **show** under a name as it is: nothing, a text, or an identity as
such. -/
def Value.IsPlain (name : String) : Value → Prop
  | .null | .str _ => True
  | .identity _ => name = "identity"
  | _ => False

/-- What a page can show is not long. -/
theorem Value.IsPlain.short {name : String} {value : Value} (plain : value.IsPlain name) :
    value.holdsLong = false := by
  cases value with
  | null | str _ | identity _ => rfl
  | _ => cases plain

/-- A match that names a page can show: the route, the controller and the action. -/
structure RouteMatch.IsPlain (routeMatch : RouteMatch) : Prop where
  name : Value.IsPlain "route" routeMatch.name
  controller : Value.IsPlain "controller" ((lookupField "controller" routeMatch.params).getD .null)
  action : Value.IsPlain "action" ((lookupField "action" routeMatch.params).getD .null)

/-- An event of which pages can show everything but the exception: its parameters, and what its
match names. -/
structure Event.IsPlain (event : Event) : Prop where
  params : ∀ name, name ≠ "exception" → Value.IsPlain name (event.param name)
  routeMatch : ∀ routeMatch, event.routeMatch = some routeMatch → routeMatch.IsPlain

/-- An event that a guard has turned down and brought to an **outcome**: the error is that of the
guard, and apart from its outcome and the parameters nothing else has changed. -/
structure Event.Brought (kind : GuardKind) (reached : Outcome) (before after : Event) : Prop where
  error : after.error = .str kind.errorKind
  outcome : after.outcome kind.id = reached
  others : ∀ guard, guard ≠ kind.id → after.outcome guard = before.outcome guard
  rest : ∃ params outcomes, after = { before with params, outcomes }

/-- An event that a guard has **denied**: its outcome says that the error stage is to run. -/
abbrev Event.Denied (kind : GuardKind) (before after : Event) : Prop :=
  Event.Brought kind .errorTriggered before after

/-- An event that a guard has **turned down**: it was denied, and is as plain as the identity is. -/
structure Event.TurnedDown (kind : GuardKind) (identity : Value) (before after : Event) : Prop
    extends Event.Brought kind .errorTriggered before after where
  plain : Value.IsPlain "identity" identity → before.IsPlain → after.IsPlain

/-- A move changes nothing but outcomes. -/
theorem Event.exists_outcomes_of_transition {event after : Event} {guard : String}
    {target : Outcome} (moved : event.transition guard target = .ok after) :
    ∃ outcomes, after = { event with outcomes } := by
  unfold transition at moved
  split at moved
  · cases moved
    exact ⟨_, rfl⟩
  · cases moved

namespace GuardKind

/-! ## Targets -/

/-- A word names itself as a segment. -/
theorem segment?_ofWord? (segment : Option Word) :
    segment? (.ofWord? segment) = .ok segment := by
  cases segment with
  | none => rfl
  | some word => cases word <;> rfl

/-- The resources of a segment that is a word or absent. -/
theorem segmentResources_ofWord? (controller : Word) (segment : Option Word) :
    segmentResources controller (.ofWord? segment) =
      .ok ((Aim.segmentOf segment).map (controllerResource controller)) := by
  cases segment with
  | none => rfl
  | some s =>
    by_cases empty : s = .text ""
    · subst empty
      rfl
    · have truthy : (Value.ofWord? (some s)).truthy = true := Value.truthy_ofWord_iff.2 empty
      rw [segmentResources, if_pos truthy, Aim.segmentOf, if_neg empty, segment?_ofWord?]
      rfl

/-- The candidates of an action and a method that are words or absent. -/
theorem controllerCandidates_ofWord? (controller : Word) (action method : Option Word) :
    controllerCandidates controller (.ofWord? action) (.ofWord? method) =
      .ok ((none :: Aim.segmentOf action ++ Aim.segmentOf method).map
        (controllerResource controller)) := by
  rw [controllerCandidates, segmentResources_ofWord?, segmentResources_ofWord?]
  show Except.ok (_ :: _ ++ _) = _
  rw [List.map_append, List.map_cons]

/-- **The target of a controller check**, if the controller can be printed and the action and the
method are words or absent: its candidates and its subject have names. -/
theorem exists_subject_of_controllerTarget {routeMatch : RouteMatch} {name : Word}
    {action method : Option Word} {target : Target}
    (printed : ((lookupField "controller" routeMatch.params).getD .null).printWord = .ok name)
    (isAction : (lookupField "action" routeMatch.params).getD .null = .ofWord? action)
    (found : controllerTarget routeMatch (.ofWord? method) = some target) :
    target.candidates = .ok ((none :: Aim.segmentOf action ++ Aim.segmentOf method).map
        (controllerResource name)) ∧ ∃ subject, target.subject = .ok subject := by
  rw [controllerTarget, isAction] at found
  dsimp only at found
  split at found
  · cases found
  · cases found
    dsimp only
    rw [printed]
    refine ⟨controllerCandidates_ofWord? name action method, ?_⟩
    -- the subject is named after the action, or after the method if there is none
    by_cases truthy : (Value.ofWord? action).truthy = true
    · exact ⟨_, by rw [if_pos truthy, segment?_ofWord?]; rfl⟩
    · exact ⟨_, by rw [if_neg truthy, segment?_ofWord?]; rfl⟩

/-- **The target of an aim**: nothing for a route without a name, and otherwise the candidates of
the aim with a subject that can be named. -/
theorem target?_of_aimsAt {event : Event} {aim : Aim} (aims : event.AimsAt aim) :
    (aim = .route none ∧ aim.kind.target? event = none) ∨
      (aim ≠ .route none ∧ ∃ target subject, aim.kind.target? event = some target ∧
        target.candidates = .ok aim.candidates ∧ target.subject = .ok subject) := by
  cases aim with
  | controller c action method =>
    obtain ⟨⟨request, http, isMethod⟩, routeMatch, matched, isController, isAction⟩ := aims
    refine .inr ⟨by simp, ?_⟩
    have isMethod' : methodOf event = .ofWord? (some method) := by
      rw [methodOf, http]
      exact isMethod
    have target : (Aim.controller c action method).kind.target? event =
        controllerTarget routeMatch (.ofWord? (some method)) := by
      show (event.routeMatch >>= fun routeMatch => controllerTarget routeMatch (methodOf event)) = _
      rw [matched, isMethod']
      rfl
    have printed : ((lookupField "controller" routeMatch.params).getD .null).printWord = .ok c := by
      rw [isController]
      exact Value.printWord_ofWord c
    have isSome : ∃ target, controllerTarget routeMatch (.ofWord? (some method)) = some target := by
      rw [controllerTarget, isController]
      simp only [Option.getD_some, Value.isNull_ofWord]
      exact ⟨_, rfl⟩
    obtain ⟨target', found⟩ := isSome
    obtain ⟨candidates, subject, named⟩ :=
      exists_subject_of_controllerTarget printed isAction found
    exact ⟨target', subject, target.trans found, candidates, named⟩
  | route name =>
    obtain ⟨-, routeMatch, matched, named⟩ := aims
    have target : (Aim.route name).kind.target? event = routeTarget routeMatch := by
      show (event.routeMatch >>= routeTarget) = _
      rw [matched]
      rfl
    rw [target]
    unfold routeTarget
    cases name with
    | none => exact .inl ⟨rfl, by rw [named]; rfl⟩
    | some text =>
      simp only [named, Value.ofWord?_some, Value.isNull_ofWord, Value.printWord_ofWord]
      exact .inr ⟨by simp, _, _, rfl, rfl, rfl⟩

/-- A guard **applies** to an event that it still has to judge. -/
theorem applies_of_undecided {event : Event} {aim : Aim} {bus : BusRef}
    (undecided : event.Undecided aim bus) : aim.kind.applies event = true := by
  obtain ⟨aims, -, sound, unchecked⟩ := undecided
  have routed : (∃ request, event.request = some (.http request)) ∧
      ∃ routeMatch, event.routeMatch = some routeMatch := by
    cases aim with
    | controller =>
      obtain ⟨⟨request, http, -⟩, routeMatch, matched, -⟩ := aims
      exact ⟨⟨request, http⟩, routeMatch, matched⟩
    | route =>
      obtain ⟨http, routeMatch, matched, -⟩ := aims
      exact ⟨http, routeMatch, matched⟩
  obtain ⟨⟨request, http⟩, routeMatch, matched⟩ := routed
  rw [applies, http, matched, sound, unchecked]
  rfl

/-- A guard applies only to events that it has not decided. -/
theorem unchecked_of_applies {kind : GuardKind} {event : Event}
    (checks : kind.applies event = true) : event.outcome kind.id = .unchecked := by
  rw [applies, Bool.and_eq_true] at checks
  exact beq_iff_eq.1 checks.2

/-- A guard does not apply to an event that has an error. -/
theorem not_applies_of_isError {event : Event} (failed : event.isError = true) (kind : GuardKind) :
    kind.applies event = false := by
  simp [applies, failed]

/-! ## Denials -/

/-- The details of a denial keep what writing each of them keeps. -/
theorem details_keep {P : Event → Prop} {details : List (String × Value)}
    (writes : ∀ detail ∈ details, ∀ event, P event → P (event.setParam detail.1 detail.2))
    {event : Event} (holds : P event) :
    P (details.foldl (fun event detail => event.setParam detail.1 detail.2) event) :=
  List.foldlRecOn details _ holds fun event holds detail mem => writes detail mem event holds

/-- Describing a denial changes the parameters of an event and nothing else. -/
theorem exists_params_of_describeDenial (kind : GuardKind) (details : List (String × Value))
    (subject : Word) (event : Event) :
    ∃ params, kind.describeDenial details subject event = { event with params } := by
  have written : ∃ params, details.foldl (fun event detail => event.setParam detail.1 detail.2)
      (event.setError (.str kind.errorKind)) = { event with params } := by
    refine details_keep (P := fun after => ∃ params, after = { event with params }) ?_ ⟨_, rfl⟩
    rintro detail - _ ⟨params, rfl⟩
    exact ⟨_, rfl⟩
  obtain ⟨params, eq⟩ := written
  unfold describeDenial
  rw [eq]
  exact ⟨_, rfl⟩

/-- It leaves the outcomes alone. -/
theorem outcomes_describeDenial (kind : GuardKind) (details : List (String × Value))
    (subject : Word) (event : Event) :
    (kind.describeDenial details subject event).outcomes = event.outcomes := by
  obtain ⟨params, eq⟩ := exists_params_of_describeDenial kind details subject event
  rw [eq]

theorem outcome_describeDenial (kind : GuardKind) (details : List (String × Value))
    (subject : Word) (event : Event) (guard : String) :
    (kind.describeDenial details subject event).outcome guard = event.outcome guard := by
  rw [Event.outcome, outcomes_describeDenial, ← Event.outcome]

/-- Details of other names leave the error of a denial. -/
theorem error_describeDenial {kind : GuardKind} {details : List (String × Value)}
    (others : ∀ detail ∈ details, detail.1 ≠ "error") (subject : Word) (event : Event) :
    (kind.describeDenial details subject event).error = .str kind.errorKind := by
  show (Event.setParam _ _ _).error = _
  rw [Event.error, Event.param_setParam_of_ne (by decide), ← Event.error]
  refine details_keep (P := fun event => event.error = .str kind.errorKind) ?_
    (Event.error_setError _ _)
  intro detail mem event error
  exact (Event.param_setParam_of_ne (Ne.symm (others detail mem)) _ _).trans error

/-- The details of a target never name the error. -/
theorem details_ne_error {kind : GuardKind} {event : Event} {target : Target}
    (found : kind.target? event = some target) (identity : Value) :
    ∀ detail ∈ target.details identity, detail.1 ≠ "error" := by
  obtain ⟨routeMatch, -, found⟩ := Option.bind_eq_some_iff.1 found
  cases kind with
  | controller =>
    dsimp only [controllerTarget] at found
    split at found
    · cases found
    · cases found
      simp
  | route =>
    dsimp only [routeTarget] at found
    split at found
    · cases found
    · cases found
      simp

/-- Writing what can be shown leaves an event plain. -/
theorem isPlain_setParam {event : Event} (plain : event.IsPlain) {name : String} {value : Value}
    (shown : name ≠ "exception" → Value.IsPlain name value) :
    (event.setParam name value).IsPlain := by
  refine ⟨fun other ne => ?_, plain.routeMatch⟩
  by_cases same : other = name
  · subst same
    rw [Event.param_setParam_self]
    exact shown ne
  · rw [Event.param_setParam_of_ne same]
    exact plain.params other ne

/-- Describing a denial by details that can be shown leaves an event plain. -/
theorem isPlain_describeDenial {kind : GuardKind} {details : List (String × Value)}
    (shown : ∀ detail ∈ details, Value.IsPlain detail.1 detail.2) (subject : Word) {event : Event}
    (plain : event.IsPlain) : (kind.describeDenial details subject event).IsPlain := by
  refine isPlain_setParam (details_keep ?_ ?_) fun ne => absurd rfl ne
  · intro detail mem event plain
    exact isPlain_setParam plain fun _ => shown detail mem
  · exact isPlain_setParam plain fun _ => trivial

/-- The details of a plain event can be shown if the identity can. -/
theorem isPlain_details {kind : GuardKind} {event : Event} (plain : event.IsPlain)
    {target : Target} (found : kind.target? event = some target) {identity : Value}
    (shown : Value.IsPlain "identity" identity) :
    ∀ detail ∈ target.details identity, Value.IsPlain detail.1 detail.2 := by
  obtain ⟨routeMatch, isMatch, found⟩ := Option.bind_eq_some_iff.1 found
  obtain ⟨name, controller, action⟩ := plain.routeMatch routeMatch isMatch
  cases kind with
  | controller =>
    dsimp only [controllerTarget] at found
    split at found
    · cases found
    · cases found
      simp only [List.mem_cons, List.not_mem_nil, or_false]
      rintro _ (rfl | rfl | rfl)
      · exact shown
      · exact controller
      · exact action
  | route =>
    dsimp only [routeTarget] at found
    split at found
    · cases found
    · cases found
      simp only [List.mem_cons, List.not_mem_nil, or_false]
      rintro _ (rfl | rfl)
      · exact name
      · exact shown

/-- **The record of a denial** of a target quotes the identity, and is made unless that is long. -/
theorem recordOf_details {kind : GuardKind} {event : Event} {target : Target}
    (found : kind.target? event = some target) (identity : Value) (subject : Word) (id : String) :
    recordOf (target.details identity) subject id = identity.printQuoted.map fun text =>
      "Denied " ++ subject ++ " for identity " ++ .text text ++ " (request " ++ id ++ ")" := by
  obtain ⟨routeMatch, -, found⟩ := Option.bind_eq_some_iff.1 found
  cases kind with
  | controller =>
    dsimp only [controllerTarget] at found
    split at found
    · cases found
    · cases found
      rfl
  | route =>
    dsimp only [routeTarget] at found
    split at found
    · cases found
    · cases found
      rfl

/-- An identity that is not long can be put on record. -/
theorem exists_recordOf_of_short {kind : GuardKind} {event : Event} {target : Target}
    (found : kind.target? event = some target) {identity : Value}
    (short : identity.holdsLong = false) (subject : Word) (id : String) :
    ∃ record, recordOf (target.details identity) subject id = .ok record := by
  rw [recordOf_details found, Value.printQuoted, Value.unlessLong_of_short short]
  exact ⟨_, rfl⟩

/-- A long identity cannot. -/
theorem recordOf_of_long {kind : GuardKind} {event : Event} {target : Target}
    (found : kind.target? event = some target) {identity : Value}
    (long : identity.holdsLong = true) (subject : Word) (id : String) :
    recordOf (target.details identity) subject id = .error (.value (.tooManyDigits none)) := by
  rw [recordOf_details found, Value.printQuoted, Value.unlessLong_of_long long]
  rfl

/-- What **turning down** an event comes to: two moves with the description of the denial in
between; or one move, if there is no record of the denial. -/
inductive Denies (kind : GuardKind) (details : List (String × Value)) (subject : Word)
    (event : Event) (bus : BusRef) : Verdict → Prop where
  /-- The denial is on record, and is to be announced. -/
  | recorded {record : Word} {denied last : Event}
    (recorded : recordOf details subject event.id = .ok record)
    (moved : event.transition kind.id .denied = .ok denied)
    (moved' : (kind.describeDenial details subject denied).transition kind.id .errorTriggered =
      .ok last) : Denies kind details subject event bus (.denied last bus)
  /-- The denial is not on record. -/
  | unrecorded {failure : Failure} {denied : Event}
    (unrecorded : recordOf details subject event.id = .error failure)
    (moved : event.transition kind.id .denied = .ok denied) :
    Denies kind details subject event bus
      (.unrecorded (kind.describeDenial details subject denied) failure)

/-- **A denial** comes to a verdict on an event that has a bus. -/
theorem deny_eq_ok_iff {kind : GuardKind} {event : Event} {details : List (String × Value)}
    {subject : Word} {verdict : Verdict} :
    kind.deny event details subject = .ok verdict ↔
      ∃ bus, event.bus = some bus ∧ Denies kind details subject event bus verdict := by
  constructor
  · intro done
    unfold deny at done
    cases onBus : event.bus with
    | none => rw [onBus] at done; cases done
    | some bus =>
      rw [onBus] at done
      obtain ⟨denied, moved, done⟩ := exists_ok_of_bind done
      dsimp only at done
      cases record : recordOf details subject event.id with
      | error failure =>
        rw [record] at done
        cases done
        exact ⟨bus, rfl, .unrecorded record moved⟩
      | ok text =>
        rw [record] at done
        obtain ⟨last, moved', eq⟩ := exists_ok_of_bind done
        cases eq
        exact ⟨bus, rfl, .recorded record moved moved'⟩
  · rintro ⟨bus, onBus, denies⟩
    rw [deny, onBus]
    cases denies with
    | @recorded _ denied last recorded moved moved' =>
      have rest : (do
          let last ← (kind.describeDenial details subject denied).transition kind.id .errorTriggered
          return Verdict.denied last bus) = Except.ok (Verdict.denied last bus) := by
        rw [moved']
        rfl
      dsimp only
      rw [moved, recorded]
      exact rest
    | unrecorded unrecorded moved =>
      dsimp only
      rw [moved, unrecorded]
      rfl

/-- **Halfway through a denial** an event is denied and described, and nothing is announced. -/
theorem exists_describeDenial {kind : GuardKind} {event : Event}
    (unchecked : event.outcome kind.id = .unchecked)
    {details : List (String × Value)} (others : ∀ detail ∈ details, detail.1 ≠ "error")
    (subject : Word) :
    ∃ denied, event.transition kind.id .denied = .ok denied ∧
      Event.Brought kind .denied event (kind.describeDenial details subject denied) := by
  let denied : Event := { event with outcomes := putField kind.id .denied event.outcomes }
  have moved : event.transition kind.id .denied = .ok denied := by
    rw [Event.transition, unchecked]
    rfl
  refine ⟨denied, moved, error_describeDenial others subject denied, ?_, fun guard ne => ?_, ?_⟩
  · exact (outcome_describeDenial ..).trans (Event.outcome_of_transition moved)
  · exact (outcome_describeDenial ..).trans (Event.outcome_of_transition_of_ne moved ne)
  · obtain ⟨params, eq⟩ := exists_params_of_describeDenial kind details subject denied
    exact ⟨params, _, eq⟩

/-- **Turning down** an event that was not decided and has a bus succeeds, if the denial can be put
on record. -/
theorem exists_deny {kind : GuardKind} {event : Event} {bus : BusRef}
    (unchecked : event.outcome kind.id = .unchecked) (onBus : event.bus = some bus)
    {details : List (String × Value)} (others : ∀ detail ∈ details, detail.1 ≠ "error")
    {subject record : Word} (recorded : recordOf details subject event.id = .ok record) :
    ∃ after, kind.deny event details subject = .ok (.denied after bus) ∧
      Event.Denied kind event after ∧
      ((∀ detail ∈ details, Value.IsPlain detail.1 detail.2) → event.IsPlain → after.IsPlain) := by
  obtain ⟨denied, moved, halfway⟩ := exists_describeDenial unchecked others subject
  let described : Event := kind.describeDenial details subject denied
  let after : Event :=
    { described with outcomes := putField kind.id .errorTriggered described.outcomes }
  have moved' : described.transition kind.id .errorTriggered = .ok after := by
    rw [Event.transition, halfway.outcome]
    rfl
  have denies : Denies kind details subject event bus (.denied after bus) :=
    .recorded recorded moved moved'
  refine ⟨after, deny_eq_ok_iff.2 ⟨bus, onBus, denies⟩,
    ⟨halfway.error, Event.outcome_of_transition moved', fun guard ne => ?_, ?_⟩, ?_⟩
  · exact (Event.outcome_of_transition_of_ne moved' ne).trans (halfway.others guard ne)
  · obtain ⟨params, outcomes, eq⟩ := halfway.rest
    exact ⟨params, _, by show { described with outcomes := _ } = _; rw [show described = _ from eq]⟩
  · intro shown plain
    obtain ⟨outcomes, eq⟩ := Event.exists_outcomes_of_transition moved
    have plain' : denied.IsPlain := by
      rw [eq]
      exact ⟨plain.params, plain.routeMatch⟩
    have described' : described.IsPlain := isPlain_describeDenial shown subject plain'
    exact ⟨described'.params, described'.routeMatch⟩

/-- Without a record it **stops halfway**. -/
theorem exists_deny_of_unrecorded {kind : GuardKind} {event : Event} {bus : BusRef}
    (unchecked : event.outcome kind.id = .unchecked) (onBus : event.bus = some bus)
    {details : List (String × Value)} (others : ∀ detail ∈ details, detail.1 ≠ "error")
    {subject : Word} {failure : Failure}
    (unrecorded : recordOf details subject event.id = .error failure) :
    ∃ after, kind.deny event details subject = .ok (.unrecorded after failure) ∧
      Event.Brought kind .denied event after := by
  obtain ⟨denied, moved, halfway⟩ := exists_describeDenial unchecked others subject
  have denies : Denies kind details subject event bus (.unrecorded _ failure) :=
    .unrecorded unrecorded moved
  exact ⟨_, deny_eq_ok_iff.2 ⟨bus, onBus, denies⟩, halfway⟩

/-! ## Verdicts -/

/-- An event that a guard has **let pass**. -/
def letPass (kind : GuardKind) (event : Event) : Event :=
  { event with outcomes := putField kind.id .allowed event.outcomes }

/-- Letting pass decides for the kind of the guard and no other. -/
theorem outcome_letPass (kind other : GuardKind) (event : Event) :
    (kind.letPass event).outcome other.id =
      if other = kind then .allowed else event.outcome other.id := by
  by_cases same : other = kind
  · subst same
    rw [if_pos rfl, Event.outcome, letPass, lookupField_putField_self]
    rfl
  · have ne : other.id ≠ kind.id := fun eq => same (id_injective eq)
    rw [if_neg same, Event.outcome, letPass, lookupField_putField_of_ne ne, ← Event.outcome]

/-- The verdicts that are **right** about an event, given its aim, what is allowed and its bus. -/
inductive Judges (aim : Aim) (P : Word → Prop) (identity : Value) (event : Event)
    (bus : BusRef) : Verdict → Prop where
  /-- There is nothing to judge. -/
  | skip (unnamed : aim = .route none) : Judges aim P identity event bus .skip
  /-- One of the candidates is allowed. -/
  | allowed (found : ∃ resource ∈ aim.candidates, P resource) :
    Judges aim P identity event bus (.allowed (aim.kind.letPass event))
  /-- There is something to judge, and no candidate is allowed. -/
  | denied {after : Event} (rejected : ¬ aim.Accepted P)
    (turnedDown : Event.TurnedDown aim.kind identity event after) :
    Judges aim P identity event bus (.denied after bus)

variable {oracle : Oracle} {P : Word → Prop} {identity : Value} {event : Event} {aim : Aim}
  {bus : BusRef}

/-- **Asking for candidates** decides whether one of them is allowed. -/
theorem decides_anyAllowed (answers : oracle.Answers P identity) (candidates : List Word) :
    (anyAllowed oracle candidates).Decides (∃ resource ∈ candidates, P resource) :=
  Asking.decides_anyM fun resource _ => answers.decides resource

/-- The check of an event that a guard applies to, once its target is known. -/
theorem check_of_target {kind : GuardKind} {target : Target} (applies : kind.applies event = true)
    (found : kind.target? event = some target) :
    kind.check (some oracle) event = (do
      let candidates ← liftM target.candidates
      if ← anyAllowed oracle candidates then
        return .allowed (← liftM (event.transition kind.id .allowed))
      else
        let identity ← oracle.identity
        let subject ← liftM target.subject
        liftM (kind.deny event (target.details identity) subject)) := by
  rw [check, if_pos applies, found]

/-- **A guard comes to a verdict** about a target that it can name, if its oracle answers: the event
passes if one of the candidates is allowed, and is denied otherwise. -/
theorem exists_verdict {kind : GuardKind} {target : Target} {names : List Word} {subject : Word}
    (answers : oracle.Answers P identity) (applies : kind.applies event = true)
    (bound : event.bus = some bus) (found : kind.target? event = some target)
    (candidates : target.candidates = .ok names) (named : target.subject = .ok subject) :
    ∃ verdict, (kind.check (some oracle) event).Returns verdict ∧
      ((∃ resource ∈ names, P resource) ∧ verdict = .allowed (kind.letPass event) ∨
        (¬ ∃ resource ∈ names, P resource) ∧ (identity.holdsLong = false → ∃ after,
          verdict = .denied after bus ∧ Event.Denied kind event after ∧
          ((∀ detail ∈ target.details identity, Value.IsPlain detail.1 detail.2) →
            event.IsPlain → after.IsPlain)) ∧
          (identity.holdsLong = true → ∃ after,
            verdict = .unrecorded after (.value (.tooManyDigits none)) ∧
              Event.Brought kind .denied event after)) := by
  have unchecked := unchecked_of_applies applies
  obtain ⟨allowed, returns, iff⟩ := decides_anyAllowed answers names
  rw [check_of_target applies found]
  cases allowed with
  | true =>
    have moved : event.transition kind.id .allowed = .ok (kind.letPass event) := by
      rw [Event.transition, unchecked]
      rfl
    refine ⟨_, ?_, .inl ⟨iff.1 rfl, rfl⟩⟩
    refine Asking.returns_bind (Asking.returns_liftM candidates) ?_
    refine Asking.returns_bind returns ?_
    exact Asking.returns_bind (Asking.returns_liftM moved) (Asking.returns_pure _)
  | false =>
    have others := details_ne_error found identity
    have rejected : ¬ ∃ resource ∈ names, P resource := fun allowed => by simpa using iff.2 allowed
    -- the denial is the last step, whether it is put on record or not
    have comes {verdict : Verdict}
        (denies : kind.deny event (target.details identity) subject = .ok verdict) :
        (do
          let candidates ← liftM target.candidates
          if ← anyAllowed oracle candidates then
            return .allowed (← liftM (event.transition kind.id .allowed))
          else
            let identity ← oracle.identity
            let subject ← liftM target.subject
            liftM (kind.deny event (target.details identity) subject) :
            Asking Verdict).Returns verdict := by
      refine Asking.returns_bind (Asking.returns_liftM candidates) ?_
      refine Asking.returns_bind returns ?_
      refine Asking.returns_bind answers.identifies ?_
      exact Asking.returns_bind (Asking.returns_liftM named) (Asking.returns_liftM denies)
    cases size : identity.holdsLong with
    | false =>
      obtain ⟨record, recorded⟩ := exists_recordOf_of_short found size subject event.id
      obtain ⟨after, denies, denied, plain⟩ := exists_deny unchecked bound others recorded
      exact ⟨_, comes denies, .inr ⟨rejected, fun _ => ⟨after, rfl, denied, plain⟩, nofun⟩⟩
    | true =>
      obtain ⟨after, denies, halfway⟩ := exists_deny_of_unrecorded unchecked bound others
        (recordOf_of_long found size subject event.id)
      exact ⟨_, comes denies, .inr ⟨rejected, nofun, fun _ => ⟨after, rfl, halfway⟩⟩⟩

/-- **A guard comes to a right verdict** about an event that it has to judge, if its oracle answers
and gives an identity that can be put on record. -/
theorem exists_judges (answers : oracle.Answers P identity) (short : identity.holdsLong = false)
    (undecided : event.Undecided aim bus) :
    ∃ verdict, (aim.kind.check (some oracle) event).Returns verdict ∧
      Judges aim P identity event bus verdict := by
  have applies := applies_of_undecided undecided
  obtain ⟨aims, bound, -, -⟩ := undecided
  rcases target?_of_aimsAt aims with ⟨unnamed, missing⟩ |
    ⟨named, target, text, found, candidates, subject⟩
  · -- a route without a name is no target
    refine ⟨.skip, ?_, .skip unnamed⟩
    rw [check, if_pos applies, missing]
    exact Asking.returns_pure Verdict.skip
  · obtain ⟨verdict, returns, ⟨allowed, rfl⟩ | ⟨rejected, denies, -⟩⟩ :=
      exists_verdict answers applies bound found candidates subject
    · exact ⟨_, returns, .allowed allowed⟩
    · obtain ⟨after, rfl, denied, plain⟩ := denies short
      have shows (shown : Value.IsPlain "identity" identity) (before : event.IsPlain) :=
        plain (isPlain_details before found shown) before
      refine ⟨_, returns, .denied ?_ ⟨denied, shows⟩⟩
      rintro (allowed | unnamed)
      · exact rejected allowed
      · exact named unnamed

/-- **What a check can come to**: nothing, an allowance where one of the candidates was found, or a
denial. -/
theorem ensures_check {kind : GuardKind} {oracle : Option Oracle} {Q : Verdict → Prop}
    (found : Word → Prop)
    (asks : ∀ asked, oracle = some asked → ∀ resource,
      Ensures (asked.isAllowed (.ofWord resource) .null) fun allowed =>
        allowed = true → found resource)
    (skips : Q .skip)
    (allows : ∀ target names resource after, kind.target? event = some target →
      target.candidates = .ok names → resource ∈ names → found resource →
      event.transition kind.id .allowed = .ok after → Q (.allowed after))
    (denies : ∀ details subject verdict, (∀ detail ∈ details, detail.1 ≠ "error") →
      kind.deny event details subject = .ok verdict → Q verdict) :
    Ensures (kind.check oracle event) Q := by
  by_cases applies : kind.applies event = true
  · cases isTarget : kind.target? event with
    | none =>
      rw [check, if_pos applies, isTarget]
      exact ensures_pure skips
    | some target =>
      cases oracle with
      | none =>
        rw [check, if_pos applies, isTarget]
        exact ensures_throw _
      | some asked =>
        rw [check_of_target applies isTarget]
        have named : Ensures (liftM target.candidates : Asking (List Word))
            fun names => target.candidates = .ok names := ensures_liftM fun _ eq => eq
        refine ensures_bind named fun names candidates => ?_
        refine ensures_bind (ensures_anyM fun resource _ => asks asked rfl resource)
          fun answer yes => ?_
        cases answer with
        | true =>
          obtain ⟨resource, mem, holds⟩ := yes rfl
          refine ensures_bind (ensures_liftM fun after moved => moved) fun after moved => ?_
          exact ensures_pure
            (allows target names resource after isTarget candidates mem holds moved)
        | false =>
          refine ensures_bind (ensures_true _) fun identity _ => ?_
          refine ensures_bind (ensures_true _) fun subject _ => ?_
          exact ensures_liftM fun verdict denied =>
            denies _ subject verdict (details_ne_error isTarget identity) denied
  · rw [check, if_neg applies]
    exact ensures_pure skips

/-- A verdict that **moves** the outcome of a guard along its edges. -/
inductive Moves (guard : String) (event : Event) : Verdict → Prop where
  /-- The outcome stays. -/
  | skip : Moves guard event .skip
  /-- The outcome moves to allowed. -/
  | allowed {after : Event} (moved : event.transition guard .allowed = .ok after) :
    Moves guard event (.allowed after)
  /-- The outcome moves to denied, and then to the announcement of that. -/
  | denied {denied described after : Event} {bus : BusRef}
    (moved : event.transition guard .denied = .ok denied)
    (same : described.outcomes = denied.outcomes)
    (moved' : described.transition guard .errorTriggered = .ok after) :
    Moves guard event (.denied after bus)
  /-- The outcome moves to denied, and stays there. -/
  | unrecorded {denied described : Event} {failure : Failure}
    (moved : event.transition guard .denied = .ok denied)
    (same : described.outcomes = denied.outcomes) :
    Moves guard event (.unrecorded described failure)

/-- Turning down moves the outcome twice, or once; the description leaves it alone. -/
theorem moves_of_deny {kind : GuardKind} {details : List (String × Value)} {subject : Word}
    {verdict : Verdict} (denied : kind.deny event details subject = .ok verdict) :
    Moves kind.id event verdict := by
  obtain ⟨bus, -, denies⟩ := deny_eq_ok_iff.1 denied
  cases denies with
  | recorded _ moved moved' => exact .denied moved (outcomes_describeDenial ..) moved'
  | unrecorded _ moved => exact .unrecorded moved (outcomes_describeDenial ..)

/-- **A check** comes to a verdict that moves the outcome, whatever the oracle says. -/
theorem ensures_moves (kind : GuardKind) (oracle : Option Oracle) (event : Event) :
    Ensures (kind.check oracle event) (Moves kind.id event) := by
  refine ensures_check (fun _ => True) ?_ .skip ?_ fun _ _ _ _ denied => moves_of_deny denied
  · exact fun _ _ _ _ _ _ _ _ => trivial
  · exact fun _ _ _ _ _ _ _ _ moved => .allowed moved

/-- What a verdict tells about the candidates of an aim, however it was come to: to let pass, one of
them was found; and a denial is announced, or stopped halfway. -/
def Tells (aim : Aim) (found : Word → Prop) : Verdict → Prop
  | .skip => True
  | .allowed _ => ∃ resource ∈ aim.candidates, found resource
  | .denied after _ => after.outcome aim.kind.id = .errorTriggered
  | .unrecorded after _ => after.outcome aim.kind.id = .denied

/-- A denial tells how far it came. -/
theorem tells_of_deny {found : Word → Prop} {details : List (String × Value)} {subject : Word}
    {verdict : Verdict} (denied : aim.kind.deny event details subject = .ok verdict) :
    Tells aim found verdict := by
  obtain ⟨bus, -, denies⟩ := deny_eq_ok_iff.1 denied
  cases denies with
  | recorded _ _ moved => exact Event.outcome_of_transition moved
  | unrecorded _ moved =>
    exact (outcome_describeDenial ..).trans (Event.outcome_of_transition moved)

/-- **A guard lets pass only what its oracle told it to**, also if the oracle may fail. -/
theorem ensures_tells {found : Word → Prop}
    (asks : ∀ resource, Ensures (oracle.isAllowed (.ofWord resource) .null)
      fun allowed => allowed = true → found resource) (aims : event.AimsAt aim) :
    Ensures (aim.kind.check (some oracle) event) (Tells aim found) := by
  refine ensures_check found ?_ trivial ?_ fun _ _ _ _ denied => tells_of_deny denied
  · rintro _ ⟨⟩
    exact asks
  · intro target names resource after isTarget candidates mem holds _
    -- the candidates that were asked for are those of the aim
    rcases target?_of_aimsAt aims with ⟨-, missing⟩ | ⟨-, target', _, isTarget', candidates', -⟩
    · rw [missing] at isTarget
      cases isTarget
    · cases isTarget'.symm.trans isTarget
      cases candidates'.symm.trans candidates
      exact ⟨resource, mem, holds⟩

end GuardKind

end GuardedDispatch
