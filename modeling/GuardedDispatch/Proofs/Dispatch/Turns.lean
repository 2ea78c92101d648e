import GuardedDispatch.Proofs.Dispatch.Conduct
import GuardedDispatch.Proofs.Guard.Judging

/-! # A guard's turn

What a watched guard does when it is its turn, on an event that the guards before it have accepted
(`Watched.Passed`). It skips the event, accepts it, or denies it, and then the event has an error
(`Watched.DeniedBy`): the error stage runs, or the guard stops halfway because the identity cannot
be put on record. Or it fails because it cannot name what to ask for.

* **`Watch.turn_guard`**: these are all the turns of a guard (`Watch.Turn`), if the error stage
  answers denials (`Watch.AnswersDenials`). -/

namespace GuardedDispatch

/-- The kind of a guard of a site. -/
abbrev Site.kindOf (site : Site) (ref : GuardRef) : GuardKind := (site.guards.get ref).guard.kind

/-- The guards that were **asked** in a history. -/
def askedIn (history : List Happening) : List GuardRef :=
  history.filterMap fun
    | .asked ref => some ref
    | _ => none

/-- How often the **error stage** ran in a history. -/
def errorRuns (history : List Happening) : Nat :=
  history.countP fun
    | .started _ stage => stage == Stage.dispatchError.name
    | _ => false

@[simp] theorem askedIn_append (history further : List Happening) :
    askedIn (history ++ further) = askedIn history ++ askedIn further :=
  List.filterMap_append

@[simp] theorem errorRuns_append (history further : List Happening) :
    errorRuns (history ++ further) = errorRuns history + errorRuns further :=
  List.countP_append

/-- An event on its way through the route stage, of which some guards were asked and accepted it:
nothing but outcomes has changed, and the kinds of these guards alone allow it. -/
structure Watched.Passed (site : Site) (before : Event) (allows : GuardRef → Word → Prop)
    (asked : List GuardRef) (watched : Watched) : Prop where
  stays : watched.scene.site = site
  same : ∃ outcomes, watched.scene.event =
    { before with name := Stage.route.name, stopped := false, outcomes }
  outcome : ∀ kind : GuardKind, watched.scene.event.outcome kind.id =
    if kind ∈ asked.map site.kindOf then .allowed else .unchecked
  accepted : ∀ ref ∈ asked, (site.kindOf ref).Accepts before (allows ref)
  asks : askedIn watched.history = asked
  calm : errorRuns watched.history = 0

/-- Such an event runs on. -/
theorem Watched.Passed.running {site : Site} {before : Event} {allows : GuardRef → Word → Prop}
    {asked : List GuardRef} {watched : Watched} (passed : watched.Passed site before allows asked) :
    watched.scene.event.stopped = false := by
  obtain ⟨outcomes, same⟩ := passed.same
  rw [same]

/-- An event that a guard **denied** after others had accepted it: how far its denial came, and how
often the error stage ran. -/
structure Watched.DeniedBy (site : Site) (before : Event) (allows : GuardRef → Word → Prop)
    (asked : List GuardRef) (denier : GuardRef) (reached : Outcome) (runs : Nat)
    (watched : Watched) : Prop where
  error : watched.scene.event.error = .str (site.kindOf denier).errorKind
  outcome : ∀ kind : GuardKind, watched.scene.event.outcome kind.id =
    if kind = site.kindOf denier then reached
    else if kind ∈ asked.map site.kindOf then .allowed else .unchecked
  accepted : ∀ ref ∈ asked, (site.kindOf ref).Accepts before (allows ref)
  rejected : ¬ (site.kindOf denier).Accepts before (allows denier)
  asks : askedIn watched.history = asked ++ [denier]
  runs : errorRuns watched.history = runs
  running : watched.scene.event.stopped = false

/-- Such an event has an error. -/
theorem Watched.DeniedBy.isError {site : Site} {before : Event}
    {allows : GuardRef → Word → Prop} {asked : List GuardRef} {denier : GuardRef}
    {reached : Outcome} {runs : Nat} {watched : Watched}
    (denied : watched.DeniedBy site before allows asked denier reached runs) :
    watched.scene.event.isError = true := by
  rw [Event.isError, denied.error]
  cases site.kindOf denier <;> rfl

/-- An event whose denial was **announced**: it has the error of a guard, and apart from that only
what the error stage writes is not as before. -/
structure Event.Announced (before event : Event) : Prop where
  error : ∃ kind : GuardKind, event.error = .str kind.errorKind
  rest : ∃ answer result pages params outcomes, event =
    { before with name := Stage.dispatchError.name, stopped := false, response := answer, result,
                  pages, params, outcomes }

namespace Event.Announced

variable {before event : Event}

/-- Such an event runs on. -/
theorem running (announced : before.Announced event) : event.stopped = false := by
  obtain ⟨_, _, _, _, _, eq⟩ := announced.rest
  rw [eq]

end Event.Announced

namespace Watched

/-- What is there when a stage has **opened**. -/
def opened (watched : Watched) (bus : BusRef) (stage : String) : Watched :=
  ⟨{ watched.scene with event := Run.startStage (some stage) watched.scene.event },
    watched.history ++ [.started bus stage]⟩

/-- What may be there after an **answer**: nothing but the response, the result and the pages was
written. -/
def Answered (watched after : Watched) : Prop :=
  ∃ answer result pages trace, after =
    ⟨{ watched.scene with
      event := { watched.scene.event with response := answer, result, pages }
      trace }, watched.history⟩

theorem Answered.refl (watched : Watched) : watched.Answered watched :=
  ⟨_, _, _, _, rfl⟩

theorem Answered.trans {watched middle after : Watched} (first : watched.Answered middle)
    (second : middle.Answered after) : watched.Answered after := by
  obtain ⟨_, _, _, _, rfl⟩ := first
  obtain ⟨_, _, _, _, rfl⟩ := second
  exact ⟨_, _, _, _, rfl⟩

theorem Answered.site {watched after : Watched} (answered : watched.Answered after) :
    after.scene.site = watched.scene.site := by
  obtain ⟨_, _, _, _, rfl⟩ := answered
  rfl

/-- Answering leaves a denial announced. -/
theorem Answered.announced {watched after : Watched} (answered : watched.Answered after)
    {before : Event} (announced : before.Announced watched.scene.event) :
    before.Announced after.scene.event := by
  obtain ⟨_, _, _, _, rfl⟩ := answered
  refine ⟨announced.error, ?_⟩
  obtain ⟨_, _, _, _, _, eq⟩ := announced.rest
  rw [eq]
  exact ⟨_, _, _, _, _, rfl⟩

end Watched

namespace GuardPost

variable {post : GuardPost} {event : Event}

theorem consultation_eq_nil (silent : post.guard.kind.consults event = false) (ref : GuardRef) :
    post.consultation ref event = [] := by
  rw [consultation, silent, Bool.and_false]
  rfl

theorem consultation_eq (bound : post.authority.isSome = true)
    (asks : post.guard.kind.consults event = true) (ref : GuardRef) :
    post.consultation ref event = [.asked ref] := by
  rw [consultation, bound, asks]
  rfl

end GuardPost

namespace Watch

/-- An error stage that **answers** denials: it returns, and writes nothing but the response, the
result and the pages. -/
def AnswersDenials (again : Trigger) (site : Site) (before : Event) (bus : BusRef) : Prop :=
  ∀ watched : Watched, watched.scene.site = site →
    before.Announced (watched.opened bus Stage.dispatchError.name).scene.event →
    ∃ after,
      settle (discard (again bus (some Stage.dispatchError.name))) watched = (.ok (), after) ∧
        (watched.opened bus Stage.dispatchError.name).Answered after

variable {site : Site} {before : Event} {allows : GuardRef → Word → Prop}
  {identity : GuardRef → Value} {bus : BusRef} {again : Trigger} {asked : List GuardRef}
  {ref : GuardRef} {watched : Watched}

/-- A guard that asks nothing and fails leaves everything as it was. -/
theorem settle_guard_of_fails (stays : watched.scene.site = site)
    (silent : (site.kindOf ref).consults watched.scene.event = false) {failure : Failure}
    (checked : ((site.kindOf ref).check ((site.guards.get ref).authority.map site.oracle)
      watched.scene.event).outcome = (.error failure, [])) (again : Trigger) :
    settle (guard again ref) watched = (.error failure, watched) := by
  subst stays
  rw [settle_guard rfl, GuardPost.consultation_eq_nil silent, List.append_nil]
  dsimp only
  rw [checked]
  dsimp only
  rw [Scene.noting_nil]

/-- So does a guard that asks nothing and has nothing to say. -/
theorem settle_guard_of_skips (stays : watched.scene.site = site)
    (silent : (site.kindOf ref).consults watched.scene.event = false)
    (checked : (site.kindOf ref).check ((site.guards.get ref).authority.map site.oracle)
      watched.scene.event = pure .skip) (again : Trigger) :
    settle (guard again ref) watched = (.ok (), watched) := by
  subst stays
  rw [settle_guard rfl, GuardPost.consultation_eq_nil silent, List.append_nil]
  dsimp only
  rw [checked]
  show (_, Watched.mk (watched.scene.noting []) _) = _
  rw [Scene.noting_nil]

/-- A guard that asks follows the verdict that it comes to. -/
theorem settle_guard_of_asks (stays : watched.scene.site = site) {oracle : Oracle}
    (bound : (site.guards.get ref).authority.map site.oracle = some oracle)
    (asks : (site.kindOf ref).consults watched.scene.event = true) {verdict : Verdict}
    {calls : List Call} (checked : ((site.kindOf ref).check (some oracle)
      watched.scene.event).outcome = (.ok verdict, calls)) (again : Trigger) :
    settle (guard again ref) watched = settle (follow again (site.kindOf ref).id verdict)
      ⟨watched.scene.noting calls, watched.history ++ [.asked ref]⟩ := by
  subst stays
  have isBound : (watched.scene.site.guards.get ref).authority.isSome = true := by
    obtain ⟨authority, eq, -⟩ := Option.map_eq_some_iff.1 bound
    rw [eq]
    rfl
  rw [settle_guard rfl, GuardPost.consultation_eq isBound asks, bound]
  dsimp only
  rw [checked]

/-- **Guards leave an event alone** that has an error. -/
theorem settle_guard_of_isError (failed : watched.scene.event.isError = true) (again : Trigger)
    (ref : GuardRef) : settle (guard again ref) watched = (.ok (), watched) := by
  have idle := GuardKind.not_applies_of_isError failed (watched.scene.site.kindOf ref)
  have silent : (watched.scene.site.kindOf ref).consults watched.scene.event = false := by
    rw [GuardKind.consults, idle, Bool.false_and]
  exact settle_guard_of_skips rfl silent (GuardKind.check_of_not_applies idle _) again

/-- What the **turn** of a guard comes to on an event that others have accepted, given what the
guards allow and the identities that they learn. -/
inductive Turn (site : Site) (before : Event) (allows : GuardRef → Word → Prop)
    (identity : GuardRef → Value) (asked : List GuardRef) (ref : GuardRef) :
    Except Failure Unit × Watched → Prop where
  /-- The guard has nothing to judge, or its kind has decided. -/
  | skipped {after : Watched}
    (skips : ((site.kindOf ref).target? before).isSome = false ∨
      site.kindOf ref ∈ asked.map site.kindOf)
    (passed : after.Passed site before allows asked) :
    Turn site before allows identity asked ref (.ok (), after)
  /-- What the guard would ask for cannot be named. -/
  | failed {failure : Failure} {after : Watched}
    (judges : ((site.kindOf ref).target? before).isSome = true ∧
      site.kindOf ref ∉ asked.map site.kindOf)
    (unnamed : ¬ before.Named) (passed : after.Passed site before allows asked) :
    Turn site before allows identity asked ref (.error failure, after)
  /-- The guard accepts the event. -/
  | passed {after : Watched}
    (judges : ((site.kindOf ref).target? before).isSome = true ∧
      site.kindOf ref ∉ asked.map site.kindOf)
    (passed : after.Passed site before allows (asked ++ [ref])) :
    Turn site before allows identity asked ref (.ok (), after)
  /-- The guard denies the event. -/
  | denied {after : Watched}
    (judges : ((site.kindOf ref).target? before).isSome = true ∧
      site.kindOf ref ∉ asked.map site.kindOf)
    (short : (identity ref).holdsLong = false)
    (denied : after.DeniedBy site before allows asked ref .errorTriggered 1) :
    Turn site before allows identity asked ref (.ok (), after)
  /-- The guard denies the event, and cannot put that on record. -/
  | halted {after : Watched}
    (judges : ((site.kindOf ref).target? before).isSome = true ∧
      site.kindOf ref ∉ asked.map site.kindOf)
    (long : (identity ref).holdsLong = true)
    (denied : after.DeniedBy site before allows asked ref .denied 0) :
    Turn site before allows identity asked ref (.error (.value (.tooManyDigits none)), after)

/-- A guard that accepts the event passes it on. -/
theorem passed_letPass (passed : watched.Passed site before allows asked)
    (accepts : (site.kindOf ref).Accepts before (allows ref)) (calls : List Call) :
    Watched.Passed site before allows (asked ++ [ref])
      ⟨{ watched.scene.noting calls with event := (site.kindOf ref).letPass watched.scene.event },
        watched.history ++ [.asked ref] ++ [.moved (site.kindOf ref).id .allowed]⟩ where
  stays := passed.stays
  same := by
    obtain ⟨outcomes, same⟩ := passed.same
    exact ⟨_, by rw [same]; rfl⟩
  outcome other := by
    show ((site.kindOf ref).letPass watched.scene.event).outcome other.id = _
    rw [GuardKind.outcome_letPass, passed.outcome other, List.map_append]
    by_cases same : other = site.kindOf ref <;> simp [same]
  accepted := by
    rw [List.forall_mem_append]
    exact ⟨passed.accepted, by simpa using accepts⟩
  asks := by
    show askedIn (watched.history ++ [.asked ref] ++ _) = _
    rw [askedIn_append, askedIn_append, passed.asks]
    exact List.append_nil _
  calm := by
    show errorRuns (watched.history ++ [.asked ref] ++ _) = 0
    rw [errorRuns_append, errorRuns_append, passed.calm]
    rfl

/-- Bringing the event to an outcome decides for the kind of the guard and no other. -/
theorem outcome_brought (passed : watched.Passed site before allows asked) {reached : Outcome}
    {turned : Event} (brought : Event.Brought (site.kindOf ref) reached watched.scene.event turned)
    (kind : GuardKind) : turned.outcome kind.id =
      if kind = site.kindOf ref then reached
      else if kind ∈ asked.map site.kindOf then .allowed else .unchecked := by
  by_cases own : kind = site.kindOf ref
  · rw [own, if_pos rfl]
    exact brought.outcome
  · rw [if_neg own, brought.others _ fun eq => own (GuardKind.id_injective eq)]
    exact passed.outcome kind

/-- A guard that denies the event without a record stops halfway, and runs no error stage. -/
theorem exists_settle_halfway (passed : watched.Passed site before allows asked)
    (rejects : ¬ (site.kindOf ref).Accepts before (allows ref)) {turned : Event}
    (denied : Event.Brought (site.kindOf ref) .denied watched.scene.event turned)
    (again : Trigger) (failure : Failure) (calls : List Call) :
    ∃ after, settle (follow again (site.kindOf ref).id (.unrecorded turned failure))
        ⟨watched.scene.noting calls, watched.history ++ [.asked ref]⟩ = (.error failure, after) ∧
      after.DeniedBy site before allows asked ref .denied 0 := by
  refine ⟨_, settle_bind_of_ok (settle_goOn _ _ _) _, denied.error, outcome_brought passed denied,
    passed.accepted, rejects, ?_, ?_, ?_⟩
  · show askedIn (watched.history ++ [.asked ref] ++ [.moved _ .denied]) = _
    rw [askedIn_append, askedIn_append, passed.asks]
    exact List.append_nil _
  · show errorRuns (watched.history ++ [.asked ref] ++ [.moved _ .denied]) = 0
    rw [errorRuns_append, errorRuns_append, passed.calm]
    rfl
  · obtain ⟨params, outcomes, eq⟩ := denied.rest
    show turned.stopped = false
    rw [eq]
    exact passed.running

/-- A guard that denies the event on record runs the error stage. -/
theorem exists_settle_denial (passed : watched.Passed site before allows asked)
    (answering : AnswersDenials again site before bus)
    (rejects : ¬ (site.kindOf ref).Accepts before (allows ref)) {turned : Event}
    (denied : Event.Denied (site.kindOf ref) watched.scene.event turned) (calls : List Call) :
    ∃ after, settle (follow again (site.kindOf ref).id (.denied turned bus))
        ⟨watched.scene.noting calls, watched.history ++ [.asked ref]⟩ = (.ok (), after) ∧
      after.DeniedBy site before allows asked ref .errorTriggered 1 := by
  obtain ⟨outcomes, same⟩ := passed.same
  obtain ⟨params, outcomes', rest⟩ := denied.rest
  have announced : before.Announced (Run.startStage (some Stage.dispatchError.name) turned) := by
    refine ⟨⟨site.kindOf ref, denied.error⟩, ⟨before.response, before.result, before.pages, params,
      outcomes', ?_⟩⟩
    rw [rest, same]
    rfl
  obtain ⟨_, settled, _, _, _, _, rfl⟩ := answering
    ⟨{ watched.scene.noting calls with event := turned },
      watched.history ++ [.asked ref] ++ denial (site.kindOf ref).id⟩ passed.stays announced
  have outcome := outcome_brought passed denied
  refine ⟨_, (settle_bind_of_ok (settle_goOn _ _ _) _).trans settled, denied.error, outcome,
    passed.accepted, rejects, ?_, ?_, rfl⟩
  · show askedIn (watched.history ++ [.asked ref] ++ denial (site.kindOf ref).id ++
      [.started bus Stage.dispatchError.name]) = _
    rw [askedIn_append, askedIn_append, askedIn_append, passed.asks]
    exact (List.append_nil _).trans (List.append_nil _)
  · show errorRuns (watched.history ++ [.asked ref] ++ denial (site.kindOf ref).id ++
      [.started bus Stage.dispatchError.name]) = 1
    rw [errorRuns_append, errorRuns_append, errorRuns_append, passed.calm]
    rfl

/-- **One guard** skips an event that others have accepted, accepts it, or denies it; and then it
runs the error stage, unless the identity cannot be put on record. Or it fails because it cannot
name what to ask for. -/
theorem turn_guard (fresh : before.Fresh bus) (answering : AnswersDenials again site before bus)
    {oracle : Oracle}
    (bound : (site.guards.get ref).authority.map site.oracle = some oracle)
    (answers : oracle.Answers (allows ref) (identity ref))
    (passed : watched.Passed site before allows asked) :
    Turn site before allows identity asked ref (settle (guard again ref) watched) := by
  obtain ⟨outcomes, same⟩ := passed.same
  have sameTarget : (site.kindOf ref).target? watched.scene.event =
      (site.kindOf ref).target? before := by
    rw [same]
    rfl
  have applies : (site.kindOf ref).applies watched.scene.event = true ↔ _ :=
    GuardKind.applies_iff_of_fresh fresh ⟨_, _, _, same⟩
  rcases judges_or_skips (fun kind => (kind.target? before).isSome) (asked.map site.kindOf)
    (site.kindOf ref) with judges | skips
  · have applies := applies.2 ((passed.outcome _).trans (if_neg judges.2))
    obtain ⟨target, found⟩ := Option.isSome_iff_exists.1 judges.1
    have found' := sameTarget.trans found
    cases candidates : target.candidates with
    | error failure =>
      -- the names are formed before the first question
      have silent : (site.kindOf ref).consults watched.scene.event = false := by
        rw [GuardKind.consults, found', Option.any_some, candidates]
        exact Bool.and_false _
      have unnamed : ¬ before.Named := fun named => by
        obtain ⟨names, eq⟩ := named _ target found
        cases candidates.symm.trans eq
      have checked : ((site.kindOf ref).check ((site.guards.get ref).authority.map site.oracle)
          watched.scene.event).outcome = (.error failure, []) := by
        rw [bound, GuardKind.check_of_target applies found', candidates]
        rfl
      rw [settle_guard_of_fails passed.stays silent checked]
      exact .failed judges unnamed passed
    | ok names =>
      obtain ⟨subject, named⟩ := GuardKind.exists_subject fresh found candidates
      have asking : (site.kindOf ref).consults watched.scene.event = true := by
        rw [GuardKind.consults, applies, found', Option.any_some, candidates]
        rfl
      have onBus : watched.scene.event.bus = some bus := by
        rw [same]
        exact fresh.bound
      obtain ⟨verdict, returns, verdictIs⟩ :=
        GuardKind.exists_verdict answers applies onBus found' candidates named
      obtain ⟨calls, checked, -⟩ := returns.exists_outcome
      rw [settle_guard_of_asks passed.stays bound asking checked]
      rcases verdictIs with ⟨allowed, rfl⟩ | ⟨rejected, onRecord, halfway⟩
      · have accepts : (site.kindOf ref).Accepts before (allows ref) :=
          ⟨target, names, found, candidates, allowed⟩
        exact .passed judges (passed_letPass passed accepts calls)
      · have rejects : ¬ (site.kindOf ref).Accepts before (allows ref) := by
          rintro ⟨target', names', found', candidates', allowed⟩
          cases found.symm.trans found'
          cases candidates.symm.trans candidates'
          exact rejected allowed
        cases size : (identity ref).holdsLong with
        | false =>
          obtain ⟨turned, rfl, denied, -⟩ := onRecord size
          obtain ⟨after, settled, deniedBy⟩ :=
            exists_settle_denial passed answering rejects denied calls
          rw [settled]
          exact .denied judges size deniedBy
        | true =>
          obtain ⟨turned, rfl, denied⟩ := halfway size
          obtain ⟨after, settled, deniedBy⟩ :=
            exists_settle_halfway passed rejects denied again _ calls
          rw [settled]
          exact .halted judges size deniedBy
  · have idle : (site.kindOf ref).check ((site.guards.get ref).authority.map site.oracle)
          watched.scene.event = pure .skip ∧
        (site.kindOf ref).consults watched.scene.event = false := by
      rcases skips with other | decided
      · have missing := sameTarget.trans (Option.not_isSome_iff_eq_none.1 (by simp [other]))
        refine ⟨GuardKind.check_of_target_none missing _, ?_⟩
        rw [GuardKind.consults, missing]
        exact Bool.and_false _
      · have decides : (site.kindOf ref).applies watched.scene.event = false := by
          rw [Bool.eq_false_iff]
          intro still
          cases (applies.1 still).symm.trans ((passed.outcome _).trans (if_pos decided))
        refine ⟨GuardKind.check_of_not_applies decides _, ?_⟩
        rw [GuardKind.consults, decides, Bool.false_and]
    rw [settle_guard_of_skips passed.stays idle.2 idle.1]
    exact .skipped skips passed

end Watch

end GuardedDispatch
