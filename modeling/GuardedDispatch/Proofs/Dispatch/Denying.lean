import GuardedDispatch.Proofs.Dispatch.Stages
import GuardedDispatch.Proofs.Dispatch.Turns

/-! # The first denial decides

What a watched trigger of the route stage comes to when guards of any kinds and priorities listen
there, each with an oracle of its own. Of each kind that the event concerns, the first guard in the
order of running is the one to judge. The guards that judge are asked in this order, up to the first
that denies the event; its denial runs the error stage, once, and after that the event has an error,
which no guard looks behind. A denial that cannot be put on record ends the stage halfway.

* **`Watch.first_denial_decides`** is all of this about one trigger.
* `Watch.ends_guards` is the run of the guards, turn by turn. -/

namespace GuardedDispatch

namespace Watch

variable {site : Site} {before : Event} {allows : GuardRef → Word → Prop}
  {identity : GuardRef → Value} {bus : BusRef} {again : Trigger} {asked : List GuardRef}
  {ref : GuardRef} {watched : Watched}

/-! ## Listeners one after the other -/

/-- A listener that returns and leaves the event running is followed by the others. -/
theorem settle_runListeners_of_running {η : Type} {invoke : η → Watch Value} {listener : η}
    {watched middle : Watched} {value : Value}
    (ran : settle (invoke listener) watched = (.ok value, middle))
    (running : middle.scene.event.stopped = false) (rest : List η) :
    settle (runListeners invoke (plain Run.isStopped) (listener :: rest)) watched =
      match settle (runListeners invoke (plain Run.isStopped) rest) middle with
      | (.ok responses, after) =>
        (.ok { responses with values := value :: responses.values }, after)
      | (.error failure, after) => (.error failure, after) := by
  have looks : settle (plain Run.isStopped) middle = (.ok false, middle) := by
    rw [← running]
    rfl
  rw [runListeners, settle_bind_of_ok ran, settle_bind_of_ok looks]
  simp only [Bool.false_eq_true, if_false]
  rw [settle_bind]
  rcases settle (runListeners invoke (plain Run.isStopped) rest) middle with ⟨_ | _, _⟩ <;> rfl

/-- A guard that listens has nothing to give. -/
theorem settle_handler_guard (cast : Script → Conduct) (again : Trigger) (ref : GuardRef)
    (watched : Watched) :
    settle (handler cast again (.guard ref)) watched =
      match settle (guard again ref) watched with
      | (.ok _, after) => (.ok .null, after)
      | (.error failure, after) => (.error failure, after) := by
  rw [handler, settle_bind]
  rcases settle (guard again ref) watched with ⟨_ | value, after⟩ <;> rfl

/-- **After a denial**, the guards that are left change nothing. -/
theorem exists_settle_guards_of_isError (cast : Script → Conduct) (again : Trigger)
    (failed : watched.scene.event.isError = true)
    (running : watched.scene.event.stopped = false) : ∀ refs : List GuardRef, ∃ responses,
    settle (runListeners (handler cast again) (plain Run.isStopped) (refs.map .guard)) watched =
      (.ok responses, watched)
  | [] => ⟨_, rfl⟩
  | ref :: rest => by
    obtain ⟨responses, eq⟩ := exists_settle_guards_of_isError cast again failed running rest
    have ran : settle (handler cast again (.guard ref)) watched = (.ok .null, watched) := by
      rw [settle_handler_guard, settle_guard_of_isError failed]
    exact ⟨_, by rw [List.map_cons, settle_runListeners_of_running ran running, eq]⟩

/-- What guards **come to** if those to judge are given: all of them were asked and accepted the
event, or so did some of them before one denied it or failed. -/
inductive Ends (site : Site) (before : Event) (allows : GuardRef → Word → Prop)
    (identity : GuardRef → Value) (firsts : List GuardRef) :
    Except Failure Responses × Watched → Prop where
  /-- All accepted the event. -/
  | passed {responses : Responses} {after : Watched}
    (passed : after.Passed site before allows firsts) :
    Ends site before allows identity firsts (.ok responses, after)
  /-- A guard could not name what to ask for. -/
  | failed {failure : Failure} {asked : List GuardRef} {after : Watched} (early : asked <+: firsts)
    (unnamed : ¬ before.Named) (passed : after.Passed site before allows asked) :
    Ends site before allows identity firsts (.error failure, after)
  /-- A guard denied the event. -/
  | denied {responses : Responses} {asked : List GuardRef} {denier : GuardRef} {after : Watched}
    (early : asked ++ [denier] <+: firsts) (short : (identity denier).holdsLong = false)
    (denied : after.DeniedBy site before allows asked denier .errorTriggered 1) :
    Ends site before allows identity firsts (.ok responses, after)
  /-- A guard denied the event, and could not put that on record. -/
  | halted {asked : List GuardRef} {denier : GuardRef} {after : Watched}
    (early : asked ++ [denier] <+: firsts) (long : (identity denier).holdsLong = true)
    (denied : after.DeniedBy site before allows asked denier .denied 0) :
    Ends site before allows identity firsts (.error (.value (.tooManyDigits none)), after)

/-- What was given before does not matter to how guards end. -/
theorem Ends.prepend {firsts : List GuardRef} {settled : Except Failure Responses × Watched}
    (value : Value) : Ends site before allows identity firsts settled →
    Ends site before allows identity firsts
      (match settled with
      | (.ok responses, after) =>
        (.ok { responses with values := value :: responses.values }, after)
      | (.error failure, after) => (.error failure, after)) := by
  intro ends
  cases ends with
  | passed passed => exact .passed passed
  | failed early unnamed passed => exact .failed early unnamed passed
  | denied early short denied => exact .denied early short denied
  | halted early long denied => exact .halted early long denied

/-- The guards of a list that are **to judge** an event if the kinds of those asked have decided. -/
def firstsAfter (site : Site) (before : Event) (asked refs : List GuardRef) : List GuardRef :=
  asked ++ firstsOf site.kindOf (fun kind => (kind.target? before).isSome)
    (asked.map site.kindOf) refs

/-- A guard that judges comes right behind those asked. -/
theorem prefix_firstsAfter (judges : ((site.kindOf ref).target? before).isSome = true ∧
      site.kindOf ref ∉ asked.map site.kindOf) (rest : List GuardRef) :
    asked ++ [ref] <+: firstsAfter site before asked (ref :: rest) := by
  rw [firstsAfter, firstsOf_of_judges judges.1 judges.2]
  exact ⟨_, List.append_assoc _ _ _⟩

/-- **Guards one after the other**, on an event that the guards asked so far have accepted. -/
theorem ends_guards (fresh : before.Fresh bus) (cast : Script → Conduct)
    (answering : AnswersDenials again site before bus) :
    ∀ (refs : List GuardRef) (asked : List GuardRef) (watched : Watched),
    (∀ ref ∈ refs, ∃ oracle,
      (site.guards.get ref).authority.map site.oracle = some oracle ∧
        oracle.Answers (allows ref) (identity ref)) →
    watched.Passed site before allows asked →
    Ends site before allows identity (firstsAfter site before asked refs)
      (settle (runListeners (handler cast again) (plain Run.isStopped) (refs.map .guard)) watched)
  | [], asked, watched, _, passed => by
    refine .passed ?_
    rw [firstsAfter, firstsOf, List.append_nil]
    exact passed
  | ref :: rest, asked, watched, bound, passed => by
    obtain ⟨oracle, isOracle, answers⟩ := bound ref List.mem_cons_self
    have others := fun other mem => bound other (List.mem_cons_of_mem ref mem)
    have turned := turn_guard fresh answering isOracle answers passed
    have given := settle_handler_guard cast again ref watched
    generalize settle (guard again ref) watched = settled at turned given
    rw [List.map_cons]
    cases turned with
    | @skipped middle skips passed =>
      have same : firstsAfter site before asked (ref :: rest) =
          firstsAfter site before asked rest :=
        congrArg (asked ++ ·) (firstsOf_of_skips skips rest)
      rw [settle_runListeners_of_running given passed.running, same]
      exact .prepend _ (ends_guards fresh cast answering rest asked middle others passed)
    | failed judges unnamed passed =>
      rw [runListeners, settle_bind, given]
      exact .failed (List.prefix_append asked _) unnamed passed
    | @passed middle judges passed =>
      have same : firstsAfter site before asked (ref :: rest) =
          firstsAfter site before (asked ++ [ref]) rest := by
        rw [firstsAfter, firstsOf_of_judges judges.1 judges.2, firstsAfter, List.map_append,
          List.append_assoc]
        rfl
      rw [settle_runListeners_of_running given passed.running, same]
      exact .prepend _ (ends_guards fresh cast answering rest _ middle others passed)
    | denied judges short denied =>
      obtain ⟨responses, eq⟩ :=
        exists_settle_guards_of_isError cast again denied.isError denied.running rest
      rw [settle_runListeners_of_running given denied.running, eq]
      exact .denied (prefix_firstsAfter judges rest) short denied
    | halted judges long denied =>
      rw [runListeners, settle_bind, given]
      exact .halted (prefix_firstsAfter judges rest) long denied

/-! ## Stages -/

/-- **A stage** opens, and its listeners run in order. -/
theorem settle_trigger (cast : Script → Conduct) (depth : Nat) {stage : String}
    {order : List (Subscription Handler)}
    (inOrder : (watched.scene.site.buses.get bus).RunsInOrder stage order) :
    settle (trigger cast (depth + 1) bus (some stage)) watched =
      settle (runListeners (handler cast (trigger cast depth)) (plain Run.isStopped)
        (order.map (·.listener))) (watched.opened bus stage) := by
  have found : (watched.scene.site.buses.get bus).listeners
      (Run.startStage (some stage) watched.scene.event).name = .ok order := inOrder.found
  rw [← Run.runListeners_map, trigger, settle_bind, settle_start]
  dsimp only
  rw [found]
  rfl

/-- A listener that **only answers**: it returns, and writes nothing but the response, the result
and the pages of an event whose denial is announced. -/
def OnlyAnswers (cast : Script → Conduct) (again : Trigger) (site : Site) (before : Event)
    (listener : Handler) : Prop :=
  ∀ watched : Watched, watched.scene.site = site → before.Announced watched.scene.event →
    ∃ value after, settle (handler cast again listener) watched = (.ok value, after) ∧
      watched.Answered after

/-- **Listeners that only answer** do so one after the other. -/
theorem exists_settle_answers {cast : Script → Conduct} : ∀ {listeners : List Handler},
    (∀ listener ∈ listeners, OnlyAnswers cast again site before listener) →
    ∀ watched : Watched, watched.scene.site = site → before.Announced watched.scene.event →
    ∃ responses after, settle (runListeners (handler cast again) (plain Run.isStopped) listeners)
        watched = (.ok responses, after) ∧ watched.Answered after
  | [], _, watched, _, _ => ⟨_, _, rfl, .refl watched⟩
  | listener :: rest, each, watched, stays, announced => by
    obtain ⟨value, middle, ran, answered⟩ :=
      each listener List.mem_cons_self watched stays announced
    have announced' := answered.announced announced
    obtain ⟨responses, after, eq, answered'⟩ :=
      exists_settle_answers (fun other mem => each other (List.mem_cons_of_mem _ mem)) middle
        (answered.site.trans stays) announced'
    exact ⟨_, after, by rw [settle_runListeners_of_running ran announced'.running, eq],
      answered.trans answered'⟩

/-- **The error stage answers denials** if its listeners only answer. -/
theorem answersDenials_trigger {cast : Script → Conduct} {depth : Nat}
    (each : ∀ subscription ∈ (site.buses.get bus).onStage Stage.dispatchError.name,
      subscription.priority.extent?.isSome = true ∧
        OnlyAnswers cast (trigger cast depth) site before subscription.listener) :
    AnswersDenials (trigger cast (depth + 1)) site before bus := by
  intro watched stays announced
  subst stays
  obtain ⟨order, inOrder⟩ := Bus.exists_runsInOrder fun subscription mem =>
    (each subscription mem).1
  have only : ∀ listener ∈ order.map (·.listener),
      OnlyAnswers cast (trigger cast depth) watched.scene.site before listener := by
    intro listener mem
    obtain ⟨subscription, attached, rfl⟩ := List.mem_map.1 mem
    exact (each subscription (inOrder.same.mem_iff.1 attached)).2
  obtain ⟨responses, after, settled, answered⟩ := exists_settle_answers only
    (watched.opened bus Stage.dispatchError.name) rfl announced
  exact ⟨after, by rw [Run.settle_discard, settle_trigger cast depth inOrder, settled], answered⟩

/-! ## Decisions -/

/-- A bus where **guards alone** listen on the route stage, each with an oracle that answers, and
where what listens on the error stage only answers. -/
structure Guarded (cast : Script → Conduct) (depth : Nat) (scene : Scene) (bus : BusRef)
    (allows : GuardRef → Word → Prop) (identity : GuardRef → Value) : Prop where
  guards : ∀ subscription ∈ (scene.site.buses.get bus).onStage Stage.route.name,
    subscription.priority.extent?.isSome = true ∧ ∃ ref, subscription.listener = .guard ref ∧
      ∃ oracle, (scene.site.guards.get ref).authority.map scene.site.oracle = some oracle ∧
        oracle.Answers (allows ref) (identity ref)
  answers : ∀ subscription ∈ (scene.site.buses.get bus).onStage Stage.dispatchError.name,
    subscription.priority.extent?.isSome = true ∧
      OnlyAnswers cast (trigger cast depth) scene.site scene.event subscription.listener

/-- The guards among listeners. -/
def guardsOf (order : List (Subscription Handler)) : List GuardRef :=
  order.filterMap fun subscription =>
    match subscription.listener with
    | .guard ref => some ref
    | _ => none

/-- Listeners that are all guards are their guards. -/
theorem map_listener_eq : ∀ {order : List (Subscription Handler)},
    (∀ subscription ∈ order, ∃ ref, subscription.listener = .guard ref) →
    order.map (·.listener) = (guardsOf order).map .guard
  | [], _ => rfl
  | subscription :: rest, guards => by
    obtain ⟨ref, isGuard⟩ := guards subscription List.mem_cons_self
    have others := map_listener_eq fun other mem => guards other (List.mem_cons_of_mem _ mem)
    have head : guardsOf (subscription :: rest) = ref :: guardsOf rest := by
      rw [guardsOf, List.filterMap_cons, isGuard]
      rfl
    rw [head, List.map_cons, List.map_cons, isGuard, others]

/-- Those of the guards in the order of running that are **to judge** an event. -/
structure ToJudge (site : Site) (before : Event) (refs firsts : List GuardRef) : Prop where
  /-- They stand in the order of running. -/
  inOrder : firsts.Sublist refs
  /-- They are of different kinds. -/
  once : (firsts.map site.kindOf).Nodup
  /-- They are the first guards of the kinds that the event concerns. -/
  first : ∀ ref, ref ∈ firsts ↔ before.Concerns (site.kindOf ref) ∧
    refs.find? (site.kindOf · == site.kindOf ref) = some ref

/-- What guards **decide** about an event, given the guards in the order of running and those of
them that are to judge. -/
structure Decides (site : Site) (before : Event) (allows : GuardRef → Word → Prop)
    (identity : GuardRef → Value) (refs firsts : List GuardRef)
    (result : Except Failure Responses) (after : Watched) : Prop
    extends ToJudge site before refs firsts where
  /-- Nobody else is asked, and nobody before his turn. -/
  early : askedIn after.history <+: firsts
  /-- The event ends without an error and an error stage iff all who are asked accept it. -/
  calm : (after.scene.event.isError = false ∧ errorRuns after.history = 0) ↔
    ∀ ref ∈ askedIn after.history, (site.kindOf ref).Accepts before (allows ref)
  /-- Who does not accept it was the last to be asked; its error is that of the event, and the error
  stage ran once. -/
  denial : ∀ ref ∈ askedIn after.history, ¬ (site.kindOf ref).Accepts before (allows ref) →
    (∃ asked, askedIn after.history = asked ++ [ref] ∧
      ∀ other ∈ asked, (site.kindOf other).Accepts before (allows other)) ∧
    after.scene.event.error = .str (site.kindOf ref).errorKind ∧
    ((identity ref).holdsLong = false → errorRuns after.history = 1 ∧
      after.scene.event.outcome (site.kindOf ref).id = .errorTriggered)
  /-- Only if the identity cannot be put on record, the stage fails with the denial halfway, and no
  error stage ran. -/
  halfway : ∀ ref ∈ askedIn after.history, ¬ (site.kindOf ref).Accepts before (allows ref) →
    (identity ref).holdsLong = true → errorRuns after.history = 0 ∧
      after.scene.event.outcome (site.kindOf ref).id = .denied ∧
      result = .error (.value (.tooManyDigits none))
  /-- The kinds of those who accept it have allowed it. -/
  allowed : ∀ ref ∈ askedIn after.history, (site.kindOf ref).Accepts before (allows ref) →
    after.scene.event.outcome (site.kindOf ref).id = .allowed
  /-- Kinds of which nobody is asked have not decided. -/
  unchecked : ∀ kind, (∀ ref ∈ askedIn after.history, site.kindOf ref ≠ kind) →
    after.scene.event.outcome kind.id = .unchecked
  /-- If all that guards ask for can be named, the stage returns unless a denial ends it halfway,
  and everybody is asked who is to judge, unless one of them denies the event. -/
  complete : before.Named →
    ((∃ responses, result = .ok responses) ∨ ∃ ref ∈ askedIn after.history,
      ¬ (site.kindOf ref).Accepts before (allows ref) ∧ (identity ref).holdsLong = true) ∧
    ((∀ ref ∈ askedIn after.history, (site.kindOf ref).Accepts before (allows ref)) →
      askedIn after.history = firsts)

/-- The guards that are to judge. -/
theorem toJudge_firstsAfter (site : Site) (before : Event) (refs : List GuardRef) :
    ToJudge site before refs (firstsAfter site before [] refs) where
  inOrder := firstsOf_sublist _ refs
  once := nodup_firstsOf _ refs
  first ref := by
    rw [← GuardKind.isSome_target?_iff]
    exact mem_firstsOf_iff.trans (and_congr_right fun _ => and_iff_right List.not_mem_nil)

variable {refs firsts : List GuardRef} {result : Except Failure Responses} {after : Watched}

/-- What is decided if all who are asked accept the event. -/
theorem decides_of_passed (toJudge : ToJudge site before refs firsts)
    (sound : before.isError = false) (early : asked <+: firsts)
    (passed : after.Passed site before allows asked)
    (complete : before.Named → (∃ responses, result = .ok responses) ∧ asked = firsts) :
    Decides site before allows identity refs firsts result after := by
  have accepted := passed.accepted
  have outcome := passed.outcome
  rw [← passed.asks] at early complete accepted outcome
  refine ⟨toJudge, early, iff_of_true ⟨?_, passed.calm⟩ accepted, ?_, ?_, ?_, ?_, ?_⟩
  · obtain ⟨outcomes, same⟩ := passed.same
    rw [same]
    exact sound
  · exact fun ref mem rejects => absurd (accepted ref mem) rejects
  · exact fun ref mem rejects => absurd (accepted ref mem) rejects
  · intro ref mem _
    rw [outcome, if_pos (List.mem_map_of_mem mem)]
  · intro kind nobody
    rw [outcome, if_neg]
    rintro mem
    obtain ⟨ref, isAsked, same⟩ := List.mem_map.1 mem
    exact nobody ref isAsked same
  · exact fun named => ⟨.inl (complete named).1, fun _ => (complete named).2⟩

/-- What is decided if one who is asked denies the event, and what comes of that depends on whether
the identity can be put on record. -/
theorem decides_of_denied (toJudge : ToJudge site before refs firsts) {denier : GuardRef}
    {reached : Outcome} {runs : Nat} (early : asked ++ [denier] <+: firsts)
    (denied : after.DeniedBy site before allows asked denier reached runs)
    (short : (identity denier).holdsLong = false →
      reached = .errorTriggered ∧ runs = 1 ∧ ∃ responses, result = .ok responses)
    (long : (identity denier).holdsLong = true →
      reached = .denied ∧ runs = 0 ∧ result = .error (.value (.tooManyDigits none))) :
    Decides site before allows identity refs firsts result after := by
  obtain ⟨error, outcome, accepted, rejected, asks, ran, -⟩ := id denied
  -- the denier is of another kind than those asked before
  have distinct : site.kindOf denier ∉ asked.map site.kindOf := by
    have nodup := toJudge.once.sublist (early.sublist.map site.kindOf)
    rw [List.map_append, List.map_singleton, List.nodup_append] at nodup
    exact fun mem => nodup.2.2 _ mem _ List.mem_cons_self rfl
  have members : ∀ ref, ref ∈ askedIn after.history ↔ ref ∈ asked ∨ ref = denier := by
    intro ref
    rw [asks, List.mem_append, List.mem_singleton]
  have last : ∀ ref ∈ askedIn after.history, ¬ (site.kindOf ref).Accepts before (allows ref) →
      ref = denier := fun ref mem rejects =>
    ((members ref).1 mem).resolve_left fun before => rejects (accepted ref before)
  refine ⟨toJudge, asks ▸ early, ?_, ?_, ?_, ?_, ?_, ?_⟩
  · refine iff_of_false (fun calm => ?_) fun all => rejected (all denier ((members _).2 (.inr rfl)))
    rw [denied.isError] at calm
    cases calm.1
  · intro ref mem rejects
    obtain rfl := last ref mem rejects
    refine ⟨⟨asked, asks, accepted⟩, error, fun isShort => ?_⟩
    obtain ⟨rfl, rfl, -⟩ := short isShort
    exact ⟨ran, (outcome _).trans (if_pos rfl)⟩
  · intro ref mem rejects isLong
    obtain rfl := last ref mem rejects
    obtain ⟨rfl, rfl, failed⟩ := long isLong
    exact ⟨ran, (outcome _).trans (if_pos rfl), failed⟩
  · intro ref mem accepts
    rcases (members ref).1 mem with before | rfl
    · have mem := List.mem_map_of_mem (f := site.kindOf) before
      have other : site.kindOf ref ≠ site.kindOf denier := fun same => distinct (same ▸ mem)
      rw [outcome, if_neg other, if_pos mem]
    · exact absurd accepts rejected
  · intro kind nobody
    rw [outcome, if_neg fun same => nobody denier ((members _).2 (.inr rfl)) same.symm, if_neg]
    intro mem
    obtain ⟨ref, isAsked, same⟩ := List.mem_map.1 mem
    exact nobody ref ((members _).2 (.inl isAsked)) same
  · refine fun _ => ⟨?_, fun all => absurd (all denier ((members _).2 (.inr rfl))) rejected⟩
    cases size : (identity denier).holdsLong with
    | false => exact .inl (short size).2.2
    | true => exact .inr ⟨denier, (members _).2 (.inr rfl), rejected, size⟩

/-- However guards end, this is what they decide. -/
theorem Ends.decides {settled : Except Failure Responses × Watched}
    (ends : Ends site before allows identity firsts settled)
    (toJudge : ToJudge site before refs firsts) (sound : before.isError = false) :
    Decides site before allows identity refs firsts settled.1 settled.2 := by
  cases ends with
  | passed passed =>
    exact decides_of_passed toJudge sound List.prefix_rfl passed fun _ => ⟨⟨_, rfl⟩, rfl⟩
  | failed early unnamed passed =>
    exact decides_of_passed toJudge sound early passed fun named => absurd named unnamed
  | denied early short denied =>
    refine decides_of_denied toJudge early denied (fun _ => ⟨rfl, rfl, _, rfl⟩) fun long => ?_
    cases short.symm.trans long
  | halted early long denied =>
    refine decides_of_denied toJudge early denied (fun short => ?_) fun _ => ⟨rfl, rfl, rfl⟩
    cases short.symm.trans long

/-- **The first denial decides.** When the route stage of a fresh event is triggered on a bus where
guards alone listen, the first guards of the kinds that it concerns are asked in the order of
running, up to the first that denies it, and the error stage runs once for that one. Where a guard
learns an identity that cannot be put on record, its denial ends the stage halfway. With scripts
that act as they say, this is the trigger of the pipeline. -/
theorem first_denial_decides (cast : Script → Conduct) (depth : Nat) {scene : Scene} {bus : BusRef}
    {allows : GuardRef → Word → Prop} {identity : GuardRef → Value}
    (fresh : scene.event.Fresh bus) (guarded : Guarded cast depth scene bus allows identity) :
    (∃ order firsts, (scene.site.buses.get bus).RunsInOrder Stage.route.name order ∧
      let ran := settle (trigger cast (depth + 2) bus (some Stage.route.name)) ⟨scene, []⟩
      Decides scene.site scene.event allows identity (guardsOf order) firsts ran.1 ran.2) ∧
    Mirrors (trigger .ofScript (depth + 2) bus (some Stage.route.name))
      (Run.trigger (depth + 2) bus (some Stage.route.name)) := by
  refine ⟨?_, mirrors_trigger (depth + 2) bus _⟩
  obtain ⟨order, inOrder⟩ := Bus.exists_runsInOrder fun subscription mem =>
    (guarded.guards subscription mem).1
  have areGuards : ∀ subscription ∈ order, ∃ ref, subscription.listener = .guard ref := by
    intro subscription mem
    obtain ⟨-, ref, isGuard, -⟩ := guarded.guards subscription (inOrder.same.mem_iff.1 mem)
    exact ⟨ref, isGuard⟩
  have bound : ∀ ref ∈ guardsOf order, ∃ oracle,
      (scene.site.guards.get ref).authority.map scene.site.oracle = some oracle ∧
        oracle.Answers (allows ref) (identity ref) := by
    intro ref mem
    have isListener : Handler.guard ref ∈ order.map (·.listener) := by
      rw [map_listener_eq areGuards]
      exact List.mem_map_of_mem mem
    obtain ⟨subscription, attached, isGuard⟩ := List.mem_map.1 isListener
    obtain ⟨-, ref', isGuard', answers⟩ :=
      guarded.guards subscription (inOrder.same.mem_iff.1 attached)
    cases isGuard.symm.trans isGuard'
    exact answers
  have starts : Watched.Passed scene.site scene.event allows []
      (Watched.opened ⟨scene, []⟩ bus Stage.route.name) :=
    ⟨rfl, ⟨scene.event.outcomes, rfl⟩, fun kind => fresh.unchecked kind.id, nofun, rfl, rfl⟩
  have ends := ends_guards fresh cast (answersDenials_trigger guarded.answers) (guardsOf order) []
    _ bound starts
  refine ⟨order, firstsAfter scene.site scene.event [] (guardsOf order), inOrder, ?_⟩
  rw [settle_trigger cast (depth + 1) inOrder, map_listener_eq areGuards]
  exact ends.decides (toJudge_firstsAfter _ _ _) fresh.sound

/-- A site of one bus: behind a guard of controllers that lets users pass, a guard of routes and
another guard of controllers let nobody pass. A script answers denials. -/
def threeGuards : Site :=
  let (nobody, site) := Site.addAuthority {} (.double {})
  let (users, site) := site.addAuthority (.double { allowed := [.str "controller/users"] })
  let (bus, site) := site.addBus
  let (last, site) := site.addGuard ⟨.controller, []⟩ (some nobody)
  let (middle, site) := site.addGuard ⟨.route, []⟩ (some nobody)
  let (first, site) := site.addGuard ⟨.controller, []⟩ (some users)
  let site := site.attachGuard last bus (.int (-1000))
  let site := site.attachGuard middle bus (.int (-1000))
  let site := site.attachGuard first bus (.int 5)
  (site.attach bus Stage.dispatchError.name (.script (.of "answer" [.setResult .null] .null))
    (.int 1)).2

/-- A request for the users, on the way past these guards. -/
def usersRequest : Scene where
  site := threeGuards
  event :=
    { request := some (.http {}), bus := some 0,
      routeMatch := some { name := .str "users", params := [("controller", .str "users")] } }

theorem first_denial_decides_threeGuards :
    usersRequest.event.Fresh 0 ∧
      ∃ allows, Guarded .ofScript 0 usersRequest 0 allows (fun _ => .null) ∧
        ∃ order firsts, (usersRequest.site.buses.get 0).RunsInOrder Stage.route.name order ∧
          let ran := settle (trigger .ofScript 2 0 (some Stage.route.name)) ⟨usersRequest, []⟩
          Decides usersRequest.site usersRequest.event allows (fun _ => .null) (guardsOf order)
            firsts ran.1 ran.2 := by
  let allowed (ref : GuardRef) : List Value := if ref = 2 then [.str "controller/users"] else []
  let allows (ref : GuardRef) (resource : Word) : Prop :=
    (allowed ref).any (.ofWord resource == ·) = true
  have fresh : usersRequest.event.Fresh 0 :=
    ⟨⟨_, .text "GET", rfl, rfl⟩, rfl, rfl, rfl, fun _ => rfl⟩
  have route : (threeGuards.buses.get 0).onStage Stage.route.name =
      [⟨"route", .guard 0, .int (-1000), 1⟩, ⟨"route", .guard 1, .int (-1000), 2⟩,
        ⟨"route", .guard 2, .int 5, 3⟩] := by
    rfl
  have error : (threeGuards.buses.get 0).onStage Stage.dispatchError.name =
      [⟨"dispatch.error", .script (.of "answer" [.setResult .null] .null), .int 1, 4⟩] := by
    rfl
  have guarded : Guarded .ofScript 0 usersRequest 0 allows (fun _ => .null) := by
    refine ⟨fun subscription mem => ?_, fun subscription mem => ?_⟩
    · change subscription ∈ (threeGuards.buses.get 0).onStage _ at mem
      rw [route] at mem
      simp only [List.mem_cons, List.not_mem_nil, or_false] at mem
      have doubles (ref : GuardRef) (isDouble : (threeGuards.guards.get ref).authority.map
          threeGuards.oracle = some (Double.oracle { allowed := allowed ref })) :
          ∃ oracle, (threeGuards.guards.get ref).authority.map threeGuards.oracle =
            some oracle ∧ oracle.Answers (allows ref) .null :=
        ⟨_, isDouble, Double.answers rfl⟩
      rcases mem with rfl | rfl | rfl
      · exact ⟨rfl, 0, rfl, doubles 0 rfl⟩
      · exact ⟨rfl, 1, rfl, doubles 1 rfl⟩
      · exact ⟨rfl, 2, rfl, doubles 2 rfl⟩
    · change subscription ∈ (threeGuards.buses.get 0).onStage _ at mem
      rw [error, List.mem_singleton] at mem
      subst mem
      exact ⟨rfl, fun watched _ _ => ⟨_, _, rfl, _, _, _, _, rfl⟩⟩
  exact ⟨fresh, allows, guarded, (first_denial_decides .ofScript 0 fresh guarded).1⟩

/-- A request of a method for the users, on the way past a guard that lets nobody pass and learns an
identity. -/
def refusal (identity method : Value) : Scene where
  site :=
    { buses := ⟨1, fun _ => (Bus.attach {} Stage.route.name (.guard 0) (.int (-1000))).2⟩
      guards := ⟨1, fun _ => { guard := ⟨.controller, []⟩, authority := some 0 }⟩
      authorities := ⟨1, fun _ => .double { identity }⟩ }
  event :=
    { request := some (.http { method }), bus := some 0,
      routeMatch := some { name := .str "users", params := [("controller", .str "users")] } }

/-- The guard listens alone, and accepts no event. -/
theorem exists_guarded_refusal (identity method : Value) :
    ∃ allows, Guarded .ofScript 0 (refusal identity method) 0 allows (fun _ => identity) ∧
      ¬ GuardKind.controller.Accepts (refusal identity method).event (allows 0) := by
  let nothing (resource : Word) : Prop := ([] : List Value).any (.ofWord resource == ·) = true
  have route : ((refusal identity method).site.buses.get 0).onStage Stage.route.name =
      [⟨"route", .guard 0, .int (-1000), 1⟩] := rfl
  refine ⟨fun _ => nothing, ⟨fun subscription mem => ?_, fun _ mem => by cases mem⟩, ?_⟩
  · rw [route, List.mem_singleton] at mem
    subst mem
    exact ⟨rfl, 0, rfl, Double.oracle { identity }, rfl, Double.answers rfl⟩
  · rintro ⟨_, _, -, -, _, -, allowed⟩
    cases allowed

/-- **Not every refusal is a denial**, and not every denial is announced. About a method that is a
number the guard asks and then cannot say what it denies: there is no error. And a guard that learns
an identity of too many digits leaves an error, but runs no error stage. -/
theorem refused_without_error_stage :
    let numbered := refusal .null (.int 0)
    let long : Value := .int (Decimal.tenTo Decimal.digitLimit)
    let unprinted := refusal long (.str "GET")
    let ran (scene : Scene) :=
      (settle (trigger .ofScript 2 0 (some Stage.route.name)) ⟨scene, []⟩).2
    ((∃ allows, Guarded .ofScript 0 numbered 0 allows (fun _ => .null) ∧
        ¬ GuardKind.controller.Accepts numbered.event (allows 0)) ∧
      askedIn (ran numbered).history = [0] ∧ errorRuns (ran numbered).history = 0 ∧
      (ran numbered).scene.event.isError = false) ∧
    unprinted.event.Fresh 0 ∧
      (∃ allows, Guarded .ofScript 0 unprinted 0 allows (fun _ => long) ∧
        ¬ GuardKind.controller.Accepts unprinted.event (allows 0)) ∧
      askedIn (ran unprinted).history = [0] ∧ errorRuns (ran unprinted).history = 0 ∧
      (ran unprinted).scene.event.isError = true ∧
      (ran unprinted).scene.event.outcome GuardKind.controller.id = .denied := by
  intro numbered long unprinted ran
  refine ⟨⟨exists_guarded_refusal _ _, ?_⟩, ?_, exists_guarded_refusal _ _, ?_⟩
  · decide +kernel
  · exact ⟨⟨_, .text "GET", rfl, rfl⟩, rfl, rfl, rfl, fun _ => rfl⟩
  · decide +kernel

end Watch

end GuardedDispatch
