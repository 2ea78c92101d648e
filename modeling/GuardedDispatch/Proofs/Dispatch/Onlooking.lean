import GuardedDispatch.Proofs.Dispatch.Denying
import Mathlib.Data.List.Basic

/-! # Onlookers

Which stages a watched run enters when onlookers listen beside guards and strategies. An
**onlooker** leaves the event, the bus and the identity of the context alone (`Watch.Onlooks`).
Then only a guard that denies the event makes a trigger enter a second stage, which is the error
stage, and it does so once.

* **`Watched.At`** is how far an event has come: the stages it went through, the guards that
  announced a denial, and its error.
* **`Watch.leads_trigger`**: any stage but the route stage is entered, and nothing else comes of it.
* **`Watch.leads_routeStage`**: the route stage lets the event pass, or leads on to the error stage
  with the error of the guard that denied it.
* `Site.Steady` is what all this leaves alone, also where it fails. -/

namespace GuardedDispatch

/-- The name of a stage tells which it is. -/
theorem Stage.name_injective : Function.Injective Stage.name := by
  intro a b same
  cases a <;> cases b <;> first | rfl | exact absurd same (by decide)

/-- The **stages** that were entered in a history, in order. -/
def stagesIn (history : List Happening) : List String :=
  history.filterMap fun
    | .started _ stage => some stage
    | _ => none

/-- The guards that **announced** a denial in a history, in order. -/
def announcedIn (history : List Happening) : List String :=
  history.filterMap fun
    | .announced guard => some guard
    | _ => none

@[simp] theorem stagesIn_append (history further : List Happening) :
    stagesIn (history ++ further) = stagesIn history ++ stagesIn further :=
  List.filterMap_append

@[simp] theorem announcedIn_append (history further : List Happening) :
    announcedIn (history ++ further) = announcedIn history ++ announcedIn further :=
  List.filterMap_append

/-- Happenings in which no stage is entered and nothing is announced. -/
def AreQuiet (happenings : List Happening) : Prop :=
  stagesIn happenings = [] ∧ announcedIn happenings = []

/-- Consultations are quiet. -/
theorem areQuiet_asked : ∀ refs : List GuardRef, AreQuiet (refs.map .asked)
  | [] => ⟨rfl, rfl⟩
  | _ :: rest => areQuiet_asked rest

/-! ## What stays -/

/-- A site that is **steady**: a bus and the current identity are as before, and a token that
restores an identity still restores it. -/
structure Site.Steady (bus : BusRef) (token : Nat) (before after : Site) : Prop where
  bus : after.buses.get bus = before.buses.get bus
  current : after.context.current = before.context.current
  token : ∀ previous, before.context.tokens[token]? = some (some previous) →
    after.context.tokens[token]? = some (some previous)

namespace Site.Steady

variable {bus : BusRef} {token : Nat} {first second third : Site}

theorem refl (site : Site) : Steady bus token site site := ⟨rfl, rfl, fun _ live => live⟩

theorem trans (before : Steady bus token first second) (after : Steady bus token second third) :
    Steady bus token first third where
  bus := after.bus.trans before.bus
  current := after.current.trans before.current
  token previous live := after.token previous (before.token previous live)

end Site.Steady

/-- How far an event has **come**. -/
structure Progress where
  /-- The stages that it went through. -/
  stages : List Stage := []
  /-- The guards that announced a denial. -/
  announced : List String := []
  /-- Its error. -/
  error : Value := .null

/-- The progress of an event that enters a stage. -/
def Progress.enter (progress : Progress) (stage : Stage) : Progress :=
  { progress with stages := progress.stages ++ [stage] }

/-- The progress of an event that guards let pass. -/
def Progress.passed : Progress := { stages := [.route] }

/-- The progress of an event that a guard is denying: the error stage is still to come. -/
def Progress.denying (kind : GuardKind) : Progress where
  stages := [.route]
  announced := [kind.id]
  error := .str kind.errorKind

/-- The progress of an event that a guard denied. -/
def Progress.denied (kind : GuardKind) : Progress where
  stages := [.route, .dispatchError]
  announced := [kind.id]
  error := .str kind.errorKind

/-- An event **at** a progress: the history tells so, and the event is bound to a bus and has the
name of the stage that it is at. -/
structure Watched.At (bus : BusRef) (progress : Progress) (watched : Watched) : Prop where
  stages : stagesIn watched.history = progress.stages.map Stage.name
  announced : announcedIn watched.history = progress.announced
  error : watched.scene.event.error = progress.error
  bound : watched.scene.event.bus = some bus
  name : ∀ stage, progress.stages.getLast? = some stage → watched.scene.event.name = stage.name

/-- An event **at** a progress on a steady site. -/
structure Watched.Holds (bus : BusRef) (token : Nat) (origin : Site) (progress : Progress)
    (watched : Watched) : Prop extends Watched.At bus progress watched where
  steady : origin.Steady bus token watched.scene.site

/-- An event that went **through the route stage**: it was let pass, or a guard denied it. -/
def Watched.Routed (bus : BusRef) (token : Nat) (origin : Site) (watched : Watched) : Prop :=
  watched.Holds bus token origin .passed ∨ ∃ kind, watched.Holds bus token origin (.denied kind)

namespace Watched

variable {bus : BusRef} {token : Nat} {origin : Site} {progress : Progress}
  {watched after : Watched}

/-- What changes neither the error, the bus nor the name of an event, and lets nothing happen but
what is quiet, leaves it where it is. -/
theorem At.quiet (isAt : watched.At bus progress) (happenings : List Happening)
    (quiet : AreQuiet happenings) (history : after.history = watched.history ++ happenings)
    (error : after.scene.event.error = watched.scene.event.error)
    (bound : after.scene.event.bus = watched.scene.event.bus)
    (name : after.scene.event.name = watched.scene.event.name) : after.At bus progress where
  stages := by rw [history, stagesIn_append, quiet.1, List.append_nil, isAt.stages]
  announced := by rw [history, announcedIn_append, quiet.2, List.append_nil, isAt.announced]
  error := error.trans isAt.error
  bound := bound.trans isAt.bound
  name stage last := name.trans (isAt.name stage last)

/-- **A stage opens** for an event, wherever it is. -/
theorem At.opened (isAt : watched.At bus progress) (other : BusRef) (stage : Stage) :
    (watched.opened other stage.name).At bus (progress.enter stage) where
  stages := by
    show stagesIn (watched.history ++ [.started other stage.name]) = _
    rw [stagesIn_append, isAt.stages, Progress.enter, List.map_append]
    rfl
  announced := by
    show announcedIn (watched.history ++ [.started other stage.name]) = _
    rw [announcedIn_append, isAt.announced]
    exact List.append_nil _
  error := isAt.error
  bound := isAt.bound
  name last isLast := by
    rw [Progress.enter, List.getLast?_concat] at isLast
    cases isLast
    rfl

/-- An event is at one progress only. -/
theorem At.unique {other : Progress} (isAt : watched.At bus progress)
    (isAt' : watched.At bus other) : progress = other := by
  obtain ⟨stages, announced, error⟩ := progress
  obtain ⟨stages', announced', error'⟩ := other
  cases isAt.announced.symm.trans isAt'.announced
  cases isAt.error.symm.trans isAt'.error
  have same : stages = stages' :=
    List.map_injective_iff.2 Stage.name_injective (isAt.stages.symm.trans isAt'.stages)
  rw [same]

end Watched

namespace Bus

variable {η : Type}

/-- Ranked subscriptions are those that were to be ranked. -/
theorem map_fst_of_ranked : ∀ {subscriptions : List (Subscription η)}
    {ranked : List (Subscription η × Decimal.Extent)},
    subscriptions.mapM rank? = some ranked → ranked.map (·.1) = subscriptions
  | [], _, isRanked => by
    cases isRanked
    rfl
  | first :: rest, ranked, isRanked => by
    rw [List.mapM_cons] at isRanked
    obtain ⟨rank, isRank, others⟩ := Option.bind_eq_some_iff.1 isRanked
    obtain ⟨ranks, areRanks, same⟩ := Option.bind_eq_some_iff.1 others
    obtain ⟨extent, -, rfl⟩ := Option.map_eq_some_iff.1 isRank
    cases same
    rw [List.map_cons, map_fst_of_ranked areRanks]

/-- **The listeners of a stage** are subscriptions of the bus to that stage. -/
theorem mem_listeners {bus : Bus η} {stage : String} {order : List (Subscription η)}
    (listed : bus.listeners stage = .ok order) {subscription : Subscription η}
    (mem : subscription ∈ order) :
    subscription ∈ bus.subscriptions ∧ subscription.stage = stage := by
  unfold listeners at listed
  split at listed
  · cases listed
  · next ranked isRanked =>
    cases listed
    have mem : subscription ∈ ranked.map (·.1) :=
      ((List.mergeSort_perm ranked runsBefore).map _).mem_iff.1 mem
    rw [map_fst_of_ranked isRanked, onStage, List.mem_filter] at mem
    exact ⟨mem.1, beq_iff_eq.1 mem.2⟩

end Bus

/-! ## What verdicts leave -/

/-- What a **verdict** leaves of an event: only outcomes have changed, or the parameters too if the
event was denied, and then it has the error of the guard if that is announced. -/
inductive GuardKind.Leaves (kind : GuardKind) (event : Event) : Verdict → Prop where
  /-- The event is left alone. -/
  | skip : kind.Leaves event .skip
  /-- The event may pass. -/
  | allowed (outcomes : List (String × Outcome)) :
    kind.Leaves event (.allowed { event with outcomes })
  /-- The event is denied. -/
  | denied {bus : BusRef} {params : List (String × Value)} {outcomes : List (String × Outcome)}
    (bound : event.bus = some bus)
    (error : Event.error { event with params, outcomes } = .str kind.errorKind) :
    kind.Leaves event (.denied { event with params, outcomes } bus)
  /-- The event is denied, and that stops halfway. -/
  | unrecorded (params : List (String × Value)) (outcomes : List (String × Outcome))
    (failure : Failure) : kind.Leaves event (.unrecorded { event with params, outcomes } failure)

/-- **A check** comes to a verdict that leaves the event so, whatever its oracle says. -/
theorem GuardKind.ensures_leaves (kind : GuardKind) (oracle : Option Oracle) (event : Event) :
    Ensures (kind.check oracle event) (kind.Leaves event) := by
  refine ensures_check (fun _ => True) ?_ .skip ?_ ?_
  · exact fun _ _ _ _ _ _ _ _ => trivial
  · intro _ _ _ after _ _ _ _ moved
    obtain ⟨outcomes, rfl⟩ := Event.exists_outcomes_of_transition moved
    exact .allowed outcomes
  · intro details subject verdict others denied
    obtain ⟨bus, bound, denies⟩ := deny_eq_ok_iff.1 denied
    cases denies with
    | @recorded _ first last _ moved moved' =>
      have error : (kind.describeDenial details subject first).error = .str kind.errorKind :=
        error_describeDenial others subject first
      obtain ⟨outcomes, rfl⟩ := Event.exists_outcomes_of_transition moved
      obtain ⟨params, described⟩ := exists_params_of_describeDenial kind details subject
        { event with outcomes }
      rw [described] at moved' error
      obtain ⟨outcomes', rfl⟩ := Event.exists_outcomes_of_transition moved'
      exact .denied bound error
    | unrecorded _ moved =>
      obtain ⟨outcomes, rfl⟩ := Event.exists_outcomes_of_transition moved
      obtain ⟨params, described⟩ := exists_params_of_describeDenial kind details subject
        { event with outcomes }
      rw [described]
      exact .unrecorded params outcomes _

/-- A strategy resolves the event and leaves all else as it is but the trace. -/
theorem Run.settle_strategy_resolved (ref : StrategyRef) (scene : Scene) :
    let after := (settle (strategy ref) scene).2
    after.site = scene.site ∧ scene.event.Resolved after.event := by
  intro after
  have resolves := ensures_ask (Strategy.ensures_resolve (scene.site.strategies.get ref).strategy
    scene.event) scene
  have isAfter : after = (settle (strategy ref) scene).2 := rfl
  rw [isAfter, settle_strategy rfl, settle_bind]
  rw [settle_ask] at resolves ⊢
  generalize Asking.outcome _ = outcome at resolves ⊢
  obtain ⟨failure | event, calls⟩ := outcome
  · exact ⟨rfl, _, _, rfl⟩
  · exact ⟨rfl, resolves event _ rfl⟩

/-- A **spy** leaves the event and the site as they are. -/
theorem Run.settle_spy_same (authority : AuthorityRef) (scene : Scene) :
    let after := (settle (spy authority) scene).2
    after.event = scene.event ∧ after.site = scene.site :=
  have seen : Keeps (fun after => after.event = scene.event ∧ after.site = scene.site)
      (spy authority) :=
    keeps_bind (fun _ holds => holds) fun _ => keeps_bind (fun _ holds => holds) fun _ =>
      keeps_bind (fun _ holds => holds) fun _ => keeps_modify fun _ holds => holds
  seen scene ⟨rfl, rfl⟩

namespace Watch

/-! ## Listeners -/

/-- A listener that only **looks on**, whenever it is called and also if it fails: it leaves the
event as it is and the site steady, and at most consults guards' oracles. -/
def Onlooks (cast : Script → Conduct) (bus : BusRef) (token : Nat) (listener : Handler) : Prop :=
  ∀ again watched, let after := (settle (handler cast again listener) watched).2
    after.scene.event = watched.scene.event ∧
      watched.scene.site.Steady bus token after.scene.site ∧
      ∃ refs : List GuardRef, after.history = watched.history ++ refs.map .asked

/-- What **fits** on a bus: guards on the route stage, strategies on the error stage, and onlookers
anywhere. -/
inductive Fits (cast : Script → Conduct) (bus : BusRef) (token : Nat) :
    Subscription Handler → Prop where
  /-- An onlooker. -/
  | onlooker {subscription : Subscription Handler}
    (onlooks : Onlooks cast bus token subscription.listener) : Fits cast bus token subscription
  /-- A guard. -/
  | guard {subscription : Subscription Handler} {ref : GuardRef}
    (onRoute : subscription.stage = Stage.route.name)
    (isGuard : subscription.listener = .guard ref) :
    Fits cast bus token subscription
  /-- A strategy. -/
  | strategy {subscription : Subscription Handler} {ref : StrategyRef}
    (onError : subscription.stage = Stage.dispatchError.name)
    (isStrategy : subscription.listener = .strategy ref) : Fits cast bus token subscription

variable {cast : Script → Conduct} {bus : BusRef} {token : Nat} {origin : Site}
  {progress : Progress} {again : Trigger}

/-- **Spies look on.** -/
theorem onlooks_spy (authority : AuthorityRef) : Onlooks cast bus token (.spy authority) := by
  intro again watched after
  have isAfter : after =
      { watched with scene := (settle (Run.spy authority) watched.scene).2 } := by
    show (settle (plain (Run.spy authority) >>= fun _ => pure Value.null) watched).2 = _
    rw [settle_return, settle_plain]
  obtain ⟨event, site⟩ := Run.settle_spy_same authority watched.scene
  rw [isAfter]
  refine ⟨event, ?_, [], (List.append_nil _).symm⟩
  rw [site]
  exact .refl _

/-- Steps that leave an event where it is lead nowhere, also if they fail. -/
theorem leads_of_keeps {α : Type} {watch : Watch α}
    (keeps : Keeps (Watched.Holds bus token origin progress) watch) :
    Leads (Watched.Holds bus token origin progress) watch
      (fun _ => Watched.Holds bus token origin progress)
      (fun watched => origin.Steady bus token watched.scene.site) :=
  keeps.leads.imp (fun _ _ holds => holds) fun _ holds => holds.steady

/-- **Onlookers** leave an event where it is. -/
theorem keeps_onlooker {listener : Handler} (onlooks : Onlooks cast bus token listener) :
    Keeps (Watched.Holds bus token origin progress) (handler cast again listener) := by
  intro watched holds
  obtain ⟨event, steady, refs, history⟩ := onlooks again watched
  refine ⟨holds.toAt.quiet _ (areQuiet_asked refs) history ?_ ?_ ?_, holds.steady.trans steady⟩
  · rw [event]
  · rw [event]
  · rw [event]

/-- So do **strategies**. -/
theorem keeps_strategy (ref : StrategyRef) :
    Keeps (Watched.Holds bus token origin progress) (handler cast again (.strategy ref)) := by
  refine keeps_bind (fun watched holds => ?_) fun _ => keeps_pure _
  obtain ⟨site, answer, pages, event⟩ := Run.settle_strategy_resolved ref watched.scene
  rw [settle_plain]
  refine ⟨holds.toAt.quiet [] ⟨rfl, rfl⟩ (List.append_nil _).symm ?_ ?_ ?_, ?_⟩
  · dsimp only
    rw [event]
    rfl
  · dsimp only
    rw [event]
  · dsimp only
    rw [event]
  · dsimp only
    rw [site]
    exact holds.steady

/-- A consultation is quiet. -/
theorem areQuiet_consultation (post : GuardPost) (ref : GuardRef) (event : Event) :
    AreQuiet (post.consultation ref event) := by
  unfold GuardPost.consultation
  split <;> exact ⟨rfl, rfl⟩

/-- **A guard** on the route stage lets the event pass, or denies it and runs the error stage, or
fails. Once the event was denied it has no more to say. -/
theorem leads_guard (answered : ∀ kind, Leads (Watched.Holds bus token origin (.denying kind))
      (discard (again bus (some Stage.dispatchError.name)))
      (fun _ => Watched.Holds bus token origin (.denied kind))
      fun watched => origin.Steady bus token watched.scene.site) (ref : GuardRef) :
    Leads (Watched.Routed bus token origin) (guard again ref)
      (fun _ => Watched.Routed bus token origin)
      fun watched => origin.Steady bus token watched.scene.site := by
  rintro watched (passed | ⟨kind, denied⟩)
  · let post := watched.scene.site.guards.get ref
    have quiet := areQuiet_consultation post ref watched.scene.event
    have leaves := Run.ensures_ask (post.guard.kind.ensures_leaves
      (post.authority.map watched.scene.site.oracle) watched.scene.event) watched.scene
    rw [Run.settle_ask] at leaves
    rw [settle_guard rfl]
    dsimp only
    generalize Asking.outcome _ = outcome at leaves ⊢
    obtain ⟨failure | verdict, calls⟩ := outcome
    · exact passed.steady
    · cases leaves verdict _ rfl with
      | skip => exact .inl ⟨passed.toAt.quiet _ quiet rfl rfl rfl rfl, passed.steady⟩
      | allowed outcomes =>
        have quiet' : AreQuiet (post.consultation ref watched.scene.event ++
            [.moved post.guard.kind.id .allowed]) := by
          refine ⟨?_, ?_⟩
          · rw [stagesIn_append, quiet.1]
            rfl
          · rw [announcedIn_append, quiet.2]
            rfl
        refine .inl ⟨passed.toAt.quiet _ quiet' (List.append_assoc _ _ _) ?_ ?_ ?_, passed.steady⟩
        · rfl
        · rfl
        · rfl
      | @denied other params outcomes bound error =>
        -- the guard triggers the error stage on the bus that the event is bound to
        cases bound.symm.trans passed.bound
        have denying : Watched.Holds bus token origin (.denying post.guard.kind)
            ⟨{ watched.scene.noting calls with
                event := { watched.scene.event with params, outcomes } },
              watched.history ++ post.consultation ref watched.scene.event ++
                denial post.guard.kind.id⟩ := by
          refine ⟨⟨?_, ?_, error, bound, passed.name⟩, passed.steady⟩
          · show stagesIn (_ ++ _ ++ _) = _
            rw [stagesIn_append, stagesIn_append, quiet.1, passed.stages]
            rfl
          · show announcedIn (_ ++ _ ++ _) = _
            rw [announcedIn_append, announcedIn_append, quiet.2, passed.announced]
            rfl
        exact (answered post.guard.kind).imp (fun _ _ denied => Or.inr ⟨_, denied⟩)
          (fun _ steady => steady) _ denying
      | unrecorded params outcomes failure => exact passed.steady
  · have failed : watched.scene.event.isError = true := by
      rw [Event.isError, denied.error]
      cases kind <;> rfl
    rw [settle_guard_of_isError failed]
    exact .inr ⟨kind, denied⟩

/-- Listeners that lead from a property back to it do so one after the other. -/
theorem leads_runListeners {σ η : Type} {P R : σ → Prop}
    {invoke : η → ExceptT Failure (StateM σ) Value} {isStopped : ExceptT Failure (StateM σ) Bool}
    (looks : Leads P isStopped (fun _ => P) R) : ∀ {listeners : List η},
    (∀ listener ∈ listeners, Leads P (invoke listener) (fun _ => P) R) →
      Leads P (runListeners invoke isStopped listeners) (fun _ => P) R
  | [], _ => leads_pure fun _ holds => holds
  | listener :: rest, each => by
    refine leads_bind (each listener List.mem_cons_self) fun value => ?_
    refine leads_bind looks fun stop => ?_
    have others := leads_runListeners looks fun other mem => each other (List.mem_cons_of_mem _ mem)
    cases stop with
    | true => exact leads_pure fun _ holds => holds
    | false => exact leads_bind others fun _ => leads_pure fun _ holds => holds

/-! ## Stages -/

section

variable (fits : ∀ subscription ∈ (origin.buses.get bus).subscriptions,
  Fits cast bus token subscription)

include fits

/-- **A trigger** enters its stage and leads on to where the listeners of the stage lead. -/
theorem leads_start {depth : Nat} {stage : Stage} {P : Watched → Prop}
    (starts : ∀ watched, watched.Holds bus token origin (progress.enter stage) → P watched)
    (each : ∀ subscription, Fits cast bus token subscription → subscription.stage = stage.name →
      Leads P (handler cast (trigger cast depth) subscription.listener) (fun _ => P)
        fun watched => origin.Steady bus token watched.scene.site) :
    Leads (Watched.Holds bus token origin progress)
      (discard (trigger cast (depth + 1) bus (some stage.name))) (fun _ => P)
      fun watched => origin.Steady bus token watched.scene.site := by
  refine leads_bind (S := fun _ => P) ?_ fun _ => leads_pure fun _ holds => holds
  intro watched holds
  have opened : (watched.opened bus stage.name).Holds bus token origin (progress.enter stage) :=
    ⟨holds.toAt.opened bus stage, holds.steady⟩
  have started : settle (start bus (some stage.name)) watched =
      ((watched.scene.site.buses.get bus).listeners stage.name, watched.opened bus stage.name) :=
    settle_start bus _ watched
  rw [holds.steady.bus] at started
  rw [trigger, settle_bind, started]
  cases listed : (origin.buses.get bus).listeners stage.name with
  | error failure => exact opened.steady
  | ok order =>
    refine leads_runListeners (P := P) ?_ (fun subscription mem => ?_) _ (starts _ opened)
    · exact fun _ holds => holds
    · obtain ⟨attached, onStage⟩ := Bus.mem_listeners listed mem
      exact each subscription (fits subscription attached) onStage

/-- **A stage other than the route stage** is entered, and leaves the event there. -/
theorem leads_trigger (depth : Nat) {stage : Stage} (other : stage ≠ .route) :
    Leads (Watched.Holds bus token origin progress)
      (discard (trigger cast (depth + 1) bus (some stage.name)))
      (fun _ => Watched.Holds bus token origin (progress.enter stage))
      fun watched => origin.Steady bus token watched.scene.site := by
  refine leads_start fits (fun _ holds => holds) fun subscription isFit onStage => ?_
  cases isFit with
  | onlooker onlooks => exact leads_of_keeps (keeps_onlooker onlooks)
  | guard onRoute isGuard => exact absurd (Stage.name_injective (onStage.symm.trans onRoute)) other
  | strategy onError isStrategy =>
    rw [isStrategy]
    exact leads_of_keeps (keeps_strategy _)

/-- **The route stage** lets the event pass, or denies it: then a guard has announced the denial,
and the error stage was entered once. -/
theorem leads_routeStage (depth : Nat) :
    Leads (Watched.Holds bus token origin {})
      (discard (trigger cast (depth + 2) bus (some Stage.route.name)))
      (fun _ => Watched.Routed bus token origin)
      fun watched => origin.Steady bus token watched.scene.site := by
  refine leads_start fits (fun _ passed => .inl passed) fun subscription isFit onStage => ?_
  cases isFit with
  | onlooker onlooks =>
    rintro watched (passed | ⟨kind, denied⟩)
    · exact (leads_of_keeps (keeps_onlooker onlooks)).imp (fun _ _ passed => .inl passed)
        (fun _ steady => steady) watched passed
    · exact (leads_of_keeps (keeps_onlooker onlooks)).imp (fun _ _ denied => .inr ⟨kind, denied⟩)
        (fun _ steady => steady) watched denied
  | guard onRoute isGuard =>
    rw [isGuard]
    refine leads_bind (leads_guard (fun kind => ?_) _) fun _ => leads_pure fun _ routed => routed
    exact leads_trigger fits depth (by decide)
  | strategy onError isStrategy =>
    cases Stage.name_injective (onStage.symm.trans onError)

end

end Watch

end GuardedDispatch
