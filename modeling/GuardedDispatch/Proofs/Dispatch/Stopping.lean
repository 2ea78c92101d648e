import GuardedDispatch.Proofs.Dispatch.Onlooking
import GuardedDispatch.Proofs.Dispatch.Visiting

/-! # What stops a stage

An event has one stop flag, whatever stage it is in. A trigger clears it when it starts and leaves
it as its listeners did, so that a listener which triggers a stage gives its own stage the flag of
that one. A guard does so when it turns an event down.

* **`Conduct.SparesFlag`**: a conduct whose own changes leave the flag alone.
* **`Watch.stopped_handler`**: behind a listener that spares the flag, the flag is that of the last
  trigger inside it, and the one from before if there was none.
* **`Watch.stopped_iff_endsStopped`**: if all listeners spare the flag, a stage stops iff the last
  trigger inside one of them ended stopped. For a guard that is the error stage of its denial. -/

namespace GuardedDispatch

/-- The **end** of a trigger: what came of it, and what is there then. -/
abbrev TriggerEnd := Except Failure Responses × Watched

/-- The **flag after** triggers that ended one after the other: each leaves its own. -/
def flagAfter (flag : Bool) (ends : List TriggerEnd) : Bool :=
  ends.foldl (fun _ ended => ended.2.scene.event.stopped) flag

@[simp] theorem flagAfter_nil (flag : Bool) : flagAfter flag [] = flag := rfl

@[simp] theorem flagAfter_cons (flag : Bool) (ended : TriggerEnd) (ends : List TriggerEnd) :
    flagAfter flag (ended :: ends) = flagAfter ended.2.scene.event.stopped ends := rfl

theorem flagAfter_append (flag : Bool) (ends further : List TriggerEnd) :
    flagAfter flag (ends ++ further) = flagAfter (flagAfter flag ends) further :=
  List.foldl_append

/-- Where there was no flag, there is one iff the last trigger left it. -/
theorem flagAfter_false_iff (ends : List TriggerEnd) : flagAfter false ends = true ↔
    ∃ ended, ends.getLast? = some ended ∧ ended.2.scene.event.stopped = true := by
  rcases List.eq_nil_or_concat ends with rfl | ⟨early, ended, rfl⟩
  · simp
  · rw [List.concat_eq_append, flagAfter_append, List.getLast?_concat]
    simp

/-- A move leaves the flag alone. -/
theorem Event.stopped_of_transition {event after : Event} {guard : String} {target : Outcome}
    (moved : event.transition guard target = .ok after) : after.stopped = event.stopped := by
  obtain ⟨outcomes, rfl⟩ := exists_outcomes_of_transition moved
  rfl

/-- A verdict that **leaves the flag** of an event as it is. -/
def Verdict.LeavesFlag (event : Event) : Verdict → Prop
  | .skip => True
  | .allowed after | .denied after _ | .unrecorded after _ => after.stopped = event.stopped

/-- Checks come to such verdicts. -/
theorem GuardKind.Leaves.leavesFlag {kind : GuardKind} {event : Event} {verdict : Verdict}
    (leaves : kind.Leaves event verdict) : verdict.LeavesFlag event := by
  cases leaves with
  | skip => trivial
  | allowed outcomes => rfl
  | denied bound error => rfl
  | unrecorded params outcomes failure => rfl

/-- So does turning down. -/
theorem GuardKind.leavesFlag_of_deny {kind : GuardKind} {event : Event}
    {details : List (String × Value)} {subject : Word} {verdict : Verdict}
    (denied : kind.deny event details subject = .ok verdict) : verdict.LeavesFlag event := by
  have described (first : Event) :
      (kind.describeDenial details subject first).stopped = first.stopped := by
    obtain ⟨params, eq⟩ := exists_params_of_describeDenial kind details subject first
    rw [eq]
  obtain ⟨bus, -, denies⟩ := deny_eq_ok_iff.1 denied
  cases denies with
  | recorded _ moved moved' =>
    have last_eq := (Event.stopped_of_transition moved').trans (described _)
    exact last_eq.trans (Event.stopped_of_transition moved)
  | unrecorded _ moved => exact (described _).trans (Event.stopped_of_transition moved)

/-! ## Triggers inside a listener -/

namespace Watch

/-- What a guard **comes to** about the event, and the calls that it makes for that. -/
def verdictOf (ref : GuardRef) (watched : Watched) : Except Failure Verdict × List Call :=
  let post := watched.scene.site.guards.get ref
  (post.guard.kind.check (post.authority.map watched.scene.site.oracle)
    watched.scene.event).outcome

/-- What is there when a guard has **asked**. -/
def asking (ref : GuardRef) (calls : List Call) (watched : Watched) : Watched :=
  ⟨watched.scene.noting calls, watched.history ++
    (watched.scene.site.guards.get ref).consultation ref watched.scene.event⟩

/-- What is there when a guard **announces** a denial. -/
def announcing (guard : String) (event : Event) (watched : Watched) : Watched :=
  ⟨{ watched.scene with event }, watched.history ++ denial guard⟩

/-- How the trigger ended to which a **verdict** leads. -/
def endsOfVerdict (again : Trigger) (guard : String) : Verdict → Watched → List TriggerEnd
  | .denied event bus, watched =>
    [settle (again bus (some Stage.dispatchError.name)) (announcing guard event watched)]
  | .allowed _, _ | .unrecorded _ _, _ | .skip, _ => []

/-- How the trigger ended that a **guard** makes. -/
def endsOfGuard (again : Trigger) (ref : GuardRef) (watched : Watched) : List TriggerEnd :=
  match verdictOf ref watched with
  | (.ok verdict, calls) =>
    endsOfVerdict again (watched.scene.site.kindOf ref).id verdict (asking ref calls watched)
  | (.error _, _) => []

/-- How the trigger ended that a guard makes to **turn down** the event. -/
def endsOfTurnDown (again : Trigger) (ref : GuardRef) (details : List (String × Value))
    (subject : Word) (watched : Watched) : List TriggerEnd :=
  let kind := watched.scene.site.kindOf ref
  match kind.deny watched.scene.event details subject with
  | .ok verdict => endsOfVerdict again kind.id verdict watched
  | .error _ => []

/-- How the triggers ended that a **conduct** makes, one after the other. -/
def endsOfConduct (again : Trigger) : Conduct → Watched → List TriggerEnd
  | .done _, _ => []
  | .look next, watched => endsOfConduct again (next watched.scene) watched
  | .change change next, watched =>
    endsOfConduct again next { watched with scene := watched.scene.changed change }
  | .move guard target next, watched =>
    let moved := settle (move guard target) watched
    endsOfConduct again (next moved.1) moved.2
  | .check ref next, watched =>
    let checked := settle (guard again ref) watched
    endsOfGuard again ref watched ++ endsOfConduct again (next checked.1) checked.2
  | .deny ref details subject next, watched =>
    let denied := settle (turnDown again ref details subject) watched
    endsOfTurnDown again ref details subject watched ++
      endsOfConduct again (next denied.1) denied.2
  | .trigger bus stage next, watched =>
    let ended := settle (again bus stage) watched
    ended :: endsOfConduct again (next ended.1) ended.2

/-- How the triggers ended that a **listener** makes. -/
def endsOf (cast : Script → Conduct) (again : Trigger) : Handler → Watched → List TriggerEnd
  | .guard ref, watched => endsOfGuard again ref watched
  | .script script, watched => endsOfConduct again (cast script) watched
  | .strategy _, _ | .spy _, _ => []

end Watch

/-- A conduct that **spares the flag** where it is played: its own changes leave the flag as it is,
whatever the stages do that it triggers. -/
def Conduct.SparesFlag (again : Watch.Trigger) : Conduct → Watched → Prop
  | .done _, _ => True
  | .look next, watched => (next watched.scene).SparesFlag again watched
  | .change alter next, watched =>
    (alter watched.scene).event.stopped = watched.scene.event.stopped ∧
      next.SparesFlag again { watched with scene := watched.scene.changed alter }
  | .move guard target next, watched =>
    let moved := settle (Watch.move guard target) watched
    (next moved.1).SparesFlag again moved.2
  | .check ref next, watched =>
    let checked := settle (Watch.guard again ref) watched
    (next checked.1).SparesFlag again checked.2
  | .deny ref details subject next, watched =>
    let denied := settle (Watch.turnDown again ref details subject) watched
    (next denied.1).SparesFlag again denied.2
  | .trigger bus stage next, watched =>
    let ended := settle (again bus stage) watched
    (next ended.1).SparesFlag again ended.2

namespace Watch

variable {again : Trigger} {cast : Script → Conduct}

/-! ## The flag behind a listener -/

/-- Following a denial is triggering the error stage. -/
theorem settle_follow_denied (guard : String) (event : Event) (bus : BusRef) (watched : Watched) :
    settle (follow again guard (.denied event bus)) watched =
      settle (discard (again bus (some Stage.dispatchError.name)))
        (announcing guard event watched) :=
  settle_bind_of_ok (settle_goOn _ _ _) _

/-- **A guard** follows what it comes to. -/
theorem settle_guard_verdictOf (again : Trigger) (ref : GuardRef) (watched : Watched) :
    settle (guard again ref) watched =
      match verdictOf ref watched with
      | (.ok verdict, calls) =>
        settle (follow again (watched.scene.site.kindOf ref).id verdict) (asking ref calls watched)
      | (.error failure, calls) => (.error failure, asking ref calls watched) := by
  rw [settle_guard rfl, verdictOf]
  dsimp only
  rcases Asking.outcome _ with ⟨_ | verdict, calls⟩ <;> rfl

/-- What a guard comes to leaves the flag as it is. -/
theorem leavesFlag_of_verdictOf {ref : GuardRef} {watched : Watched} {verdict : Verdict}
    {calls : List Call} (found : verdictOf ref watched = (.ok verdict, calls)) :
    verdict.LeavesFlag watched.scene.event := by
  let post := watched.scene.site.guards.get ref
  have leaves := Run.ensures_ask (post.guard.kind.ensures_leaves
    (post.authority.map watched.scene.site.oracle) watched.scene.event) watched.scene verdict
  rw [Run.settle_ask, show Asking.outcome _ = _ from found] at leaves
  exact (leaves _ rfl).leavesFlag

/-- **Following a verdict** leaves the flag of the trigger to which it leads. -/
theorem stopped_follow (guard : String) {verdict : Verdict} {watched : Watched}
    (leaves : verdict.LeavesFlag watched.scene.event) :
    (settle (follow again guard verdict) watched).2.scene.event.stopped =
      flagAfter watched.scene.event.stopped (endsOfVerdict again guard verdict watched) := by
  cases verdict with
  | skip => rfl
  | allowed event => exact leaves
  | denied event bus =>
    rw [settle_follow_denied]
    exact congrArg (·.2.scene.event.stopped) (settle_return (again bus _) () _)
  | unrecorded event failure => exact leaves

/-- **A guard** leaves the flag of its error stage, if it has one. -/
theorem stopped_guard (again : Trigger) (ref : GuardRef) (watched : Watched) :
    (settle (guard again ref) watched).2.scene.event.stopped =
      flagAfter watched.scene.event.stopped (endsOfGuard again ref watched) := by
  rw [settle_guard_verdictOf, endsOfGuard]
  rcases found : verdictOf ref watched with ⟨_ | verdict, calls⟩
  · rfl
  · have leaves : verdict.LeavesFlag (asking ref calls watched).scene.event :=
      leavesFlag_of_verdictOf found
    exact stopped_follow _ leaves

/-- So does a guard that turns an event down. -/
theorem stopped_turnDown (again : Trigger) (ref : GuardRef) (details : List (String × Value))
    (subject : Word) (watched : Watched) :
    (settle (turnDown again ref details subject) watched).2.scene.event.stopped =
      flagAfter watched.scene.event.stopped
        (endsOfTurnDown again ref details subject watched) := by
  rw [settle_turnDown, endsOfTurnDown]
  dsimp only
  cases denied : (watched.scene.site.guards.get ref).guard.kind.deny watched.scene.event details
      subject with
  | error failure => rfl
  | ok verdict => exact stopped_follow _ (GuardKind.leavesFlag_of_deny denied)

/-- **A move** leaves the flag alone, also where there is no edge. -/
theorem stopped_move (guard : String) (target : Outcome) (watched : Watched) :
    (settle (move guard target) watched).2.scene.event.stopped = watched.scene.event.stopped := by
  rw [settle_move]
  cases moved : watched.scene.event.transition guard target with
  | error failure => rfl
  | ok event => exact Event.stopped_of_transition moved

/-- **A conduct that spares the flag** leaves that of the last trigger it made. -/
theorem stopped_play (again : Trigger) : ∀ (conduct : Conduct) (watched : Watched),
    conduct.SparesFlag again watched →
      (settle (play again conduct) watched).2.scene.event.stopped =
        flagAfter watched.scene.event.stopped (endsOfConduct again conduct watched)
  | .done _, _, _ => rfl
  | .look next, watched, spares => stopped_play again (next watched.scene) watched spares
  | .change alter next, watched, ⟨same, spares⟩ => by
    let changed := { watched with scene := watched.scene.changed alter }
    have rest := stopped_play again next changed spares
    rw [endsOfConduct, ← same]
    exact rest
  | .move guard target next, watched, spares => by
    let moved := settle (move guard target) watched
    have rest := stopped_play again (next moved.1) moved.2 spares
    have same : moved.2.scene.event.stopped = _ := stopped_move guard target watched
    rw [play, settle_bind_of_ok (settle_attempt _ _), endsOfConduct, ← same]
    exact rest
  | .check ref next, watched, spares => by
    let checked := settle (guard again ref) watched
    have rest := stopped_play again (next checked.1) checked.2 spares
    have left : checked.2.scene.event.stopped = _ := stopped_guard again ref watched
    rw [play, settle_bind_of_ok (settle_attempt _ _), endsOfConduct, flagAfter_append, ← left]
    exact rest
  | .deny ref details subject next, watched, spares => by
    let denied := settle (turnDown again ref details subject) watched
    have rest := stopped_play again (next denied.1) denied.2 spares
    have left : denied.2.scene.event.stopped = _ :=
      stopped_turnDown again ref details subject watched
    rw [play, settle_bind_of_ok (settle_attempt _ _), endsOfConduct, flagAfter_append, ← left]
    exact rest
  | .trigger bus stage next, watched, spares => by
    let ended := settle (again bus stage) watched
    have rest := stopped_play again (next ended.1) ended.2 spares
    rw [play, settle_bind_of_ok (settle_attempt _ _), endsOfConduct, flagAfter_cons]
    exact rest

/-- **Behind a listener** that does not touch the flag itself, the flag is that of the last trigger
inside it, and the one from before if there was none. -/
theorem stopped_handler {listener : Handler} {watched : Watched}
    (spares : ∀ script, listener = .script script → (cast script).SparesFlag again watched) :
    (settle (handler cast again listener) watched).2.scene.event.stopped =
      flagAfter watched.scene.event.stopped (endsOf cast again listener watched) := by
  cases listener with
  | guard ref =>
    rw [handler, settle_return]
    exact stopped_guard again ref watched
  | strategy ref =>
    obtain ⟨-, answer, pages, event⟩ := Run.settle_strategy_resolved ref watched.scene
    rw [handler, settle_return, settle_plain]
    dsimp only
    rw [event]
    rfl
  | script script => exact stopped_play again (cast script) watched (spares script rfl)
  | spy authority =>
    obtain ⟨event, -⟩ := Run.settle_spy_same authority watched.scene
    rw [handler, settle_return, settle_plain]
    exact congrArg Event.stopped event

end Watch

/-! ## Scripts -/

/-- **An action that spares the flag** leaves it as it is, if the triggers inside it do. -/
theorem Run.keeps_flag {again : GuardedDispatch.Trigger} {flag : Bool}
    (nested : ∀ bus stage, Keeps (fun scene => scene.event.stopped = flag) (again bus stage))
    {a : Action} (spares : a.sparesFlag = true) :
    Keeps (fun scene => scene.event.stopped = flag) (action again a) := by
  refine keeps_of_parts nested ?_ ?_ ?_ ?_ ?_
  · exact fun asking scene left => left
  · exact fun change _ same => keeps_modify fun scene left => (same scene.event).trans left
  · exact fun touches => absurd (touches.symm.trans spares) Bool.false_ne_true
  · exact fun _ site scene left => left
  · rintro guard target rfl scene left
    rw [settle_transition]
    cases moved : scene.event.transition guard target with
    | error failure => exact left
    | ok after => exact (Event.stopped_of_transition moved).trans left

namespace Conduct

variable {again : Watch.Trigger}

/-- The conduct of an action that spares the flag does so, if the conduct behind it does. -/
theorem sparesFlag_ofAction {action : Action} (spares : action.sparesFlag = true)
    {next : Except Failure Value → Conduct}
    (rest : ∀ result watched, (next result).SparesFlag again watched) (watched : Watched) :
    (ofAction action next).SparesFlag again watched := by
  cases action with
  | transition guard target => exact rest _ _
  | trigger bus stage =>
    rw [ofAction, SparesFlag]
    cases watched.scene.site.busNamed bus with
    | error failure => exact rest _ _
    | ok ref => exact rest _ _
  | _ =>
    refine ⟨?_, rest _ _⟩
    exact Run.keeps_flag (fun _ _ => keeps_throw _) spares watched.scene rfl

/-- So do the conducts of actions that spare the flag, one after the other. -/
theorem sparesFlag_ofActions (result : Value) : ∀ {actions : List Action},
    (∀ action ∈ actions, action.sparesFlag = true) →
      ∀ watched, (ofActions result actions).SparesFlag again watched
  | [], _, _ => trivial
  | action :: rest, spare, watched => by
    obtain ⟨first, others⟩ := List.forall_mem_cons.1 spare
    refine sparesFlag_ofAction first (fun done watched => ?_) watched
    cases done with
    | error failure => trivial
    | ok value => exact sparesFlag_ofActions result others watched

/-- **A script spares the flag** if all its actions do. -/
theorem sparesFlag_ofScript {script : Script}
    (spare : ∀ action ∈ script.actions, action.sparesFlag = true) (watched : Watched) :
    (ofScript script).SparesFlag again watched :=
  ⟨rfl, sparesFlag_ofActions script.result spare _⟩

end Conduct

/-! ## Stages -/

namespace Watch

variable {cast : Script → Conduct} {depth : Nat} {bus : BusRef} {stage : Option String}
  {watched last : Watched} {responses : Responses}

/-- The **visits** that a trigger makes itself. -/
def visits (cast : Script → Conduct) (depth : Nat) (bus : BusRef) (stage : Option String)
    (watched : Watched) : List (Visit (Subscription Handler) Watched) :=
  (settle (visiting cast depth bus stage) (watched, [])).2.2

/-- A trigger that returns has gone through the listeners of its stage. -/
theorem exists_goesThrough_of_returns
    (returns : settle (trigger cast (depth + 1) bus stage) watched = (.ok responses, last)) :
    let name := stage.getD watched.scene.event.name
    ∃ order, (watched.scene.site.buses.get bus).listeners name = .ok order ∧
      GoesThrough (fun subscription => handler cast (trigger cast depth) subscription.listener)
        (·.scene.event.stopped) order (watched.opened bus name)
        (visits cast depth bus stage watched) (.ok responses) last := by
  intro name
  cases listed : (watched.scene.site.buses.get bus).listeners name with
  | error failure =>
    rw [(settle_visiting_of_error listed).2] at returns
    cases returns
  | ok order =>
    obtain ⟨settled, through⟩ := goesThrough_visiting listed
    rw [settled, Prod.mk.injEq] at returns
    obtain ⟨isOk, isLast⟩ := returns
    rw [isOk, isLast] at through
    exact ⟨order, rfl, through⟩

/-- **A trigger that returns** leaves the flag with which it returns. -/
theorem stopped_of_returns
    (returns : settle (trigger cast depth bus stage) watched = (.ok responses, last)) :
    last.scene.event.stopped = responses.stopped := by
  cases depth with
  | zero => cases returns
  | succ depth =>
    obtain ⟨order, -, through⟩ := exists_goesThrough_of_returns returns
    exact through.stopped_last rfl

/-- A visit in which the last trigger **ended stopped**. -/
def EndsStopped (cast : Script → Conduct) (again : Trigger)
    (visit : Visit (Subscription Handler) Watched) : Prop :=
  ∃ ended, (endsOf cast again visit.listener.listener visit.before).getLast? = some ended ∧
    ended.2.scene.event.stopped = true

/-- A guard that **denied** the event in a visit, and whose error stage was stopped. -/
def DeniesStopped (again : Trigger) (ref : GuardRef)
    (visit : Visit (Subscription Handler) Watched) : Prop :=
  ∃ turned bus calls responses,
    verdictOf ref visit.before = (.ok (.denied turned bus), calls) ∧
    settle (again bus (some Stage.dispatchError.name))
      (announcing (visit.before.scene.site.kindOf ref).id turned (asking ref calls visit.before)) =
        (.ok responses, visit.after) ∧
    responses.stopped = true

/-- **A guard's visit ends stopped** iff the guard denied the event and its error stage was
stopped. -/
theorem endsStopped_guard_iff {visit : Visit (Subscription Handler) Watched} {ref : GuardRef}
    (isGuard : visit.listener.listener = .guard ref)
    (invoked : settle (handler cast (trigger cast depth) visit.listener.listener) visit.before =
      (visit.result, visit.after)) (returns : ∃ value, visit.result = .ok value) :
    EndsStopped cast (trigger cast depth) visit ↔
      DeniesStopped (trigger cast depth) ref visit := by
  obtain ⟨value, isOk⟩ := returns
  rw [isOk, isGuard] at invoked
  obtain ⟨_, ran⟩ := exists_of_settle_return invoked
  rw [settle_guard_verdictOf] at ran
  unfold EndsStopped DeniesStopped
  rw [isGuard, endsOf, endsOfGuard]
  rcases found : verdictOf ref visit.before with ⟨failure | verdict, calls⟩
  · rw [found] at ran
    cases ran
  · rw [found] at ran
    cases verdict with
    | skip => simp [endsOfVerdict]
    | allowed event => simp [endsOfVerdict]
    | denied turned bus =>
      -- the error stage returned, as the guard did, and left what the guard left
      dsimp only at ran
      rw [settle_follow_denied] at ran
      obtain ⟨responses, ended⟩ := exists_of_settle_return ran
      constructor
      · rintro ⟨_, isLast, flag⟩
        cases isLast
        rw [ended] at flag
        refine ⟨turned, bus, calls, responses, rfl, ended, ?_⟩
        exact (stopped_of_returns ended).symm.trans flag
      · rintro ⟨_, _, _, _, same, ended', flag⟩
        cases same
        refine ⟨_, rfl, ?_⟩
        rw [ended']
        exact (stopped_of_returns ended').trans flag
    | unrecorded event failure => cases ran

/-- **What stops a stage.** If the listeners that a trigger visits spare the flag, and the trigger
returns, then it was stopped iff the last trigger inside one of them ended stopped; if there is no
such listener, all listeners of the stage ran. A guard is such a listener iff it denied the event
and its error stage was stopped. With scripts that act as they say, this is the trigger of the
pipeline. -/
theorem stopped_iff_endsStopped
    (returns : settle (trigger cast (depth + 1) bus stage) watched = (.ok responses, last))
    (spares : ∀ visit ∈ visits cast depth bus stage watched, ∀ script,
      visit.listener.listener = .script script →
        (cast script).SparesFlag (trigger cast depth) visit.before) :
    let name := stage.getD watched.scene.event.name
    let visits := visits cast depth bus stage watched
    ∃ order, (watched.scene.site.buses.get bus).listeners name = .ok order ∧
      GoesThrough (fun subscription => handler cast (trigger cast depth) subscription.listener)
        (·.scene.event.stopped) order (watched.opened bus name) visits (.ok responses) last ∧
      (responses.stopped = true ↔
        ∃ visit ∈ visits, EndsStopped cast (trigger cast depth) visit) ∧
      ((∀ visit ∈ visits, ¬ EndsStopped cast (trigger cast depth) visit) →
        visits.map (·.listener) = order) ∧
      (∀ visit ∈ visits, ∀ ref, visit.listener.listener = .guard ref →
        (EndsStopped cast (trigger cast depth) visit ↔
          DeniesStopped (trigger cast depth) ref visit)) ∧
      Mirrors (trigger .ofScript (depth + 1) bus stage) (Run.trigger (depth + 1) bus stage) := by
  intro name visits
  obtain ⟨order, listed, through⟩ := exists_goesThrough_of_returns returns
  have flags : ∀ visit ∈ visits, (visit.after.scene.event.stopped = true ↔
      EndsStopped cast (trigger cast depth) visit) := by
    intro visit mem
    have left := stopped_handler (spares visit mem)
    rw [through.invoked visit mem, through.before_running rfl visit mem] at left
    exact (Bool.eq_iff_iff.1 left).trans (flagAfter_false_iff _)
  refine ⟨order, listed, through, ?_, ?_, ?_, mirrors_trigger (depth + 1) bus stage⟩
  · rw [through.stopped_iff]
    exact exists_congr fun visit => and_congr_right (flags visit)
  · intro none
    refine through.visits_all fun visit mem => ?_
    exact Bool.eq_false_iff.2 fun flag => none visit mem ((flags visit mem).1 flag)
  · intro visit mem ref isGuard
    exact endsStopped_guard_iff isGuard (through.invoked visit mem) (through.exists_value mem)

end Watch

/-! ## A stage stopped by another one -/

/-- A listener that does nothing. -/
def Script.idle : Script := .of "idle" [] .null

/-- A bus with a guard before an idle listener on the route stage, and on the error stage a listener
that sets the stop flag, or clears it. -/
def Bus.guarded (flag : Bool) : Bus Handler where
  subscriptions :=
    [⟨Stage.route.name, .guard 0, .int (-1000), 1⟩,
      ⟨Stage.route.name, .script .idle, .int (-2000), 2⟩,
      ⟨Stage.dispatchError.name, .script (.of "error" [.stop flag] .null), .int 1, 3⟩]
  issued := 3

/-- A request on such a bus that the guard denies, as nothing is allowed. -/
def Scene.ofDenial (flag : Bool) : Scene where
  site :=
    { buses := ⟨1, fun _ => .guarded flag⟩
      guards := ⟨1, fun _ => { guard := ⟨.controller, []⟩, authority := some 0 }⟩ }
  event :=
    { request := some (.http {})
      routeMatch := some { params := [("controller", .str "pages")] }
      bus := some 0 }

/-- The guard runs before the idle listener. -/
theorem Bus.listeners_guarded_route (flag : Bool) :
    (guarded flag).listeners Stage.route.name =
      .ok [⟨Stage.route.name, .guard 0, .int (-1000), 1⟩,
        ⟨Stage.route.name, .script .idle, .int (-2000), 2⟩] := by
  have ranks : ((guarded flag).onStage Stage.route.name).mapM rank? =
      some [(⟨Stage.route.name, .guard 0, .int (-1000), 1⟩, .ofInt (-1000)),
        (⟨Stage.route.name, .script .idle, .int (-2000), 2⟩, .ofInt (-2000))] := rfl
  exact listeners_of_pairwise ranks (List.pairwise_pair.2 rfl)

theorem Bus.listeners_guarded_error (flag : Bool) :
    (guarded flag).listeners Stage.dispatchError.name =
      .ok [⟨Stage.dispatchError.name, .script (.of "error" [.stop flag] .null), .int 1, 3⟩] := by
  have ranks : ((guarded flag).onStage Stage.dispatchError.name).mapM rank? =
      some [(⟨Stage.dispatchError.name, .script (.of "error" [.stop flag] .null), .int 1, 3⟩,
        .ofInt 1)] := rfl
  exact listeners_of_pairwise ranks (List.pairwise_singleton _ _)

namespace Run

/-- The guard denies the request, and triggers the error stage. -/
theorem exists_settle_guard_ofDenial (flag : Bool) (again : GuardedDispatch.Trigger) :
    ∃ turned calls, turned.outcome GuardKind.controller.id = .errorTriggered ∧
      settle (guard again 0) { Scene.ofDenial flag with
          event := startStage (some Stage.route.name) (Scene.ofDenial flag).event } =
        settle (discard (again 0 (some Stage.dispatchError.name)))
          { (Scene.ofDenial flag).noting calls with event := turned } := by
  rw [settle_guard rfl]
  exact ⟨_, _, rfl, rfl⟩

/-- **The route stage goes on** behind the guard iff the error stage does. -/
theorem exists_settle_route_ofDenial (flag : Bool) (depth : Nat) :
    ∃ after, settle (trigger (depth + 2) 0 (some Stage.route.name)) (.ofDenial flag) =
        (.ok (if flag then ⟨[.null], true⟩ else ⟨[.null, .null], false⟩), after) ∧
      after.event.outcome GuardKind.controller.id = .errorTriggered ∧
      after.event.stopped = flag := by
  obtain ⟨turned, calls, outcome, denies⟩ :=
    exists_settle_guard_ofDenial flag (trigger (depth + 1))
  rw [settle_trigger_of_listed (Bus.listeners_guarded_route flag), runListeners, settle_bind,
    handler, settle_return, denies, settle_discard,
    settle_trigger_of_listed (Bus.listeners_guarded_error flag)]
  cases flag with
  | true => exact ⟨_, rfl, outcome, rfl⟩
  | false => exact ⟨_, rfl, outcome, rfl⟩

end Run

theorem Watch.stopped_iff_endsStopped_ofDenial :
    let visits := visits .ofScript 2 0 (some Stage.route.name) ⟨.ofDenial false, []⟩
    visits.map (·.listener.listener) = [.guard 0, .script .idle] ∧
      ∀ visit ∈ visits, ¬ EndsStopped .ofScript (trigger .ofScript 2) visit := by
  let watched : Watched := ⟨.ofDenial false, []⟩
  intro visits
  obtain ⟨after, ran, -, -⟩ := Run.exists_settle_route_ofDenial false 1
  have result := congrArg Prod.fst
    ((mirrors_trigger 3 0 (some Stage.route.name) watched).trans ran)
  have returns : settle (trigger .ofScript 3 0 (some Stage.route.name)) watched =
      (.ok ⟨[.null, .null], false⟩,
        (settle (trigger .ofScript 3 0 (some Stage.route.name)) watched).2) :=
    Prod.ext result rfl
  obtain ⟨order, listed, through⟩ := exists_goesThrough_of_returns returns
  cases (Bus.listeners_guarded_route false).symm.trans listed
  have spares : ∀ visit ∈ visits, ∀ script, visit.listener.listener = .script script →
      (Conduct.ofScript script).SparesFlag (trigger .ofScript 2) visit.before := by
    intro visit mem script isScript
    have attached := through.early.subset (List.mem_map_of_mem mem)
    rcases List.mem_pair.1 attached with isGuard | isIdle
    · rw [isGuard] at isScript
      cases isScript
    · rw [isIdle] at isScript
      cases isScript
      exact Conduct.sparesFlag_ofScript (fun _ mem => absurd mem List.not_mem_nil) visit.before
  obtain ⟨order, listed', -, stops, all, -⟩ := stopped_iff_endsStopped returns spares
  cases listed.symm.trans listed'
  have none : ∀ visit ∈ visits, ¬ EndsStopped .ofScript (trigger .ofScript 2) visit :=
    fun visit mem ends => Bool.false_ne_true (stops.2 ⟨visit, mem, ends⟩)
  have listeners := congrArg (List.map (·.listener)) (all none)
  rw [List.map_map] at listeners
  exact ⟨listeners, none⟩

/-- A guard stops the route stage if a listener stops the error stage: the idle listener behind the
guard does not run, although nobody stopped the stage that it listens on. -/
theorem Run.stops_route_by_error_stage :
    let scene := Scene.ofDenial true
    let ran := settle (triggerStage 0 .route) scene
    ((scene.site.buses.get 0).listeners Stage.route.name).map (·.map (·.listener)) =
        .ok [.guard 0, .script .idle] ∧
      ran.2.event.outcome GuardKind.controller.id = .errorTriggered ∧
      ran.1 = .ok ⟨[.null], true⟩ ∧
      ran.2.event.stopped = true := by
  obtain ⟨after, ran, outcome, stopped⟩ := exists_settle_route_ofDenial true 298
  have ran' : settle (triggerStage 0 .route) (.ofDenial true) = _ := ran
  intro scene result
  refine ⟨?_, ?_, ?_, ?_⟩
  · rw [show scene.site.buses.get 0 = .guarded true from rfl, Bus.listeners_guarded_route]
    rfl
  · rw [show result = _ from ran']
    exact outcome
  · rw [show result = _ from ran']
    rfl
  · rw [show result = _ from ran']
    exact stopped

end GuardedDispatch
