import GuardedDispatch.Proofs.Dispatch.Outcomes

/-! # Listeners of any conduct

A script goes straight through its actions. What holds of all listeners has to be said of more: of
listeners that look around, decide, catch failures, and change the site and the event as they like.
A **conduct** is what such a listener does, and also what a caller does who triggers stages and
calls guards (`Conduct`). Outcomes are the one thing that it cannot write: they are moved.

**Watched** runs do what runs do and keep a history of it (`Watch`): which stages were triggered,
which guards consulted their oracle, which outcomes moved, and which denials were announced. In
`Watch.trigger cast`, a script stands for the conduct that `cast` gives it.

* **`Watch.mirrors_trigger`**: if every script acts as it says (`Conduct.ofScript`), a watched
  trigger is the trigger of the pipeline, with the same result and the same scene. -/

namespace GuardedDispatch

variable {α β : Type}

/-- What is **noteworthy** in a run. -/
inductive Happening where
  /-- A stage was triggered on a bus. -/
  | started (bus : BusRef) (stage : String)
  /-- A guard consulted its oracle. -/
  | asked (guard : GuardRef)
  /-- The outcome of a guard moved. -/
  | moved (guard : String) (outcome : Outcome)
  /-- A guard triggered the error stage. -/
  | announced (guard : String)
  deriving DecidableEq, Repr

/-- A scene, and what **happened** up to it. -/
structure Watched where
  scene : Scene
  history : List Happening := []

/-- A **watched** run: it may fail, and keeps the scene and the history either way. -/
abbrev Watch := ExceptT Failure (StateM Watched)

/-- How a watched listener triggers a stage on a bus. -/
abbrev Watch.Trigger := BusRef → Option String → Watch Responses

/-- A **conduct**. Each step may depend on what was seen before, and on how earlier steps failed. -/
inductive Conduct where
  /-- Return, or fail. -/
  | done (result : Except Failure Value)
  /-- Look at the site, the event and the trace. -/
  | look (next : Scene → Conduct)
  /-- Change anything but the outcomes. -/
  | change (change : Scene → Scene) (next : Conduct)
  /-- Move the outcome of a guard. -/
  | move (guard : String) (target : Outcome) (next : Except Failure Unit → Conduct)
  /-- Let a guard check the event. -/
  | check (guard : GuardRef) (next : Except Failure Unit → Conduct)
  /-- Let a guard turn the event down. -/
  | deny (guard : GuardRef) (details : List (String × Value)) (subject : Word)
    (next : Except Failure Unit → Conduct)
  /-- Trigger a stage on a bus. -/
  | trigger (bus : BusRef) (stage : Option String) (next : Except Failure Responses → Conduct)

/-- The scene after a change, with the outcomes from before. -/
def Scene.changed (scene : Scene) (change : Scene → Scene) : Scene :=
  { change scene with event := { (change scene).event with outcomes := scene.event.outcomes } }

/-- A change that leaves the outcomes alone is made as it is. -/
theorem Scene.changed_of_same {scene : Scene} {change : Scene → Scene}
    (same : (change scene).event.outcomes = scene.event.outcomes) :
    scene.changed change = change scene := by
  rw [changed, ← same]

namespace GuardKind

/-- Whether a guard **consults** its oracle about an event: the guard applies, the event has a
target, and all candidates can be named. -/
def consults (kind : GuardKind) (event : Event) : Bool :=
  kind.applies event && (kind.target? event).any (·.candidates.isOk)

end GuardKind

/-- The consultation of a guard, if it is bound and consults its oracle. -/
def GuardPost.consultation (post : GuardPost) (ref : GuardRef) (event : Event) : List Happening :=
  if post.authority.isSome && post.guard.kind.consults event then [.asked ref] else []

/-! ## Watching -/

namespace Watch

/-- A run in which nothing is noteworthy. -/
def plain (run : Run α) : Watch α := ExceptT.mk fun watched =>
  ((settle run watched.scene).1, { watched with scene := (settle run watched.scene).2 })

/-- **Record** what happens. -/
def record (happenings : List Happening) : Watch Unit :=
  modify fun watched => { watched with history := watched.history ++ happenings }

/-- Go on to another event because of what happens. -/
def goOn (event : Event) (happenings : List Happening) : Watch Unit :=
  modify fun watched =>
    ⟨{ watched.scene with event }, watched.history ++ happenings⟩

/-- **Attempt** a run and get what came of it, also if it failed. -/
def attempt (watch : Watch α) : Watch (Except Failure α) := ExceptT.mk fun watched =>
  (.ok (settle watch watched).1, (settle watch watched).2)

/-- Move the outcome of a guard. -/
def move (guard : String) (target : Outcome) : Watch Unit := do
  let event ← plain (liftM ((← plain Run.event).transition guard target))
  goOn event [.moved guard target]

/-- What a denial of a guard is to the history. -/
def denial (guard : String) : List Happening :=
  [.moved guard .denied, .moved guard .errorTriggered, .announced guard]

/-- **Follow** the verdict of a guard. -/
def follow (again : Trigger) (guard : String) : Verdict → Watch Unit
  | .skip => return ()
  | .allowed event => goOn event [.moved guard .allowed]
  | .denied event bus => do
    goOn event (denial guard)
    discard (again bus (some Stage.dispatchError.name))
  | .unrecorded event failure => do
    goOn event [.moved guard .denied]
    throw failure

/-- Run a **guard**. -/
def guard (again : Trigger) (ref : GuardRef) : Watch Unit := do
  let scene ← plain get
  let post := scene.site.guards.get ref
  record (post.consultation ref scene.event)
  let verdict ← plain (Run.ask
    (post.guard.kind.check (post.authority.map scene.site.oracle) scene.event))
  follow again post.guard.kind.id verdict

/-- Let a guard **turn down** the event. -/
def turnDown (again : Trigger) (ref : GuardRef) (details : List (String × Value))
    (subject : Word) : Watch Unit := do
  let scene ← plain get
  let kind := (scene.site.guards.get ref).guard.kind
  let verdict ← plain (liftM (kind.deny scene.event details subject))
  follow again kind.id verdict

/-- **Play** a conduct. -/
def play (again : Trigger) : Conduct → Watch Value
  | .done result => liftM result
  | .look next => do play again (next (← plain get))
  | .change change next => do
    plain (modify fun scene => scene.changed change)
    play again next
  | .move guard target next => do play again (next (← attempt (move guard target)))
  | .check ref next => do play again (next (← attempt (guard again ref)))
  | .deny ref details subject next => do
    play again (next (← attempt (turnDown again ref details subject)))
  | .trigger bus stage next => do play again (next (← attempt (again bus stage)))

/-- Run a **listener**. -/
def handler (cast : Script → Conduct) (again : Trigger) : Handler → Watch Value
  | .guard ref => do
    guard again ref
    return .null
  | .strategy ref => do
    plain (Run.strategy ref)
    return .null
  | .script script => play again (cast script)
  | .spy authority => do
    plain (Run.spy authority)
    return .null

/-- Start a stage, and get the listeners in the order in which they run. -/
def start (bus : BusRef) (stage : Option String) : Watch (List (Subscription Handler)) := do
  plain (Run.changeEvent (Run.startStage stage))
  let scene ← plain get
  record [.started bus scene.event.name]
  plain (liftM ((scene.site.buses.get bus).listeners scene.event.name))

/-- **Trigger** a stage of the event on a bus. -/
def trigger (cast : Script → Conduct) : Nat → Trigger
  | 0, _, _ => throw .tooDeep
  | depth + 1, bus, stage => do
    let listeners ← start bus stage
    runListeners (fun subscription => handler cast (trigger cast depth) subscription.listener)
      (plain (return (← Run.event).stopped)) listeners

end Watch

/-! ## Scripts as conducts -/

namespace Conduct

/-- What an **action** does. -/
def ofAction : Action → (Except Failure Value → Conduct) → Conduct
  | .transition guard target, next =>
    .move guard target fun moved => next (moved.map fun _ => .null)
  | .trigger bus stage, next => .look fun scene =>
    match scene.site.busNamed bus with
    | .error failure => next (.error failure)
    | .ok ref => .trigger ref stage fun responses => next (responses.map fun r => .list r.values)
  | action, next => .look fun scene =>
    -- no other action triggers anything
    let run := Run.action (fun _ _ => throw .tooDeep) action
    .change (fun scene => (settle run scene).2) (next (settle run scene).1)

/-- What **actions** do one after the other, up to the first that fails. -/
def ofActions (result : Value) : List Action → Conduct
  | [] => .done (.ok result)
  | action :: rest => ofAction action fun
    | .ok _ => ofActions result rest
    | .error failure => .done (.error failure)

/-- What a **script** does. -/
def ofScript (script : Script) : Conduct :=
  .change (fun scene => scene.noting [.listener script.label scene.event.name scene.event.error])
    (ofActions script.result script.actions)

end Conduct

/-! ## Watching changes nothing -/

namespace Watch

@[simp] theorem settle_plain (run : Run α) (watched : Watched) :
    settle (plain run) watched =
      ((settle run watched.scene).1, { watched with scene := (settle run watched.scene).2 }) := rfl

@[simp] theorem settle_record (happenings : List Happening) (watched : Watched) :
    settle (record happenings) watched =
      (.ok (), { watched with history := watched.history ++ happenings }) := rfl

@[simp] theorem settle_goOn (event : Event) (happenings : List Happening) (watched : Watched) :
    settle (goOn event happenings) watched =
      (.ok (), ⟨{ watched.scene with event }, watched.history ++ happenings⟩) := rfl

@[simp] theorem settle_attempt (watch : Watch α) (watched : Watched) :
    settle (attempt watch) watched = (.ok (settle watch watched).1, (settle watch watched).2) := rfl

/-- **A watched move** goes on to the event behind its edge, and fails where there is none. -/
theorem settle_move (guard : String) (target : Outcome) (watched : Watched) :
    settle (move guard target) watched =
      match watched.scene.event.transition guard target with
      | .ok event =>
        (.ok (), ⟨{ watched.scene with event }, watched.history ++ [.moved guard target]⟩)
      | .error failure => (.error failure, watched) := by
  unfold move
  rw [settle_bind, settle_plain, Run.settle_event]
  dsimp only
  rw [settle_bind, settle_plain, settle_liftM]
  cases watched.scene.event.transition guard target <;> rfl

/-- A watched run **mirrors** a run that has the same result and leaves the same scene. -/
def Mirrors (watch : Watch α) (run : Run α) : Prop :=
  ∀ watched, ((settle watch watched).1, (settle watch watched).2.scene) = settle run watched.scene

theorem mirrors_plain (run : Run α) : Mirrors (plain run) run := fun _ => rfl

theorem mirrors_pure (value : α) : Mirrors (pure value) (pure value) := fun _ => rfl

/-- Runs are mirrored one after the other. -/
theorem mirrors_bind {watch : Watch α} {run : Run α} {next : α → Watch β} {next' : α → Run β}
    (first : Mirrors watch run) (second : ∀ value, Mirrors (next value) (next' value)) :
    Mirrors (watch >>= next) (run >>= next') := by
  intro watched
  have middle := first watched
  rw [settle_bind, settle_bind, ← middle]
  rcases settle watch watched with ⟨_ | value, after⟩
  · rfl
  · exact second value after

variable {again : Trigger} {again' : GuardedDispatch.Trigger}

/-- **A watched guard** asks what it has to, and follows the verdict unless asking failed. -/
theorem settle_guard {ref : GuardRef} {watched : Watched} {post : GuardPost}
    (stands : watched.scene.site.guards.get ref = post) (again : Trigger) :
    settle (guard again ref) watched =
      let history := watched.history ++ post.consultation ref watched.scene.event
      match (post.guard.kind.check (post.authority.map watched.scene.site.oracle)
        watched.scene.event).outcome with
      | (.error failure, calls) => (.error failure, ⟨watched.scene.noting calls, history⟩)
      | (.ok verdict, calls) =>
        settle (follow again post.guard.kind.id verdict)
          ⟨watched.scene.noting calls, history⟩ := by
  subst stands
  unfold guard
  rw [settle_bind_of_ok (settle_plain _ _)]
  dsimp only [settle_get]
  rw [settle_bind_of_ok (settle_record _ _), settle_bind, settle_plain, Run.settle_ask]
  rcases Asking.outcome _ with ⟨_ | verdict, calls⟩ <;> rfl

/-- **A guard that turns down** the event follows its verdict, unless turning down failed. -/
theorem settle_turnDown (again : Trigger) (ref : GuardRef) (details : List (String × Value))
    (subject : Word) (watched : Watched) :
    settle (turnDown again ref details subject) watched =
      let kind := (watched.scene.site.guards.get ref).guard.kind
      match kind.deny watched.scene.event details subject with
      | .ok verdict => settle (follow again kind.id verdict) watched
      | .error failure => (.error failure, watched) := by
  unfold turnDown
  rw [settle_bind_of_ok (settle_plain _ _)]
  dsimp only [settle_get]
  rw [settle_bind, settle_plain, settle_liftM]
  cases GuardKind.deny _ watched.scene.event details subject <;> rfl

/-- **A guard** is mirrored. -/
theorem mirrors_guard (nested : ∀ bus stage, Mirrors (again bus stage) (again' bus stage))
    (ref : GuardRef) : Mirrors (guard again ref) (Run.guard again' ref) := by
  intro watched
  rw [settle_guard rfl, Run.settle_guard rfl]
  rcases Asking.outcome _ with ⟨_ | _ | event | ⟨event, bus⟩ | _, calls⟩
  · rfl
  · rfl
  · rfl
  · exact mirrors_bind (nested bus _) (fun _ => mirrors_pure ()) _
  · rfl

/-- An action that triggers nothing does not depend on how stages are triggered. -/
theorem action_congr {action : Action} (silent : ∀ bus stage, action ≠ .trigger bus stage)
    (again other : GuardedDispatch.Trigger) :
    Run.action again action = Run.action other action := by
  cases action with
  | trigger bus stage => exact absurd rfl (silent bus stage)
  | _ => rfl

/-- An action that moves no outcome and triggers nothing leaves the outcomes alone. -/
theorem outcomes_action {action : Action}
    (still : ∀ guard target, action ≠ .transition guard target)
    (silent : ∀ bus stage, action ≠ .trigger bus stage) (again : GuardedDispatch.Trigger)
    (scene : Scene) :
    (settle (Run.action again action) scene).2.event.outcomes = scene.event.outcomes := by
  have blind : Run.Blind fun after => after.event.outcomes = scene.event.outcomes :=
    ⟨fun same eq => same.trans eq⟩
  rw [action_congr silent again fun _ _ => throw .tooDeep]
  exact Run.keeps_quiet blind (fun _ _ => keeps_throw _) still scene rfl

/-- The conduct of an action that moves no outcome and triggers nothing. -/
theorem settle_ofAction_of_quiet {action : Action}
    (still : ∀ guard target, action ≠ .transition guard target)
    (silent : ∀ bus stage, action ≠ .trigger bus stage) (again : Trigger)
    (again' : GuardedDispatch.Trigger) (next : Except Failure Value → Conduct)
    (watched : Watched) :
    settle (play again (.ofAction action next)) watched =
      settle (play again (next (settle (Run.action again' action) watched.scene).1))
        { watched with scene := (settle (Run.action again' action) watched.scene).2 } := by
  have same := outcomes_action still silent (fun _ _ => throw .tooDeep) watched.scene
  have looks : Conduct.ofAction action next = .look fun scene =>
      .change (fun scene => (settle (Run.action (fun _ _ => throw .tooDeep) action) scene).2)
        (next (settle (Run.action (fun _ _ => throw .tooDeep) action) scene).1) := by
    cases action with
    | transition guard target => exact absurd rfl (still guard target)
    | trigger bus stage => exact absurd rfl (silent bus stage)
    | _ => rfl
  have changed : watched.scene.changed (fun scene =>
        (settle (Run.action (fun _ _ => throw .tooDeep) action) scene).2) =
      (settle (Run.action (fun _ _ => throw .tooDeep) action) watched.scene).2 :=
    Scene.changed_of_same same
  rw [looks, action_congr silent again' fun _ _ => throw .tooDeep, ← changed]
  rfl

/-- **The conduct of an action** goes on from the scene that the action leaves, with what came of
it. -/
theorem exists_settle_ofAction
    (nested : ∀ bus stage, Mirrors (again bus stage) (again' bus stage))
    (action : Action) (next : Except Failure Value → Conduct) (watched : Watched) :
    ∃ history, settle (play again (.ofAction action next)) watched =
      settle (play again (next (settle (Run.action again' action) watched.scene).1))
        ⟨(settle (Run.action again' action) watched.scene).2, history⟩ := by
  cases action with
  | transition guard target =>
    rw [Run.settle_transition, Conduct.ofAction, play, settle_bind_of_ok (settle_attempt _ _),
      settle_move]
    cases watched.scene.event.transition guard target with
    | error failure => exact ⟨_, rfl⟩
    | ok event => exact ⟨_, rfl⟩
  | trigger bus stage =>
    rw [Conduct.ofAction, play, settle_bind_of_ok (settle_plain _ _), settle_get]
    have ran : settle (Run.action again' (.trigger bus stage)) watched.scene =
        settle (liftM (watched.scene.site.busNamed bus) >>= fun ref =>
          again' ref stage >>= fun responses => pure (.list responses.values)) watched.scene := rfl
    rw [ran, settle_bind, settle_liftM]
    cases watched.scene.site.busNamed bus with
    | error failure => exact ⟨_, rfl⟩
    | ok ref =>
      dsimp only
      rw [play, settle_bind_of_ok (settle_attempt _ _), settle_bind, ← nested ref stage watched]
      rcases settle (again ref stage) watched with ⟨_ | responses, after⟩
      · exact ⟨_, rfl⟩
      · exact ⟨_, rfl⟩
  | _ => exact ⟨_, settle_ofAction_of_quiet (by nofun) (by nofun) again again' next watched⟩

/-- **The conduct of actions** mirrors them. -/
theorem mirrors_ofActions (nested : ∀ bus stage, Mirrors (again bus stage) (again' bus stage))
    (result : Value) : ∀ actions : List Action,
      Mirrors (play again (.ofActions result actions))
        (discard (Run.actions again' actions) >>= fun _ => pure result)
  | [] => fun _ => rfl
  | action :: rest => by
    intro watched
    have others := mirrors_ofActions nested result rest
    obtain ⟨history, eq⟩ := exists_settle_ofAction nested action (fun
      | .ok _ => .ofActions result rest
      | .error failure => .done (.error failure)) watched
    rw [Conduct.ofActions, eq, Run.actions, List.mapM_cons, settle_bind, Run.settle_discard,
      settle_bind]
    rcases settle (Run.action again' action) watched.scene with ⟨failure | value, after⟩
    · rfl
    · dsimp only
      rw [others ⟨after, history⟩, settle_bind, Run.settle_discard, settle_bind, Run.actions]
      rcases settle (List.mapM (Run.action again') rest) after with ⟨_ | values, last⟩ <;> rfl

/-- **The conduct of a script** mirrors it. -/
theorem mirrors_ofScript (nested : ∀ bus stage, Mirrors (again bus stage) (again' bus stage))
    (script : Script) : Mirrors (play again (.ofScript script)) (Run.script again' script) := by
  intro watched
  exact mirrors_ofActions nested script.result script.actions ⟨watched.scene.noting _, _⟩

/-- **Every listener** is mirrored, if scripts act as they say. -/
theorem mirrors_handler (nested : ∀ bus stage, Mirrors (again bus stage) (again' bus stage)) :
    ∀ listener, Mirrors (handler .ofScript again listener) (Run.handler again' listener)
  | .guard ref => mirrors_bind (mirrors_guard nested ref) fun _ => mirrors_pure _
  | .strategy _ => mirrors_bind (mirrors_plain _) fun _ => mirrors_pure _
  | .script script => mirrors_ofScript nested script
  | .spy _ => mirrors_bind (mirrors_plain _) fun _ => mirrors_pure _

/-- Listeners that are mirrored are so one after the other. -/
theorem mirrors_runListeners {η : Type} {invoke : η → Watch Value} {invoke' : η → Run Value}
    (each : ∀ listener, Mirrors (invoke listener) (invoke' listener)) (isStopped : Run Bool) :
    ∀ listeners, Mirrors (runListeners invoke (plain isStopped) listeners)
      (runListeners invoke' isStopped listeners)
  | [] => mirrors_pure _
  | listener :: rest => by
    refine mirrors_bind (each listener) fun value =>
      mirrors_bind (mirrors_plain _) fun stopped => ?_
    cases stopped with
    | true => exact mirrors_pure _
    | false =>
      exact mirrors_bind (mirrors_runListeners each isStopped rest) fun _ => mirrors_pure _

/-- **A stage starts** with its name and no flag, and fails if its listeners have no order. -/
theorem settle_start (bus : BusRef) (stage : Option String) (watched : Watched) :
    settle (start bus stage) watched =
      let event := Run.startStage stage watched.scene.event
      ((watched.scene.site.buses.get bus).listeners event.name,
        ⟨{ watched.scene with event }, watched.history ++ [.started bus event.name]⟩) := rfl

/-- **A watched trigger is the trigger of the pipeline**, if scripts act as they say: it has the
same result and leaves the same scene. -/
theorem mirrors_trigger : ∀ (depth : Nat) (bus : BusRef) (stage : Option String),
    Mirrors (trigger .ofScript depth bus stage) (Run.trigger depth bus stage)
  | 0, _, _ => fun _ => rfl
  | depth + 1, bus, stage => by
    intro watched
    rw [trigger, settle_bind, settle_start, Run.trigger,
      settle_bind_of_ok (Run.settle_changeEvent _ _), settle_bind_of_ok (Run.settle_site _),
      settle_bind_of_ok (Run.settle_event _), settle_bind, settle_liftM]
    dsimp only
    cases (watched.scene.site.buses.get bus).listeners
        (Run.startStage stage watched.scene.event).name with
    | error failure => rfl
    | ok listeners =>
      exact mirrors_runListeners (fun subscription =>
        mirrors_handler (mirrors_trigger depth) subscription.listener) _ listeners _

end Watch

end GuardedDispatch
