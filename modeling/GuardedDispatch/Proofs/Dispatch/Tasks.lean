import GuardedDispatch.Proofs.Dispatch.Onlooking

/-! # Tasks

Watched runs cut into steps, so that other runs can take place between them. A **task** (`Task`)
takes one step after the other; it may be put aside after each, and goes on from whatever state it
finds. `Task.trigger cast` triggers a stage in steps: guards, strategies, and all that a conduct
does.

* **`Task.CarriesOut`**: a task that is taken to its end without a break is a given watched run, and
  each of its steps is private. It leaves alone what the requests of a site share, wherever it was
  put aside, as long as the others do so too.
* **`Task.performs_trigger`**: triggers in steps carry out triggers, if all scripts that listen on a
  bus of the site are discreet (`Conduct.Discreet`). -/

namespace GuardedDispatch

variable {σ α β : Type}

/-- A **task**: each step changes the state, and what it found decides how the task goes on. -/
inductive Task (σ α : Type) where
  /-- The end, with a result. -/
  | done (result : Except Failure α)
  /-- A step, and what is left to do behind it. -/
  | step (change : σ → σ) (next : σ → Task σ α)

namespace Task

/-- Go on with another task, unless the first one fails. -/
def bind : Task σ α → (α → Task σ β) → Task σ β
  | done (.ok value), next => next value
  | done (.error failure), _ => done (.error failure)
  | step change rest, next => step change fun state => (rest state).bind next

instance : Monad (Task σ) where
  pure value := done (.ok value)
  bind := bind

/-- Attempt a task and get what came of it, also if it failed. -/
def attempt : Task σ α → Task σ (Except Failure α)
  | done result => done (.ok result)
  | step change rest => step change fun state => (rest state).attempt

/-- Take steps at once, without a break. -/
def atomically (steps : ExceptT Failure (StateM σ) α) : Task σ α :=
  step (fun state => (settle steps state).2) fun state => done (settle steps state).1

/-- **Finish** a task without a break. -/
def finish : Task σ α → σ → Except Failure α × σ
  | done result, state => (result, state)
  | step change rest, state => (rest state).finish (change state)

/-- How many steps a task has left, without a break. -/
def length : Task σ α → σ → Nat
  | done _, _ => 0
  | step change rest, state => (rest state).length (change state) + 1

/-- The **result** of a task that is done. -/
def result? : Task σ α → Option (Except Failure α)
  | done result => some result
  | step .. => none

/-- A task behind another goes on from where that one ended, unless it failed. -/
theorem finish_bind (next : α → Task σ β) : ∀ (task : Task σ α) (state : σ),
    (task >>= next).finish state =
      match task.finish state with
      | (.ok value, after) => (next value).finish after
      | (.error failure, after) => (.error failure, after)
  | done (.ok _), _ => rfl
  | done (.error _), _ => rfl
  | step change rest, state => finish_bind next (rest state) (change state)

theorem finish_attempt : ∀ (task : Task σ α) (state : σ),
    task.attempt.finish state = (.ok (task.finish state).1, (task.finish state).2)
  | done _, _ => rfl
  | step change rest, state => finish_attempt (rest state) (change state)

/-! ## Triggers in steps -/

/-- How a listener triggers a stage on a bus in steps. -/
abbrev Trigger := BusRef → Option String → Task Watched Responses

/-- **Follow** the verdict of a guard. -/
def follow (again : Trigger) (guard : String) : Verdict → Task Watched Unit
  | .skip => return ()
  | .allowed event => atomically (Watch.goOn event [.moved guard .allowed])
  | .denied event bus => do
    atomically (Watch.goOn event (Watch.denial guard))
    discard (again bus (some Stage.dispatchError.name))
  | .unrecorded event failure => atomically do
    Watch.goOn event [.moved guard .denied]
    throw failure

/-- Run a **guard**. -/
def guard (again : Trigger) (ref : GuardRef) : Task Watched Unit := do
  let scene ← atomically (Watch.plain get)
  let post := scene.site.guards.get ref
  atomically (Watch.record (post.consultation ref scene.event))
  let verdict ← atomically (Watch.plain (Run.ask
    (post.guard.kind.check (post.authority.map scene.site.oracle) scene.event)))
  follow again post.guard.kind.id verdict

/-- Let a guard **turn down** the event. -/
def turnDown (again : Trigger) (ref : GuardRef) (details : List (String × Value))
    (subject : Word) : Task Watched Unit := do
  let scene ← atomically (Watch.plain get)
  let kind := (scene.site.guards.get ref).guard.kind
  let verdict ← atomically (Watch.plain (liftM (kind.deny scene.event details subject)))
  follow again kind.id verdict

/-- **Play** a conduct. -/
def play (again : Trigger) : Conduct → Task Watched Value
  | .done result => atomically (liftM result)
  | .look next => do play again (next (← atomically (Watch.plain get)))
  | .change change next => do
    atomically (Watch.plain (modify fun scene => scene.changed change))
    play again next
  | .move guard target next => do
    play again (next (← (atomically (Watch.move guard target)).attempt))
  | .check ref next => do play again (next (← (guard again ref).attempt))
  | .deny ref details subject next => do
    play again (next (← (turnDown again ref details subject).attempt))
  | .trigger bus stage next => do play again (next (← (again bus stage).attempt))

/-- Run a **listener**. -/
def handler (cast : Script → Conduct) (again : Trigger) : Handler → Task Watched Value
  | .guard ref => do
    guard again ref
    return .null
  | .strategy ref => do
    atomically (Watch.plain (Run.strategy ref))
    return .null
  | .script script => play again (cast script)
  | .spy authority => do
    atomically (Watch.plain (Run.spy authority))
    return .null

/-- **Trigger** a stage of the event on a bus. The listeners are those of the moment when it
starts. -/
def trigger (cast : Script → Conduct) : Nat → Trigger
  | 0, _, _ => atomically (throw .tooDeep)
  | depth + 1, bus, stage => do
    let listeners ← atomically (Watch.start bus stage)
    runListeners (fun subscription => handler cast (trigger cast depth) subscription.listener)
      (atomically (Watch.plain (return (← Run.event).stopped))) listeners

end Task

/-! ## Privacy -/

/-- A watched scene that **shares** what a site shares. -/
def Watched.Shares (origin : Site) (watched : Watched) : Prop :=
  watched.scene.site.shared = origin.shared

/-- The buses are shared. -/
theorem Watched.Shares.buses {origin : Site} {watched : Watched} (shares : watched.Shares origin) :
    watched.scene.site.buses = origin.buses := by
  show watched.scene.site.shared.buses = origin.shared.buses
  exact congrArg Site.buses shares

/-- A watched run keeps sharing if it is private. -/
theorem Run.Private.keeps {run : Run α} (isPrivate : run.Private) (origin : Site) :
    Keeps (Watched.Shares origin) (Watch.plain run) :=
  fun watched shares => (isPrivate watched.scene).trans shares

/-- What requests share depends on the site alone. -/
theorem Run.grounded_shared (site : Site) :
    Grounded fun scene => scene.site.shared = site.shared :=
  ⟨fun same _ shares => (congrArg Site.shared same).trans shares⟩

theorem Run.private_strategy (ref : StrategyRef) : (strategy ref).Private :=
  fun scene => keeps_strategy (grounded_shared scene.site) ref scene rfl

theorem Run.private_spy (authority : AuthorityRef) : (spy authority).Private :=
  fun scene => keeps_spy (grounded_shared scene.site) authority scene rfl

/-- A conduct that is **discreet**: its changes leave alone what requests share, in whatever scene
it is played that shares the same. -/
def Conduct.Discreet (origin : Site) : Conduct → Prop
  | .done _ => True
  | .look next => ∀ scene : Scene, scene.site.shared = origin.shared → Discreet origin (next scene)
  | .change alter next =>
    (∀ scene : Scene, scene.site.shared = origin.shared →
      (alter scene).site.shared = origin.shared) ∧ Discreet origin next
  | .move _ _ next => ∀ result, Discreet origin (next result)
  | .check _ next => ∀ result, Discreet origin (next result)
  | .deny _ _ _ next => ∀ result, Discreet origin (next result)
  | .trigger _ _ next => ∀ result, Discreet origin (next result)

namespace Conduct

variable {origin : Site}

/-- The conduct of an action that spares the site is discreet, if the conduct behind it is so. -/
theorem discreet_ofAction {action : Action} (spares : action.sparesSite = true)
    {next : Except Failure Value → Conduct} (discreet : ∀ result, (next result).Discreet origin) :
    (ofAction action next).Discreet origin := by
  cases action with
  | transition guard target => exact fun moved => discreet _
  | trigger bus stage =>
    intro scene shares
    dsimp only
    cases scene.site.busNamed bus with
    | error failure => exact discreet _
    | ok ref => exact fun responses => discreet _
  | _ =>
    intro scene shares
    refine ⟨?_, discreet _⟩
    exact Run.keeps_sparing (Run.grounded_shared origin) (fun _ _ => keeps_throw _) spares nofun

/-- **Scripts are discreet** if all their actions spare the site. -/
theorem discreet_ofScript {script : Script}
    (spare : ∀ action ∈ script.actions, action.sparesSite = true) :
    (ofScript script).Discreet origin := by
  refine ⟨fun scene shares => shares, ?_⟩
  generalize script.actions = actions at spare
  induction actions with
  | nil => trivial
  | cons action rest ih =>
    refine discreet_ofAction (spare action List.mem_cons_self) fun result => ?_
    cases result with
    | error failure => trivial
    | ok value => exact ih fun other mem => spare other (List.mem_cons_of_mem action mem)

end Conduct

/-- Scripts that listen on a bus of a site, and act **discreetly**. -/
def Site.Discreet (origin : Site) (cast : Script → Conduct) : Prop :=
  ∀ bus, ∀ subscription ∈ (origin.buses.get bus).subscriptions,
    ∀ script, subscription.listener = .script script → (cast script).Discreet origin

namespace Task

/-- A task that is **private**: each of its steps leaves alone what requests share, whatever others
did before it that shared the same. Its result, if it does not fail, has the property `Q`. -/
def Private (origin : Site) (Q : α → Prop) : Task Watched α → Prop
  | done result => ∀ value, result = .ok value → Q value
  | step change next => ∀ watched, watched.Shares origin →
    (change watched).Shares origin ∧ Private origin Q (next watched)

variable {origin : Site} {Q : α → Prop} {R : β → Prop} {again : Trigger}
  {again' : Watch.Trigger} {cast : Script → Conduct}

/-- Private tasks go on with private tasks. -/
theorem Private.bind {next : α → Task Watched β} (second : ∀ value, Q value →
      (next value).Private origin R) : ∀ {task : Task Watched α}, task.Private origin Q →
    (task >>= next).Private origin R
  | done (.ok value), first => second value (first value rfl)
  | done (.error _), _ => nofun
  | step _ _, first => fun watched shares =>
    ⟨(first watched shares).1, Private.bind second (first watched shares).2⟩

/-- Failures of a private task are its own. -/
theorem Private.attempt : ∀ {task : Task Watched α}, task.Private origin Q →
    task.attempt.Private origin fun _ => True
  | done _, _ => fun _ _ => trivial
  | step _ _, isPrivate => fun watched shares =>
    ⟨(isPrivate watched shares).1, (isPrivate watched shares).2.attempt⟩

/-- **A private task** that is finished has left alone what requests share. -/
theorem Private.finish : ∀ {task : Task Watched α} {watched : Watched}, task.Private origin Q →
    watched.Shares origin → (task.finish watched).2.Shares origin ∧
      ∀ value, (task.finish watched).1 = .ok value → Q value
  | done _, _, isPrivate, shares => ⟨shares, isPrivate⟩
  | step _ _, watched, isPrivate, shares => by
    obtain ⟨shares, rest⟩ := isPrivate watched shares
    exact rest.finish shares

/-- A task that **carries out** a watched run, privately. -/
structure CarriesOut (origin : Site) (Q : α → Prop) (task : Task Watched α) (watch : Watch α) :
    Prop where
  /-- Without a break it is the run. -/
  finishes : ∀ watched, watched.Shares origin → task.finish watched = settle watch watched
  isPrivate : task.Private origin Q

/-- A task that **performs** a watched run: it carries it out, whatever the result. -/
abbrev Performs (origin : Site) (task : Task Watched α) (watch : Watch α) : Prop :=
  CarriesOut origin (fun _ => True) task watch

theorem performs_pure (value : α) : Performs origin (pure value) (pure value) where
  finishes _ _ := rfl
  isPrivate _ _ := trivial

/-- Tasks carry out runs one after the other. -/
theorem carriesOut_bind {task : Task Watched α} {watch : Watch α} {next : α → Task Watched β}
    {next' : α → Watch β} (first : CarriesOut origin Q task watch)
    (second : ∀ value, Q value → CarriesOut origin R (next value) (next' value)) :
    CarriesOut origin R (task >>= next) (watch >>= next') where
  isPrivate := first.isPrivate.bind fun value holds => (second value holds).isPrivate
  finishes := by
    intro watched shares
    -- the first task is private, so that the second one is known to do its run where it starts
    obtain ⟨shares', holds⟩ := first.isPrivate.finish shares
    rw [finish_bind, settle_bind, ← first.finishes watched shares]
    generalize task.finish watched = finished at shares' holds
    obtain ⟨_ | value, after⟩ := finished
    · rfl
    · exact (second value (holds value rfl)).finishes after shares'

/-- So they do if nothing has to be known of the first one. -/
theorem performs_bind {task : Task Watched α} {watch : Watch α} {next : α → Task Watched β}
    {next' : α → Watch β} (first : Performs origin task watch)
    (second : ∀ value, Performs origin (next value) (next' value)) :
    Performs origin (task >>= next) (watch >>= next') :=
  carriesOut_bind first fun value _ => second value

theorem performs_attempt {task : Task Watched α} {watch : Watch α}
    (first : CarriesOut origin Q task watch) :
    Performs origin task.attempt (Watch.attempt watch) where
  finishes watched shares := by
    rw [finish_attempt, Watch.settle_attempt, first.finishes watched shares]
  isPrivate := first.isPrivate.attempt

/-- **Steps at once** are carried out privately if they lead back to what requests share. -/
theorem carriesOut_atomically {watch : Watch α}
    (leads : Leads (Watched.Shares origin) watch (fun value after => after.Shares origin ∧ Q value)
      (Watched.Shares origin)) : CarriesOut origin Q (atomically watch) watch where
  finishes _ _ := rfl
  isPrivate watched shares := by
    have led := leads watched shares
    show (settle watch watched).2.Shares origin ∧ ∀ value, (settle watch watched).1 = .ok value → _
    generalize settle watch watched = settled at led
    obtain ⟨_ | value, after⟩ := settled
    · exact ⟨led, nofun⟩
    · refine ⟨led.1, ?_⟩
      rintro _ ⟨⟩
      exact led.2

/-- Steps at once are performed if they keep sharing. -/
theorem performs_of_keeps {watch : Watch α} (keeps : Keeps (Watched.Shares origin) watch) :
    Performs origin (atomically watch) watch :=
  carriesOut_atomically
    (keeps.leads.imp (fun _ _ shares => ⟨shares, trivial⟩) fun _ shares => shares)

/-- Plain steps are performed if they are private. -/
theorem performs_plain {run : Run α} (isPrivate : run.Private) :
    Performs origin (atomically (Watch.plain run)) (Watch.plain run) :=
  performs_of_keeps (isPrivate.keeps origin)

/-! ## What listeners do -/

section

variable (nested : ∀ bus stage, Performs origin (again bus stage) (again' bus stage))

include nested

/-- What a **verdict** makes a guard do. -/
theorem performs_follow (guard : String) : ∀ verdict,
    Performs origin (follow again guard verdict) (Watch.follow again' guard verdict)
  | .skip => performs_pure ()
  | .allowed _ => performs_of_keeps fun _ shares => shares
  | .denied _ bus => by
    refine performs_bind (performs_of_keeps fun _ shares => shares) fun _ => ?_
    exact performs_bind (nested bus _) fun _ => performs_pure ()
  | .unrecorded _ _ => performs_of_keeps fun _ shares => shares

/-- **Guards** are carried out: what they ask leaves nothing but calls. -/
theorem performs_guard (ref : GuardRef) :
    Performs origin (guard again ref) (Watch.guard again' ref) := by
  refine performs_bind (performs_plain fun _ => rfl) fun scene => ?_
  refine performs_bind (performs_of_keeps fun _ shares => shares) fun _ => ?_
  exact performs_bind (performs_plain fun _ => rfl) (performs_follow nested _)

theorem performs_turnDown (ref : GuardRef) (details : List (String × Value)) (subject : Word) :
    Performs origin (turnDown again ref details subject)
      (Watch.turnDown again' ref details subject) := by
  refine performs_bind (performs_plain fun _ => rfl) fun scene => ?_
  exact performs_bind (performs_plain fun _ => rfl) (performs_follow nested _)

/-- **A discreet conduct** is carried out, step by step. -/
theorem performs_play : ∀ {conduct : Conduct}, conduct.Discreet origin →
    Performs origin (play again conduct) (Watch.play again' conduct)
  | .done result, _ => performs_of_keeps (keeps_liftM result)
  | .look next, discreet => by
    refine carriesOut_bind (Q := fun scene => scene.site.shared = origin.shared) ?_
      fun scene shares => performs_play (discreet scene shares)
    exact carriesOut_atomically fun watched shares => ⟨shares, shares⟩
  | .change change next, discreet =>
    performs_bind (performs_of_keeps fun watched shares => discreet.1 watched.scene shares)
      fun _ => performs_play discreet.2
  | .move guard target next, discreet => by
    refine performs_bind (performs_attempt (performs_of_keeps ?_)) fun moved =>
      performs_play (discreet moved)
    intro watched shares
    rw [Watch.settle_move]
    cases watched.scene.event.transition guard target <;> exact shares
  | .check ref next, discreet =>
    performs_bind (performs_attempt (performs_guard nested ref)) fun result =>
      performs_play (discreet result)
  | .deny ref details subject next, discreet =>
    performs_bind (performs_attempt (performs_turnDown nested ref details subject)) fun result =>
      performs_play (discreet result)
  | .trigger bus stage next, discreet =>
    performs_bind (performs_attempt (nested bus stage)) fun result =>
      performs_play (discreet result)

/-- **A listener** is carried out, unless it is a script that is not discreet. -/
theorem performs_handler : ∀ {listener : Handler},
    (∀ script, listener = .script script → (cast script).Discreet origin) →
    Performs origin (handler cast again listener) (Watch.handler cast again' listener)
  | .guard ref, _ => performs_bind (performs_guard nested ref) fun _ => performs_pure _
  | .strategy ref, _ =>
    performs_bind (performs_plain (Run.private_strategy ref)) fun _ => performs_pure _
  | .script script, discreet => performs_play nested (discreet script rfl)
  | .spy authority, _ =>
    performs_bind (performs_plain (Run.private_spy authority)) fun _ => performs_pure _

end

/-- **Listeners** are carried out one after the other. -/
theorem performs_runListeners {η : Type} {invoke : η → Task Watched Value}
    {invoke' : η → Watch Value} {isStopped : Task Watched Bool} {isStopped' : Watch Bool}
    (looks : Performs origin isStopped isStopped') : ∀ {listeners : List η},
    (∀ listener ∈ listeners, Performs origin (invoke listener) (invoke' listener)) →
      Performs origin (runListeners invoke isStopped listeners)
        (runListeners invoke' isStopped' listeners)
  | [], _ => performs_pure _
  | listener :: rest, each => by
    refine performs_bind (each listener List.mem_cons_self) fun value => ?_
    refine performs_bind looks fun stopped => ?_
    cases stopped with
    | true => exact performs_pure _
    | false =>
      refine performs_bind ?_ fun _ => performs_pure _
      exact performs_runListeners looks fun other mem => each other (List.mem_cons_of_mem _ mem)

/-- **A stage starts** privately, and its listeners are among those of the site. -/
theorem carriesOut_start (bus : BusRef) (stage : Option String) :
    CarriesOut origin (· ⊆ (origin.buses.get bus).subscriptions)
      (atomically (Watch.start bus stage)) (Watch.start bus stage) := by
  refine carriesOut_atomically fun watched shares => ?_
  rw [Watch.settle_start, shares.buses]
  dsimp only
  cases listed : (origin.buses.get bus).listeners
      (Run.startStage stage watched.scene.event).name with
  | error failure => exact shares
  | ok order => exact ⟨shares, fun _ mem => (Bus.mem_listeners listed mem).1⟩

/-- **Triggers in steps carry out triggers**, if the scripts that listen on the buses of the site
are discreet. -/
theorem performs_trigger (discreet : origin.Discreet cast) :
    ∀ (depth : Nat) (bus : BusRef) (stage : Option String),
      Performs origin (trigger cast depth bus stage) (Watch.trigger cast depth bus stage)
  | 0, _, _ => performs_of_keeps (keeps_throw _)
  | depth + 1, bus, stage => by
    -- whoever listens now did so from the beginning, as nobody attaches listeners
    refine carriesOut_bind (carriesOut_start bus stage) fun listeners attached => ?_
    refine performs_runListeners (performs_plain fun _ => rfl) fun subscription mem => ?_
    exact performs_handler (performs_trigger discreet depth)
      (discreet bus subscription (attached mem))

end Task

end GuardedDispatch
