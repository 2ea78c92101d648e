import GuardedDispatch.Proofs.Dispatch.Attaching
import GuardedDispatch.Proofs.Dispatch.Running
import GuardedDispatch.Proofs.Resolving

/-! # Stages of guards and strategies

What a trigger does when guards alone listen on the route stage, and one strategy or none on the
error stage. Guards let an event pass one after the other (`Event.OnItsWay`). The first that turns
it down runs the error stage, and the guards behind it leave the event alone, because it has an
error now (`settle_guards`). -/

namespace GuardedDispatch

/-- What a strategy makes of an event, if there is one. -/
def Strategy.answer (strategy : Option Strategy) (event : Event) : Asking Event :=
  match strategy with
  | none => pure event
  | some strategy => strategy.resolve event

namespace Run

/-! ## Triggers -/

/-- Whether the event was stopped. -/
def isStopped : Run Bool := return (← event).stopped

/-- Running listeners depends on what is invoked for them, not on what holds them. -/
theorem runListeners_map {m : Type → Type} [Monad m] {η θ : Type} (hold : η → θ)
    (invoke : θ → m Value) (stopped : m Bool) : ∀ listeners : List η,
    runListeners (fun listener => invoke (hold listener)) stopped listeners =
      runListeners invoke stopped (listeners.map hold)
  | [] => rfl
  | listener :: rest => by
    rw [List.map_cons, runListeners, runListeners, runListeners_map hold invoke stopped rest]

/-- **A trigger** starts its stage, and runs the listeners in their order. -/
theorem settle_trigger_of_listed {scene : Scene} {bus : BusRef} {stage : Option String}
    {order : List (Subscription Handler)} (listed : (scene.site.buses.get bus).listeners
      (stage.getD scene.event.name) = .ok order) (depth : Nat) :
    settle (trigger (depth + 1) bus stage) scene =
      settle (runListeners (fun subscription => handler (trigger depth) subscription.listener)
        isStopped order) { scene with event := startStage stage scene.event } := by
  have found : (scene.site.buses.get bus).listeners (startStage stage scene.event).name =
      .ok order := listed
  unfold trigger
  rw [settle_bind_of_ok (settle_changeEvent _ scene), settle_bind_of_ok (settle_site _),
    settle_bind_of_ok (settle_event _), settle_bind, settle_liftM]
  dsimp only
  rw [found]
  rfl

/-- Listeners of one priority run in the order in which they were attached. -/
theorem settle_trigger {scene : Scene} {bus : BusRef} {stage : String} {extent : Decimal.Extent}
    {listeners : List Handler}
    (lists : (scene.site.buses.get bus).Lists stage extent listeners) (depth : Nat) :
    settle (discard (trigger (depth + 1) bus (some stage))) scene =
      settle (discard (runListeners (handler (trigger depth)) isStopped listeners))
        { scene with event := startStage (some stage) scene.event } := by
  -- a subscription runs as the listener that it holds
  have attached : runListeners (fun subscription : Subscription Handler =>
        handler (trigger depth) subscription.listener) isStopped
        ((scene.site.buses.get bus).onStage stage) =
      runListeners (handler (trigger depth)) isStopped listeners := by
    rw [runListeners_map Subscription.listener, lists.attached]
  rw [← attached, settle_discard, settle_discard, settle_trigger_of_listed lists.listeners]

/-- Listeners run as long as none stops the event or fails. -/
theorem settle_runListeners_cons (again : Trigger) (listener : Handler) (rest : List Handler)
    (scene : Scene) :
    settle (discard (runListeners (handler again) isStopped (listener :: rest))) scene =
      match settle (discard (handler again listener)) scene with
      | (.ok _, after) =>
        if after.event.stopped then (.ok (), after)
        else settle (discard (runListeners (handler again) isStopped rest)) after
      | (.error failure, after) => (.error failure, after) := by
  rw [settle_discard, runListeners, settle_bind, settle_discard]
  rcases settle (handler again listener) scene with ⟨_ | value, after⟩
  · rfl
  · dsimp only
    rw [settle_bind_of_ok (show settle isStopped after = (.ok after.event.stopped, after) from rfl)]
    cases after.event.stopped with
    | true => rfl
    | false =>
      simp only [Bool.false_eq_true, if_false, settle_discard, settle_bind]
      rcases settle (runListeners (handler again) isStopped rest) after with ⟨_ | value, last⟩ <;>
        rfl

/-- A listener that leaves the event running is followed by the others. -/
theorem settle_runListeners_of_running {again : Trigger} {listener : Handler} {scene after : Scene}
    (ran : settle (discard (handler again listener)) scene = (.ok (), after))
    (running : after.event.stopped = false) (rest : List Handler) :
    settle (discard (runListeners (handler again) isStopped (listener :: rest))) scene =
      settle (discard (runListeners (handler again) isStopped rest)) after := by
  rw [settle_runListeners_cons, ran]
  show (if after.event.stopped = true then _ else _) = _
  rw [running]
  rfl

/-- A guard that listens has nothing to give. -/
theorem settle_handler_guard (again : Trigger) (ref : GuardRef) (scene : Scene) :
    settle (discard (handler again (.guard ref))) scene = settle (guard again ref) scene := by
  rw [settle_discard, handler, settle_bind]
  rcases settle (guard again ref) scene with ⟨_ | value, after⟩ <;> rfl

/-- Neither has a strategy. -/
theorem settle_handler_strategy (again : Trigger) (ref : StrategyRef) (scene : Scene) :
    settle (discard (handler again (.strategy ref))) scene = settle (strategy ref) scene := by
  rw [settle_discard, handler, settle_bind]
  rcases settle (strategy ref) scene with ⟨_ | value, after⟩ <;> rfl

end Run

/-! ## Past the guards -/

/-- An event **on its way** past guards: nothing but outcomes has changed, and a guard that decided
let it pass because it is accepted. -/
structure Event.OnItsWay (start : Event) (accepted : GuardKind → Prop) (event : Event) : Prop where
  same : ∃ outcomes, event = { start with outcomes }
  fits : ∀ kind : GuardKind, event.outcome kind.id = .unchecked ∨
    event.outcome kind.id = .allowed ∧ accepted kind

section

variable {start event : Event} {aims : GuardKind → Aim} {bus : BusRef}
  {accepted : GuardKind → Prop}

/-- Letting an event pass leaves it on its way. -/
theorem Event.OnItsWay.letPass (onItsWay : start.OnItsWay accepted event) {kind : GuardKind}
    (accepts : accepted kind) : start.OnItsWay accepted (kind.letPass event) where
  same := by
    obtain ⟨outcomes, rfl⟩ := onItsWay.same
    exact ⟨_, rfl⟩
  fits other := by
    rw [GuardKind.outcome_letPass]
    by_cases same : other = kind
    · subst same
      exact .inr ⟨if_pos rfl, accepts⟩
    · rw [if_neg same]
      exact onItsWay.fits other

end

namespace Run

variable {start : Event} {aims : GuardKind → Aim} {bus : BusRef} {oracle : Oracle}
  {allows : Word → Prop} {identity : Value}

end Run

end GuardedDispatch
