import GuardedDispatch.Dispatch.Run
import GuardedDispatch.Proofs.Guard.Checking

/-! # How listeners run

The steps of a run, read one at a time (`settle_*`): what they give, and the scene they leave. A
guard leaves the event alone, lets it pass or turns it down, unless what it asks fails or a denial
is left without a record (`settle_guard`); only a denial makes it trigger a stage. Requests share
all of a site but the context, and a run that leaves this alone is private (`Run.Private`). -/

namespace GuardedDispatch

variable {α : Type}

/-- A scene with further calls in its trace. -/
def Scene.noting (scene : Scene) (calls : List Call) : Scene :=
  { scene with trace := scene.trace ++ calls }

@[simp] theorem Scene.noting_nil (scene : Scene) : scene.noting [] = scene := by
  rw [noting, List.append_nil]

theorem Scene.noting_noting (scene : Scene) (calls further : List Call) :
    (scene.noting calls).noting further = scene.noting (calls ++ further) := by
  rw [noting, noting, noting, List.append_assoc]

namespace Run

@[simp] theorem settle_site (scene : Scene) : settle site scene = (.ok scene.site, scene) := rfl

@[simp] theorem settle_event (scene : Scene) : settle event scene = (.ok scene.event, scene) := rfl

@[simp] theorem settle_setEvent (event : Event) (scene : Scene) :
    settle (setEvent event) scene = (.ok (), { scene with event }) := rfl

@[simp] theorem settle_changeEvent (change : Event → Event) (scene : Scene) :
    settle (changeEvent change) scene = (.ok (), { scene with event := change scene.event }) := rfl

/-- Asking leaves its calls in the trace, whether it fails or not. -/
theorem settle_ask (asking : Asking α) (scene : Scene) :
    settle (ask asking) scene = (asking.outcome.1, scene.noting asking.outcome.2) := by
  rfl

/-- What asking ensures, it ensures in a run. -/
theorem ensures_ask {asking : Asking α} {Q : α → Prop} (ensures : Ensures asking Q) :
    Ensures (ask asking) Q := by
  intro scene value after eq
  rw [settle_ask, Asking.outcome_eq_settle, Prod.mk.injEq] at eq
  exact ensures [] value _ (Prod.ext eq.1 rfl)

/-- Dropping a result leaves the same state. -/
theorem settle_discard {σ : Type} (steps : ExceptT Failure (StateM σ) α) (state : σ) :
    settle (discard steps) state =
      match settle steps state with
      | (.ok _, after) => (.ok (), after)
      | (.error failure, after) => (.error failure, after) := by
  show settle (steps >>= fun _ => pure ()) state = _
  rw [settle_bind]
  rcases settle steps state with ⟨_ | value, after⟩ <;> rfl

/-- Run a guard of a kind with **any oracle**, or with none. -/
def guardBy (again : Trigger) (kind : GuardKind) (oracle : Option Oracle) : Run Unit := do
  match ← ask (kind.check oracle (← event)) with
  | .skip => return ()
  | .allowed event => setEvent event
  | .denied event bus =>
    setEvent event
    discard (again bus (some Stage.dispatchError.name))
  | .unrecorded event failure =>
    setEvent event
    throw failure

/-- Whatever its oracle is, a guard moves on to the event of its verdict, and triggers the error
stage if it turned the event down on record. It fails with what it asks, and halfway where there is
no record. -/
theorem settle_guardBy (again : Trigger) (kind : GuardKind) (oracle : Option Oracle)
    (scene : Scene) :
    settle (guardBy again kind oracle) scene =
      match (kind.check oracle scene.event).outcome with
      | (.error failure, calls) => (.error failure, scene.noting calls)
      | (.ok .skip, calls) => (.ok (), scene.noting calls)
      | (.ok (.allowed event), calls) => (.ok (), { scene.noting calls with event })
      | (.ok (.denied event bus), calls) =>
        settle (discard (again bus (some Stage.dispatchError.name)))
          { scene.noting calls with event }
      | (.ok (.unrecorded event failure), calls) =>
        (.error failure, { scene.noting calls with event }) := by
  unfold guardBy
  rw [settle_bind_of_ok (settle_event scene), settle_bind, settle_ask]
  -- only a denial goes on with a trigger
  rcases Asking.outcome _ with ⟨_ | _ | event | ⟨event, bus⟩ | _, calls⟩
  · rfl
  · rfl
  · rfl
  · exact settle_bind_of_ok (settle_setEvent event _) _
  · rfl

/-- A guard of a site runs with the oracle that its authority is. -/
theorem settle_guard_eq_guardBy (again : Trigger) (ref : GuardRef) (scene : Scene) :
    let post := scene.site.guards.get ref
    settle (guard again ref) scene =
      settle (guardBy again post.guard.kind (post.authority.map scene.site.oracle)) scene := rfl

/-- **Running a guard**: it asks, moves on to the event of its verdict, and triggers the error stage
if it turned the event down on record. It fails with what it asks, and halfway where there is no
record. -/
theorem settle_guard {ref : GuardRef} {scene : Scene} {post : GuardPost}
    (stands : scene.site.guards.get ref = post) (again : Trigger) :
    settle (guard again ref) scene =
      match (post.guard.kind.check (post.authority.map scene.site.oracle) scene.event).outcome with
      | (.error failure, calls) => (.error failure, scene.noting calls)
      | (.ok .skip, calls) => (.ok (), scene.noting calls)
      | (.ok (.allowed event), calls) => (.ok (), { scene.noting calls with event })
      | (.ok (.denied event bus), calls) =>
        settle (discard (again bus (some Stage.dispatchError.name)))
          { scene.noting calls with event }
      | (.ok (.unrecorded event failure), calls) =>
        (.error failure, { scene.noting calls with event }) := by
  subst stands
  rw [settle_guard_eq_guardBy, settle_guardBy]

/-- **Running a strategy** moves on to the event that it resolves to. -/
theorem settle_strategy {ref : StrategyRef} {scene : Scene} {post : StrategyPost}
    (stands : scene.site.strategies.get ref = post) :
    settle (strategy ref) scene =
      settle (ask (post.strategy.resolve scene.event) >>= setEvent) scene := by
  subst stands
  unfold strategy
  rw [settle_bind_of_ok (settle_site scene), settle_bind_of_ok (settle_event scene)]

end Run

/-! ## What requests share -/

/-- What requests **share** of a site: all but the context. -/
def Site.shared (site : Site) : Site := { site with context := {} }

/-- A run that is **private**: it leaves alone what requests share. -/
def Run.Private (run : Run α) : Prop :=
  ∀ scene, (settle run scene).2.site.shared = scene.site.shared

end GuardedDispatch
