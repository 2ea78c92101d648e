import GuardedDispatch.Proofs.Dispatch.Conduct
import GuardedDispatch.Web.Adapter

/-! # The adapter in other manners

The adapter again, for runs of any kind. What it needs from them is a **manner** (`Manner`): how a
step is taken that triggers nothing, how a stage is triggered, and how a failure is caught. Handling
in the manner of the pipeline is handling (`Manner.handle_pipeline`), and a watched request is one
that is handled in the manner of watched runs (`Watch.handle`).

* **`Correspondence.handle`**: if two manners correspond step by step, requests that are handled in
  them correspond. So a watched request mirrors the request of the pipeline
  (`Watch.mirrors_handle`). The steps of the adapter itself are private: what requests share, they
  leave alone (`Run.Private`). -/

namespace GuardedDispatch

namespace Web

variable {m n : Type → Type} {α β : Type}

/-! ## Steps of the adapter -/

/-- Bind an identity to the context, and keep the token. -/
def bindIdentity (identity : Option Identity) : Run Nat := do
  let site ← Run.site
  Run.setSite { site with context := (site.context.bind identity).2 }
  return (site.context.bind identity).1

/-- Restore the identity from before, if the token still does. -/
def restoreIdentity (token : Nat) : Run Unit := do
  let site ← Run.site
  match site.context.restore token with
  | .ok context => Run.setSite { site with context }
  | .error _ => pure ()

/-- Restoring concerns the context alone. -/
theorem settle_restoreIdentity (token : Nat) (scene : Scene) :
    settle (restoreIdentity token) scene =
      match scene.site.context.restore token with
      | .ok context => (.ok (), { scene with site := { scene.site with context } })
      | .error _ => (.ok (), scene) := by
  show settle (match scene.site.context.restore token with
    | .ok context => Run.setSite { scene.site with context }
    | .error _ => pure ()) scene = _
  cases scene.site.context.restore token <;> rfl

theorem private_restoreIdentity (token : Nat) : (restoreIdentity token).Private := by
  intro scene
  rw [settle_restoreIdentity]
  cases scene.site.context.restore token <;> rfl

/-- **What the application answers** is passed on, and leaves nothing but calls. -/
theorem exists_settle_callNext (app : App) (request : Incoming) (scene : Scene) :
    ∃ calls, settle (callNext app request) scene =
      (.ok (app.serve request).answer, scene.noting calls) := by
  have notes : ∀ (names : List String) (scene : Scene), ∃ calls,
      settle (forIn names PUnit.unit fun name _ => do
          Run.note (.endpoint name)
          pure (ForInStep.yield PUnit.unit)) scene = (.ok PUnit.unit, scene.noting calls) := by
    intro names
    induction names with
    | nil => exact fun scene => ⟨[], by rw [Scene.noting_nil]; rfl⟩
    | cons name rest ih =>
      intro scene
      obtain ⟨calls, noted⟩ := ih (scene.noting [.endpoint name])
      refine ⟨[.endpoint name] ++ calls, ?_⟩
      rw [← Scene.noting_noting, ← noted, List.forIn_cons]
      rfl
  obtain ⟨calls, noted⟩ := notes (app.serve request).endpoints scene
  exact ⟨calls, settle_bind_of_ok noted _⟩

theorem private_callNext (app : App) (request : Incoming) : (callNext app request).Private := by
  intro scene
  obtain ⟨calls, settled⟩ := exists_settle_callNext app request scene
  rw [settled]
  rfl

/-- The reply of the event is made without a change. -/
theorem settle_eventReply (guarded : Guarded) (scene : Scene) :
    settle guarded.eventReply scene = (scene.event.reply guarded.renderer, scene) := by
  rw [Guarded.eventReply, settle_bind_of_ok (Run.settle_event scene), settle_liftM]

theorem private_eventReply (guarded : Guarded) : guarded.eventReply.Private := by
  intro scene
  rw [settle_eventReply]

/-! ## Manners -/

/-- A **manner** of running. -/
structure Manner (m : Type → Type) where
  /-- Take a step that triggers nothing. -/
  plain {α : Type} : Run α → m α
  /-- Trigger a stage on a bus, and drop what its listeners returned. -/
  trigger : BusRef → Stage → m Unit
  /-- Attempt a run and get what came of it, also if it failed. -/
  attempt {α : Type} : m α → m (Except Failure α)

namespace Manner

section

variable [Monad m] (manner : Manner m) (guarded : Guarded)

/-- Run with an identity bound to the context, and restore the one before it in any case. -/
def withIdentity (identity : Option Identity) (run : m α) : m α := do
  let token ← manner.plain (bindIdentity identity)
  let result ← manner.attempt run
  manner.plain (restoreIdentity token)
  manner.plain (liftM result)

/-- End a request that was answered. -/
def finish (reply : Reply) : m Reply := do
  manner.trigger guarded.bus .finish
  return reply

/-- End a request that the application served. -/
def finishAnswer : Answer → m Reply
  | .reply reply => manner.finish guarded reply
  | .raised failure => manner.plain (throw failure)
  | .broken failure => do
    manner.trigger guarded.bus .finish
    manner.plain (throw failure)

/-- Handle a request that matches no endpoint. -/
def handleUnmatched (request : Incoming) : m Reply := do
  manner.plain (Run.changeEvent (·.setError (.str ErrorMark.noMatch.name)))
  manner.trigger guarded.bus .dispatchError
  manner.finishAnswer guarded (← manner.plain (callNext guarded.app request))

/-- Answer an error that says the identity may not access something. -/
def answerUnauthorized (error : Raised) : m Reply := do
  manner.plain (Run.changeEvent (·.setError (.str ErrorMark.exception.name)))
  let site ← manner.plain Run.site
  let identity ← manner.plain (Run.ask (site.oracle guarded.authority).identity)
  manner.plain (Run.changeEvent fun event =>
    (event.setParam "identity" identity).setParam "exception" (.error error))
  manner.trigger guarded.bus .dispatchError
  manner.finish guarded (← manner.plain guarded.eventReply)

/-- Pass an allowed request on. -/
def passOn (request : Incoming) : m Reply := do
  manner.trigger guarded.bus .dispatch
  match ← manner.plain (callNext guarded.app request) with
  | .raised (.raised error) =>
    if error.kind = .unauthorized then manner.answerUnauthorized guarded error
    else manner.plain (throw (.raised error))
  | answer => manner.finishAnswer guarded answer

/-- Handle a request that matches an endpoint. -/
def handleMatched (request : Incoming) : m Reply := do
  manner.trigger guarded.bus .route
  if (← manner.plain Run.event).isError then
    manner.finish guarded (← manner.plain guarded.eventReply)
  else
    manner.passOn guarded request

/-- **Handle** a request. -/
def handle (request : Incoming) : m Reply := do
  manner.plain (Run.setEvent (← manner.plain (liftM (guarded.eventOf request))))
  if (← manner.plain Run.event).routeMatch.isNone then
    manner.handleUnmatched guarded request
  else
    match (← manner.plain Run.site).providers.get guarded.provider with
    | .ofContext _ =>
      manner.withIdentity (guarded.identify.bind (· request.toRequest))
        (manner.handleMatched guarded request)
    | .fixed .. => manner.handleMatched guarded request

end

/-- The manner of the **pipeline**. -/
def pipeline : Manner Run where
  plain run := run
  trigger bus stage := discard (Run.triggerStage bus stage)
  attempt run := ExceptT.lift run.run

/-- In the manner of the pipeline, an identity is bound and restored as there. -/
theorem withIdentity_pipeline (identity : Option Identity) (run : Run α) :
    pipeline.withIdentity identity run = Web.withIdentity identity run := by
  funext scene
  let site := scene.site
  let ran := settle run { scene with
    site := { site with context := (site.context.bind identity).2 } }
  have generic : settle (pipeline.withIdentity identity run) scene =
      settle (restoreIdentity site.context.tokens.length >>= fun _ => liftM ran.1) ran.2 := rfl
  have settled : settle (Web.withIdentity identity run) scene =
      settle (match ran.2.site.context.restore site.context.tokens.length with
        | .ok context => do
          Run.setSite { ran.2.site with context }
          liftM ran.1
        | .error _ => liftM ran.1) ran.2 := rfl
  refine generic.trans (Eq.trans ?_ settled.symm)
  rw [settle_bind, settle_restoreIdentity]
  cases ran.2.site.context.restore site.context.tokens.length <;> rfl

/-- **Handling in the manner of the pipeline is handling.** -/
theorem handle_pipeline (guarded : Guarded) (request : Incoming) :
    pipeline.handle guarded request = guarded.handle request := by
  unfold handle
  simp only [withIdentity_pipeline]
  rfl

end Manner

/-! ## Corresponding manners -/

/-- A **correspondence** of two manners: a relation of runs that holds step by step. Of plain steps,
private ones are enough. -/
structure Correspondence [Monad m] [Monad n] (manner : Manner m) (other : Manner n) where
  /-- Whether two runs correspond. -/
  Rel {α : Type} : m α → n α → Prop
  pure {α : Type} (value : α) : Rel (pure value) (pure value)
  bind {α β : Type} {run : m α} {run' : n α} {next : α → m β} {next' : α → n β} :
    Rel run run' → (∀ value, Rel (next value) (next' value)) → Rel (run >>= next) (run' >>= next')
  plain {α : Type} {run : Run α} : run.Private → Rel (manner.plain run) (other.plain run)
  trigger (bus : BusRef) (stage : Stage) : Rel (manner.trigger bus stage) (other.trigger bus stage)
  attempt {α : Type} {run : m α} {run' : n α} :
    Rel run run' → Rel (manner.attempt run) (other.attempt run')

namespace Correspondence

variable [Monad m] [Monad n] {manner : Manner m} {other : Manner n}
  (corresponds : Correspondence manner other) (guarded : Guarded)

/-- Runs with an identity correspond. -/
theorem withIdentity (identity : Option Identity) {run : m α} {run' : n α}
    (same : corresponds.Rel run run') :
    corresponds.Rel (manner.withIdentity identity run) (other.withIdentity identity run') := by
  refine corresponds.bind (corresponds.plain fun _ => rfl) fun token => ?_
  refine corresponds.bind (corresponds.attempt same) fun result => ?_
  refine corresponds.bind (corresponds.plain (private_restoreIdentity token)) fun _ => ?_
  exact corresponds.plain fun _ => rfl

theorem finish (reply : Reply) :
    corresponds.Rel (manner.finish guarded reply) (other.finish guarded reply) :=
  corresponds.bind (corresponds.trigger _ _) fun _ => corresponds.pure _

theorem finishAnswer : ∀ answer,
    corresponds.Rel (manner.finishAnswer guarded answer) (other.finishAnswer guarded answer)
  | .reply reply => corresponds.finish guarded reply
  | .raised _ => corresponds.plain fun _ => rfl
  | .broken _ =>
    corresponds.bind (corresponds.trigger _ _) fun _ => corresponds.plain fun _ => rfl

/-- Requests end alike with the reply of the event. -/
theorem eventReply :
    corresponds.Rel (manner.plain guarded.eventReply >>= manner.finish guarded)
      (other.plain guarded.eventReply >>= other.finish guarded) :=
  corresponds.bind (corresponds.plain (private_eventReply guarded)) (corresponds.finish guarded)

theorem handleUnmatched (request : Incoming) :
    corresponds.Rel (manner.handleUnmatched guarded request)
      (other.handleUnmatched guarded request) := by
  refine corresponds.bind (corresponds.plain fun _ => rfl) fun _ => ?_
  refine corresponds.bind (corresponds.trigger _ _) fun _ => ?_
  exact corresponds.bind (corresponds.plain (private_callNext guarded.app request))
    (corresponds.finishAnswer guarded)

theorem answerUnauthorized (error : Raised) :
    corresponds.Rel (manner.answerUnauthorized guarded error)
      (other.answerUnauthorized guarded error) := by
  refine corresponds.bind (corresponds.plain fun _ => rfl) fun _ => ?_
  refine corresponds.bind (corresponds.plain fun _ => rfl) fun site => ?_
  refine corresponds.bind (corresponds.plain fun _ => rfl) fun identity => ?_
  refine corresponds.bind (corresponds.plain fun _ => rfl) fun _ => ?_
  exact corresponds.bind (corresponds.trigger _ _) fun _ => corresponds.eventReply guarded

theorem passOn (request : Incoming) :
    corresponds.Rel (manner.passOn guarded request) (other.passOn guarded request) := by
  refine corresponds.bind (corresponds.trigger _ _) fun _ => ?_
  refine corresponds.bind (corresponds.plain (private_callNext guarded.app request))
    fun answer => ?_
  split
  · split
    · exact corresponds.answerUnauthorized guarded _
    · exact corresponds.plain fun _ => rfl
  · exact corresponds.finishAnswer guarded _

theorem handleMatched (request : Incoming) :
    corresponds.Rel (manner.handleMatched guarded request)
      (other.handleMatched guarded request) := by
  refine corresponds.bind (corresponds.trigger _ _) fun _ => ?_
  refine corresponds.bind (corresponds.plain fun _ => rfl) fun event => ?_
  split
  · exact corresponds.eventReply guarded
  · exact corresponds.passOn guarded request

/-- **Requests that are handled in corresponding manners correspond.** -/
theorem handle (request : Incoming) :
    corresponds.Rel (manner.handle guarded request) (other.handle guarded request) := by
  refine corresponds.bind (corresponds.plain fun _ => rfl) fun event => ?_
  refine corresponds.bind (corresponds.plain fun _ => rfl) fun _ => ?_
  refine corresponds.bind (corresponds.plain fun _ => rfl) fun event => ?_
  split
  · exact corresponds.handleUnmatched guarded request
  · refine corresponds.bind (corresponds.plain fun _ => rfl) fun site => ?_
    split
    · exact corresponds.withIdentity _ (corresponds.handleMatched guarded request)
    · exact corresponds.handleMatched guarded request

end Correspondence

end Web

namespace Watch

open Web

/-- The manner of **watched** runs. -/
def manner (cast : Script → Conduct) : Manner Watch where
  plain := plain
  trigger bus stage := discard (trigger cast Run.depthLimit bus (some stage.name))
  attempt := attempt

/-- **Handle** a request, and watch it. -/
def handle (cast : Script → Conduct) (guarded : Web.Guarded) (request : Incoming) : Watch Reply :=
  (manner cast).handle guarded request

/-- Catching a failure is mirrored. -/
theorem mirrors_attempt {α : Type} {watch : Watch α} {run : Run α} (mirrors : Mirrors watch run) :
    Mirrors (attempt watch) (Manner.pipeline.attempt run) := by
  intro watched
  have caught : settle (Manner.pipeline.attempt run) watched.scene =
      (.ok (settle run watched.scene).1, (settle run watched.scene).2) := rfl
  rw [settle_attempt, caught, ← mirrors watched]

/-- If scripts act as they say, watched runs **correspond** to those of the pipeline. -/
def mirroring : Correspondence (manner .ofScript) Manner.pipeline where
  Rel := Mirrors
  pure := mirrors_pure
  bind := mirrors_bind
  plain {_ run} _ := mirrors_plain run
  trigger bus stage :=
    mirrors_bind (mirrors_trigger Run.depthLimit bus (some stage.name)) fun _ => mirrors_pure ()
  attempt := mirrors_attempt

/-- **A watched request is the request of the pipeline**, if scripts act as they say: it has the
same result and leaves the same scene. -/
theorem mirrors_handle (guarded : Web.Guarded) (request : Incoming) :
    Mirrors (handle .ofScript guarded request) (guarded.handle request) := by
  rw [← Manner.handle_pipeline]
  exact mirroring.handle guarded request

end Watch

end GuardedDispatch
