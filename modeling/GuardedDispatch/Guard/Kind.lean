/-! # Kinds of guards

The two kinds of guard, with the texts that name them: the id under which outcomes and
configuration know them, the rule field that names their targets, and the error kind of their
denials. -/

namespace GuardedDispatch

/-- A **kind of guard**. -/
inductive GuardKind where
  /-- Checks the controller, action and method of a request. -/
  | controller
  /-- Checks the name of the matched route. -/
  | route
  deriving DecidableEq, Repr

namespace GuardKind

/-- The id of the guard. -/
def id : GuardKind → String
  | controller => "controller"
  | route => "route"

/-- The rule field that names the guard's targets. -/
def targetField : GuardKind → String
  | controller => "controllers"
  | route => "routes"

/-- The error kind that a denial leaves on the event. -/
def errorKind : GuardKind → String
  | controller => "error-unauthorized-controller"
  | route => "error-unauthorized-route"

/-- The printed name of the guard. -/
def name : GuardKind → String
  | controller => "ControllerGuard"
  | route => "RouteGuard"

/-- Different guards have different ids. -/
theorem id_injective {a b : GuardKind} (h : a.id = b.id) : a = b := by
  cases a <;> cases b <;> first | rfl | (simp [id] at h)

end GuardKind

end GuardedDispatch
