/-! # Guard outcomes

What one guard has done with one request. A guard starts unchecked; it allows, or it denies and
then triggers the error stage. Each edge can be taken once (`Outcome.precedes`). -/

namespace GuardedDispatch

/-- The **outcome** of a guard for one request. -/
inductive Outcome where
  /-- The guard has not decided yet. -/
  | unchecked
  /-- The guard let the request pass. -/
  | allowed
  /-- The guard turned the request down. -/
  | denied
  /-- The guard turned the request down and announced it. -/
  | errorTriggered
  deriving DecidableEq, Repr

namespace Outcome

/-- The printed name of an outcome. -/
def name : Outcome → String
  | unchecked => "unchecked"
  | allowed => "allowed"
  | denied => "denied"
  | errorTriggered => "error_triggered"

/-- The outcome of a printed name. -/
def ofName? (name : String) : Option Outcome :=
  [unchecked, allowed, denied, errorTriggered].find? (·.name == name)

/-- Whether the second outcome may directly follow the first. -/
def precedes : Outcome → Outcome → Bool
  | unchecked, allowed | unchecked, denied | denied, errorTriggered => true
  | _, _ => false

/-- How far along an outcome is. -/
def depth : Outcome → Nat
  | unchecked => 0
  | allowed | denied => 1
  | errorTriggered => 2

/-- Every edge leads further along. -/
theorem depth_lt_of_precedes {a b : Outcome} (h : a.precedes b = true) : a.depth < b.depth := by
  cases a <;> cases b <;> simp_all [precedes, depth]

end Outcome

end GuardedDispatch
