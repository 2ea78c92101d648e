import GuardedDispatch.Decimal.Extent
import GuardedDispatch.Failure
import GuardedDispatch.Value.Equality

/-! # The event bus

Listeners attached to stages. Higher priorities run first, equal priorities in the order in which
they were attached (`Bus.listeners`). A bus numbers its subscriptions from one on and never uses a
number again, so the number tells a subscription from all others of its bus.

The bus does not know what a listener is: `η` is the type of listeners. -/

namespace GuardedDispatch

/-- One attached listener. -/
structure Subscription (η : Type) where
  stage : String
  listener : η
  priority : Value
  number : Nat

/-- A **bus**: its subscriptions in the order of attaching, and how many it has given out. -/
structure Bus (η : Type) where
  subscriptions : List (Subscription η) := []
  issued : Nat := 0

namespace Bus

variable {η : Type}

instance : Inhabited (Bus η) := ⟨{}⟩

/-- **Attach** a listener to a stage; the answer holds its subscription. -/
def attach (bus : Bus η) (stage : String) (listener : η) (priority : Value) :
    Subscription η × Bus η :=
  let subscription := ⟨stage, listener, priority, bus.issued + 1⟩
  (subscription, ⟨bus.subscriptions ++ [subscription], bus.issued + 1⟩)

/-- Whether the subscription of a number is attached. -/
def holds (bus : Bus η) (number : Nat) : Bool := bus.subscriptions.any (·.number == number)

/-- Remove the first subscription of a number. -/
def remove (bus : Bus η) (number : Nat) : Bus η :=
  { bus with subscriptions := bus.subscriptions.eraseP (·.number == number) }

/-- **Detach** the subscription of a number; the answer tells whether it was attached. -/
def detach (bus : Bus η) (number : Nat) : Bool × Bus η :=
  (bus.holds number, bus.remove number)

/-- The subscriptions of a stage, in the order of attaching. -/
def onStage (bus : Bus η) (stage : String) : List (Subscription η) :=
  bus.subscriptions.filter (·.stage == stage)

/-- The priority of a subscription as an extent, if it is a number. -/
def rank? (subscription : Subscription η) : Option (Subscription η × Decimal.Extent) :=
  subscription.priority.extent?.map (subscription, ·)

/-- Whether the first of two ranked subscriptions runs no later than the second. -/
def runsBefore (a b : Subscription η × Decimal.Extent) : Bool :=
  b.2.below a.2 || (!(a.2.below b.2) && a.1.number ≤ b.1.number)

/-- The subscriptions of a stage **in the order in which they run**. Priorities that are no numbers
have no order. -/
def listeners (bus : Bus η) (stage : String) : Except Failure (List (Subscription η)) :=
  match (bus.onStage stage).mapM rank? with
  | none => .error (.type .unordered)
  | some ranked => .ok ((ranked.mergeSort runsBefore).map (·.1))

@[simp] theorem attach_subscriptions (bus : Bus η) (stage : String) (listener : η)
    (priority : Value) :
    (bus.attach stage listener priority).2.subscriptions =
      bus.subscriptions ++ [⟨stage, listener, priority, bus.issued + 1⟩] := rfl

@[simp] theorem attach_issued (bus : Bus η) (stage : String) (listener : η) (priority : Value) :
    (bus.attach stage listener priority).2.issued = bus.issued + 1 := rfl

end Bus

end GuardedDispatch
