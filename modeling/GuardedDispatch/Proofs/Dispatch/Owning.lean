import GuardedDispatch.Proofs.Dispatch.Subscribing
import GuardedDispatch.Session

/-! # Who owns what is attached

A guard or a strategy keeps the handles of the subscriptions that it creates, of all buses in one
list, and detaching it from a bus goes through that list (`Site.release`). Two books are kept this
way, that of the bus and that of the component, and every call keeps them in line (`Site.Owned`): a
subscription is in the book of a component iff that component created it (`Component.owns`).

* **Detaching a component** takes its own subscriptions from the one bus, and no others
  (`Owned.released`).
* While no handle is detached behind the back of its component, the component has no handles but
  those that are attached (`Site.Settled`).
* **Attaching all and detaching all** leads back to the subscriptions from before
  (`Owned.restores`). -/

namespace GuardedDispatch

/-- A **component** that attaches itself to buses: a guard or a strategy. -/
inductive Component where
  /-- A guard. -/
  | guard (ref : GuardRef)
  /-- A strategy. -/
  | strategy (ref : StrategyRef)
  deriving DecidableEq, Repr

namespace Component

/-- What a component attaches. -/
def handler : Component → Handler
  | .guard ref => .guard ref
  | .strategy ref => .strategy ref

/-- Whether a subscription **was created by** a component, which is then what listens. -/
def owns (component : Component) (subscription : Subscription Handler) : Bool :=
  match component, subscription.listener with
  | .guard ref, .guard other => other == ref
  | .strategy ref, .strategy other => other == ref
  | _, _ => false

theorem owns_iff {component : Component} {subscription : Subscription Handler} :
    component.owns subscription = true ↔ subscription.listener = component.handler := by
  unfold owns handler
  cases component <;> cases subscription.listener <;> simp

/-- Different components attach different listeners. -/
theorem handler_injective {a b : Component} (same : a.handler = b.handler) : a = b := by
  cases a <;> cases b <;> simp_all [handler]

/-- A subscription has one owner at most. -/
theorem eq_of_owns {a b : Component} {subscription : Subscription Handler}
    (first : a.owns subscription = true) (second : b.owns subscription = true) : a = b := by
  apply handler_injective
  rw [← owns_iff.1 first, ← owns_iff.1 second]

/-- A component owns what it attaches, and no other component does. -/
theorem owns_attached {component other : Component} (stage : String) (priority : Value)
    (number : Nat) : other.owns ⟨stage, component.handler, priority, number⟩ = true ↔
      other = component := by
  rw [owns_iff]
  constructor
  · intro same
    exact (handler_injective same).symm
  · rintro rfl
    rfl

end Component

/-- The **components** of an installation, in the order in which all are attached. -/
def Installation.components (installation : Installation) : List Component :=
  installation.guards.map .guard ++ installation.strategy.toList.map .strategy

namespace Site

/-- The **handles** that a component keeps. -/
def handlesOf (site : Site) : Component → List Handle
  | .guard ref => (site.guards.get ref).handles
  | .strategy ref => (site.strategies.get ref).handles

/-- Attach a component to a bus; a strategy has a priority of its own. -/
def attachComponent (site : Site) (bus : BusRef) (priority : Value) : Component → Site
  | .guard ref => site.attachGuard ref bus priority
  | .strategy ref => site.attachStrategy ref bus

/-- Detach a component from a bus. -/
def detachComponent (site : Site) (bus : BusRef) : Component → Site
  | .guard ref => site.detachGuard ref bus
  | .strategy ref => site.detachStrategy ref bus

/-- Attaching all listeners of an installation is attaching its components one by one. -/
theorem attachAllTo_eq (site : Site) (installation : Installation) (bus : BusRef) :
    Session.attachAllTo site installation bus = installation.components.foldl
      (fun site component => site.attachComponent bus (.int guardPriority) component) site := by
  unfold Session.attachAllTo Installation.components
  rw [List.foldl_append, List.foldl_map, List.foldl_map]
  cases installation.strategy <;> rfl

/-- Detaching all listeners of an installation is detaching its components one by one. -/
theorem detachAllFrom_eq (site : Site) (installation : Installation) (bus : BusRef) :
    Session.detachAllFrom site installation bus = installation.components.foldl
      (fun site component => site.detachComponent bus component) site := by
  unfold Session.detachAllFrom Installation.components
  rw [List.foldl_append, List.foldl_map, List.foldl_map]
  cases installation.strategy <;> rfl

/-! ## What one step changes -/

/-- A site **after a component was attached** to a bus: the bus has one subscription more, and the
component keeps its handle. -/
structure Attached (site after : Site) (bus : BusRef) (component : Component) : Prop where
  own : ∃ stage priority,
    after.buses.get bus = ((site.buses.get bus).attach stage component.handler priority).2
  apart : ∀ other, other ≠ bus → after.buses.get other = site.buses.get other
  handles : after.handlesOf component =
    site.handlesOf component ++ [⟨bus, (site.buses.get bus).issued + 1⟩]
  others : ∀ other, other ≠ component → after.handlesOf other = site.handlesOf other

/-- **Attaching** a component. -/
theorem attached_attachComponent (site : Site) (bus : BusRef) (priority : Value) :
    ∀ component, Attached site (site.attachComponent bus priority component) bus component
  | .guard ref =>
    { own := ⟨_, _, bus_attachGuard site ref bus priority⟩
      apart := fun _ ne => Arena.get_set_of_ne ne _ _
      handles := congrArg GuardPost.handles (Arena.get_set_self _ _ _)
      others := fun other ne => by
        cases other with
        | guard other =>
          have ne : other ≠ ref := fun same => ne (congrArg _ same)
          exact congrArg GuardPost.handles (Arena.get_set_of_ne ne _ _)
        | strategy other => rfl }
  | .strategy ref =>
    { own := ⟨_, _, bus_attachStrategy site ref bus⟩
      apart := fun _ ne => Arena.get_set_of_ne ne _ _
      handles := congrArg StrategyPost.handles (Arena.get_set_self _ _ _)
      others := fun other ne => by
        cases other with
        | guard other => rfl
        | strategy other =>
          have ne : other ≠ ref := fun same => ne (congrArg _ same)
          exact congrArg StrategyPost.handles (Arena.get_set_of_ne ne _ _) }

/-- A site **with one more listener** on a bus, whoever attached it. -/
structure Grown (site after : Site) (bus : BusRef) (listener : Handler) : Prop where
  own : ∃ stage priority,
    after.buses.get bus = ((site.buses.get bus).attach stage listener priority).2
  apart : ∀ other, other ≠ bus → after.buses.get other = site.buses.get other

theorem Attached.grown {site after : Site} {bus : BusRef} {component : Component}
    (attached : Attached site after bus component) : Grown site after bus component.handler :=
  ⟨attached.own, attached.apart⟩

theorem grown_attach (site : Site) (bus : BusRef) (stage : String) (listener : Handler)
    (priority : Value) : Grown site (site.attach bus stage listener priority).2 bus listener :=
  ⟨⟨stage, priority, Arena.get_set_self _ _ _⟩, fun _ ne => Arena.get_set_of_ne ne _ _⟩

namespace Grown

variable {site after : Site} {bus : BusRef} {listener : Handler}

/-- The bus has given out one number more. -/
theorem issued (grown : Grown site after bus listener) :
    (after.buses.get bus).issued = (site.buses.get bus).issued + 1 := by
  obtain ⟨stage, priority, own⟩ := grown.own
  rw [own, Bus.attach_issued]

/-- No bus takes numbers back. -/
theorem issued_le (grown : Grown site after bus listener) (other : BusRef) :
    (site.buses.get other).issued ≤ (after.buses.get other).issued := by
  by_cases same : other = bus
  · rw [same, grown.issued]
    exact Nat.le_succ _
  · rw [grown.apart other same]

theorem ordered (grown : Grown site after bus listener)
    (ordered : ∀ other, (site.buses.get other).Ordered) (other : BusRef) :
    (after.buses.get other).Ordered := by
  obtain ⟨stage, priority, own⟩ := grown.own
  by_cases same : other = bus
  · rw [same, own]
    exact (ordered bus).attach stage listener priority
  · rw [grown.apart other same]
    exact ordered other

/-- What is attached was so before, or is the new listener under the next number. -/
theorem mem (grown : Grown site after bus listener) {other : BusRef}
    {subscription : Subscription Handler}
    (mem : subscription ∈ (after.buses.get other).subscriptions) :
    subscription ∈ (site.buses.get other).subscriptions ∨
      other = bus ∧ subscription.listener = listener ∧
        subscription.number = (site.buses.get bus).issued + 1 := by
  obtain ⟨stage, priority, own⟩ := grown.own
  by_cases same : other = bus
  · rw [same, own, Bus.attach_subscriptions, List.mem_append, List.mem_singleton] at mem
    rcases mem with mem | rfl
    · exact .inl (same ▸ mem)
    · exact .inr ⟨same, rfl, rfl⟩
  · rw [grown.apart other same] at mem
    exact .inl mem

/-- The next number is attached. -/
theorem holds_next (grown : Grown site after bus listener) :
    (after.buses.get bus).holds ((site.buses.get bus).issued + 1) = true := by
  obtain ⟨stage, priority, own⟩ := grown.own
  rw [own]
  exact Bus.holds_iff.2 ⟨_, List.mem_append_right _ (List.mem_singleton_self _), rfl⟩

/-- What was attached still is. -/
theorem holds (grown : Grown site after bus listener) {handle : Handle}
    (held : (site.buses.get handle.bus).holds handle.number = true) :
    (after.buses.get handle.bus).holds handle.number = true := by
  obtain ⟨stage, priority, own⟩ := grown.own
  by_cases same : handle.bus = bus
  · rw [same] at held ⊢
    obtain ⟨subscription, mem, number⟩ := Bus.holds_iff.1 held
    rw [own]
    exact Bus.holds_iff.2 ⟨subscription, List.mem_append_left _ mem, number⟩
  · rw [grown.apart _ same]
    exact held

end Grown

/-- A site **after a component was detached** from a bus: its handles were released. -/
structure Detached (site after : Site) (bus : BusRef) (component : Component) : Prop where
  own : after.buses.get bus =
    (release bus (site.buses.get bus) (site.handlesOf component)).1
  apart : ∀ other, other ≠ bus → after.buses.get other = site.buses.get other
  handles : after.handlesOf component =
    (release bus (site.buses.get bus) (site.handlesOf component)).2
  others : ∀ other, other ≠ component → after.handlesOf other = site.handlesOf other

/-- **Detaching** a component. -/
theorem detached_detachComponent (site : Site) (bus : BusRef) :
    ∀ component, Detached site (site.detachComponent bus component) bus component
  | .guard ref =>
    { own := Arena.get_set_self _ _ _
      apart := fun _ ne => Arena.get_set_of_ne ne _ _
      handles := congrArg GuardPost.handles (Arena.get_set_self _ _ _)
      others := fun other ne => by
        cases other with
        | guard other =>
          have ne : other ≠ ref := fun same => ne (congrArg _ same)
          exact congrArg GuardPost.handles (Arena.get_set_of_ne ne _ _)
        | strategy other => rfl }
  | .strategy ref =>
    { own := Arena.get_set_self _ _ _
      apart := fun _ ne => Arena.get_set_of_ne ne _ _
      handles := congrArg StrategyPost.handles (Arena.get_set_self _ _ _)
      others := fun other ne => by
        cases other with
        | guard other => rfl
        | strategy other =>
          have ne : other ≠ ref := fun same => ne (congrArg _ same)
          exact congrArg StrategyPost.handles (Arena.get_set_of_ne ne _ _) }

/-- A site **without some listeners** of before. -/
structure Shrunk (site after : Site) : Prop where
  less : ∀ bus, (after.buses.get bus).subscriptions.Sublist (site.buses.get bus).subscriptions
  issued : ∀ bus, (after.buses.get bus).issued = (site.buses.get bus).issued

/-- What is left is in order. -/
theorem Shrunk.ordered {site after : Site} (shrunk : Shrunk site after)
    (ordered : ∀ bus, (site.buses.get bus).Ordered) (bus : BusRef) :
    (after.buses.get bus).Ordered where
  ascends := (ordered bus).ascends.sublist (shrunk.less bus)
  issued subscription mem := by
    rw [shrunk.issued]
    exact (ordered bus).issued subscription ((shrunk.less bus).subset mem)

/-! ## Releasing -/

/-- Whether a handle is **held** by a state of a bus. -/
def heldBy (bus : BusRef) (state : Bus Handler) (handle : Handle) : Bool :=
  handle.bus == bus && state.holds handle.number

theorem heldBy_iff {bus : BusRef} {state : Bus Handler} {handle : Handle} :
    heldBy bus state handle = true ↔ handle.bus = bus ∧ state.holds handle.number = true := by
  rw [heldBy, Bool.and_eq_true, beq_iff_eq]

/-- Without a number, other numbers are held as before. -/
theorem holds_remove_of_ne {state : Bus Handler} (ordered : state.Ordered) {number other : Nat}
    (ne : other ≠ number) : (state.remove number).holds other = state.holds other := by
  rw [Bool.eq_iff_iff, Bus.holds_iff, Bus.holds_iff, ordered.remove_subscriptions]
  constructor
  · rintro ⟨subscription, mem, same⟩
    exact ⟨subscription, (List.mem_filter.1 mem).1, same⟩
  · rintro ⟨subscription, mem, rfl⟩
    exact ⟨subscription, List.mem_filter.2 ⟨mem, bne_iff_ne.2 ne⟩, rfl⟩

/-- Without the number of a handle, other handles are held as before. -/
theorem heldBy_remove_of_ne {state : Bus Handler} (ordered : state.Ordered) {handle other : Handle}
    (ne : other ≠ handle) :
    heldBy handle.bus (state.remove handle.number) other = heldBy handle.bus state other := by
  unfold heldBy
  by_cases isOwn : other.bus = handle.bus
  · have number : other.number ≠ handle.number := by
      intro same
      apply ne
      obtain ⟨ofBus, number⟩ := other
      obtain ⟨ofBus', number'⟩ := handle
      rw [Handle.mk.injEq]
      exact ⟨isOwn, same⟩
    rw [holds_remove_of_ne ordered number]
  · rw [beq_false_of_ne isOwn, Bool.false_and, Bool.false_and]

/-- Handles of one bus are the same if their numbers are. -/
theorem beq_handle (number : Nat) (handle : Handle) :
    ((⟨handle.bus, number⟩ : Handle) == handle) = (number == handle.number) := by
  rw [Bool.eq_iff_iff, beq_iff_eq, beq_iff_eq, Handle.mk.injEq]
  exact and_iff_right rfl

/-- **Releasing** different handles from a bus removes the subscriptions that they stand for and
drops the handles that were held; what is left is in the order from before. -/
theorem release_eq (bus : BusRef) : ∀ {handles : List Handle} {state : Bus Handler},
    state.Ordered → handles.Nodup →
    (release bus state handles).1.subscriptions = state.subscriptions.filter
        (fun subscription => !handles.contains ⟨bus, subscription.number⟩) ∧
      (release bus state handles).1.issued = state.issued ∧
      (release bus state handles).2 = handles.filter fun handle => !heldBy bus state handle
  | [], state, _, _ => ⟨(List.filter_eq_self.2 fun _ _ => rfl).symm, rfl, rfl⟩
  | handle :: rest, state, ordered, nodup => by
    obtain ⟨new, nodup⟩ := List.nodup_cons.1 nodup
    unfold release
    by_cases held : handle.bus = bus ∧ state.holds handle.number = true
    · -- this handle goes, and the others are released from what is left
      obtain ⟨subscriptions, issued, kept⟩ := release_eq bus (ordered.remove handle.number) nodup
      have isHeld := heldBy_iff.2 held
      rw [if_pos held]
      obtain ⟨rfl, -⟩ := held
      refine ⟨?_, issued, ?_⟩
      · rw [subscriptions, ordered.remove_subscriptions, List.filter_filter]
        refine List.filter_congr fun subscription _ => ?_
        rw [List.contains_cons, beq_handle, Bool.not_or, Bool.and_comm]
        rfl
      · rw [kept, List.filter_cons_of_neg (by simp [isHeld])]
        refine List.filter_congr fun other mem => ?_
        have ne : other ≠ handle := by
          rintro rfl
          exact new mem
        rw [heldBy_remove_of_ne ordered ne]
    · obtain ⟨subscriptions, issued, kept⟩ := release_eq bus ordered nodup
      have notHeld := eq_false_of_ne_true fun isHeld => held (heldBy_iff.1 isHeld)
      rw [if_neg held]
      refine ⟨?_, issued, ?_⟩
      · show (release bus state rest).1.subscriptions = _
        rw [subscriptions]
        refine List.filter_congr fun subscription mem => ?_
        -- no subscription has this handle, since it is not held
        have other : ((⟨bus, subscription.number⟩ : Handle) == handle) = false := by
          refine beq_false_of_ne ?_
          rintro rfl
          exact held ⟨rfl, Bus.holds_iff.2 ⟨subscription, mem, rfl⟩⟩
        rw [List.contains_cons, other, Bool.false_or]
      · show handle :: (release bus state rest).2 = _
        rw [kept, List.filter_cons_of_pos (by simp [notHeld])]

/-! ## Two books in line -/

/-- The books of buses and components are **in line**: what is attached to a bus is in the book of a
component iff that component created it. -/
structure Owned (site : Site) : Prop where
  ordered : ∀ bus, (site.buses.get bus).Ordered
  issued : ∀ component, ∀ handle ∈ site.handlesOf component,
    handle.number ≤ (site.buses.get handle.bus).issued
  nodup : ∀ component, (site.handlesOf component).Nodup
  owns : ∀ component bus, ∀ subscription ∈ (site.buses.get bus).subscriptions,
    component.owns subscription = true ↔ ⟨bus, subscription.number⟩ ∈ site.handlesOf component

/-- The handles of components are **settled**: each stands for a subscription that is attached. -/
def Settled (site : Site) : Prop :=
  ∀ component, ∀ handle ∈ site.handlesOf component,
    (site.buses.get handle.bus).holds handle.number = true

section

variable {site after : Site} {bus : BusRef} {component : Component}

/-- A number that is not issued yet is in no book. -/
theorem Owned.not_mem_next (owned : site.Owned) (component : Component) :
    ⟨bus, (site.buses.get bus).issued + 1⟩ ∉ site.handlesOf component := by
  intro mem
  have le := owned.issued component _ mem
  exact Nat.not_succ_le_self _ le

/-- A component keeps the handles from before, and the new one if it is its own. -/
theorem Attached.mem_handlesOf_iff (attached : Attached site after bus component)
    (other : Component) (handle : Handle) : handle ∈ after.handlesOf other ↔
      handle ∈ site.handlesOf other ∨
        other = component ∧ handle = ⟨bus, (site.buses.get bus).issued + 1⟩ := by
  by_cases same : other = component
  · rw [same, attached.handles, List.mem_append, List.mem_singleton, and_iff_right rfl]
  · rw [attached.others other same]
    exact (or_iff_left fun eq => same eq.1).symm

/-- **Attaching a component** keeps the books in line. -/
theorem Owned.attached (owned : site.Owned) (attached : Attached site after bus component) :
    after.Owned := by
  have grown := attached.grown
  constructor
  · exact grown.ordered owned.ordered
  · intro other handle mem
    rcases (attached.mem_handlesOf_iff other handle).1 mem with mem | ⟨-, rfl⟩
    · exact Nat.le_trans (owned.issued other handle mem) (grown.issued_le handle.bus)
    · exact Nat.le_of_eq grown.issued.symm
  · intro other
    by_cases same : other = component
    · rw [same, attached.handles, List.nodup_append]
      refine ⟨owned.nodup component, List.pairwise_singleton _ _, fun handle mem new isNew eq => ?_⟩
      rw [List.mem_singleton.1 isNew] at eq
      exact owned.not_mem_next component (eq ▸ mem)
    · rw [attached.others other same]
      exact owned.nodup other
  · intro other bus' subscription mem
    rw [attached.mem_handlesOf_iff]
    rcases grown.mem mem with mem | ⟨rfl, listener, number⟩
    · -- what was attached before has an earlier number
      have le := (owned.ordered bus').issued subscription mem
      rw [owned.owns other bus' subscription mem, or_iff_left]
      rintro ⟨-, eq⟩
      rw [Handle.mk.injEq] at eq
      obtain ⟨rfl, number⟩ := eq
      omega
    · have owns : other.owns subscription = true ↔ other = component := by
        rw [Component.owns_iff, listener]
        exact ⟨fun same => (Component.handler_injective same).symm, fun same => same ▸ rfl⟩
      rw [owns, number, or_iff_right (owned.not_mem_next other), and_iff_left rfl]

/-- **What detaching a component leaves**: on the bus, all that it does not own; in its book, all
that was not held there. -/
theorem Owned.released (owned : site.Owned) (detached : Detached site after bus component) :
    (after.buses.get bus).subscriptions =
        (site.buses.get bus).subscriptions.filter (fun subscription =>
          !component.owns subscription) ∧
      (after.buses.get bus).issued = (site.buses.get bus).issued ∧
      after.handlesOf component = (site.handlesOf component).filter fun handle =>
        !heldBy bus (site.buses.get bus) handle := by
  obtain ⟨subscriptions, issued, kept⟩ := release_eq bus (owned.ordered bus) (owned.nodup component)
  rw [detached.own, detached.handles]
  refine ⟨?_, issued, kept⟩
  rw [subscriptions]
  refine List.filter_congr fun subscription mem => ?_
  rw [Bool.eq_iff_iff.2 (owned.owns component bus subscription mem |>.trans
    List.contains_iff_mem.symm)]

/-- Detaching a component takes listeners away. -/
theorem Owned.shrunk (owned : site.Owned) (detached : Detached site after bus component) :
    Shrunk site after := by
  obtain ⟨subscriptions, issued, -⟩ := owned.released detached
  constructor
  · intro other
    by_cases same : other = bus
    · rw [same, subscriptions]
      exact List.filter_sublist
    · exact detached.apart other same ▸ List.Sublist.refl _
  · intro other
    by_cases same : other = bus
    · rw [same, issued]
    · rw [detached.apart other same]

/-- **Detaching a component** keeps the books in line. -/
theorem Owned.detached (owned : site.Owned) (detached : Detached site after bus component) :
    after.Owned := by
  obtain ⟨subscriptions, -, kept⟩ := owned.released detached
  have shrunk := owned.shrunk detached
  have less (other : Component) : (after.handlesOf other).Sublist (site.handlesOf other) := by
    by_cases same : other = component
    · rw [same, kept]
      exact List.filter_sublist
    · exact detached.others other same ▸ List.Sublist.refl _
  constructor
  · exact shrunk.ordered owned.ordered
  · intro other handle mem
    rw [shrunk.issued]
    exact owned.issued other handle ((less other).subset mem)
  · intro other
    exact (owned.nodup other).sublist (less other)
  · intro other bus' subscription mem
    have owns := owned.owns other bus' subscription ((shrunk.less bus').subset mem)
    by_cases same : other = component
    · subst same
      rw [owns, kept, List.mem_filter, Bool.not_eq_true']
      refine (and_iff_left_of_imp fun isOwn => eq_false_of_ne_true fun held => ?_).symm
      -- what it owned on the bus is not there any more
      obtain ⟨isBus, -⟩ := heldBy_iff.1 held
      dsimp only at isBus
      subst isBus
      rw [subscriptions, List.mem_filter, owns.2 isOwn] at mem
      cases mem.2
    · rw [detached.others other same, owns]

/-- What a component keeps is attached, also **after one was attached**. -/
theorem Settled.attached (settled : site.Settled) (attached : Attached site after bus component) :
    after.Settled := by
  intro other handle mem
  rcases (attached.mem_handlesOf_iff other handle).1 mem with mem | ⟨-, rfl⟩
  · exact attached.grown.holds (settled other handle mem)
  · exact attached.grown.holds_next

/-- So it is **after one was detached**. -/
theorem Settled.detached (settled : site.Settled) (owned : site.Owned)
    (detached : Detached site after bus component) : after.Settled := by
  obtain ⟨subscriptions, -, kept⟩ := owned.released detached
  intro other handle mem
  by_cases same : other = component
  · -- of its own handles the component keeps those of other buses
    rw [same, kept, List.mem_filter, Bool.not_eq_true'] at mem
    have held := settled component handle mem.1
    have apart : handle.bus ≠ bus := by
      intro isBus
      have isHeld : heldBy bus (site.buses.get bus) handle = true :=
        heldBy_iff.2 ⟨isBus, isBus ▸ held⟩
      rw [mem.2] at isHeld
      cases isHeld
    rw [detached.apart _ apart]
    exact held
  · rw [detached.others other same] at mem
    have held := settled other handle mem
    by_cases isBus : handle.bus = bus
    · -- what the other component created is not removed
      obtain ⟨subscription, isAttached, number⟩ := Bus.holds_iff.1 held
      have owns : other.owns subscription = true := by
        rw [owned.owns other handle.bus subscription isAttached, number]
        exact mem
      have foreign : component.owns subscription = false :=
        eq_false_of_ne_true fun owns' => same (Component.eq_of_owns owns owns')
      rw [isBus] at isAttached ⊢
      refine Bus.holds_iff.2 ⟨subscription, ?_, number⟩
      rw [subscriptions, List.mem_filter, foreign]
      exact ⟨isAttached, rfl⟩
    · rw [detached.apart _ isBus]
      exact held

/-- **Other listeners** are in no book of a component. -/
theorem Owned.listen (owned : site.Owned) (bus : BusRef) (stage : String) (script : Script)
    (priority : Value) : (site.attach bus stage (.script script) priority).2.Owned := by
  have grown := grown_attach site bus stage (.script script) priority
  constructor
  · exact grown.ordered owned.ordered
  · intro component handle mem
    exact Nat.le_trans (owned.issued component handle mem) (grown.issued_le handle.bus)
  · exact owned.nodup
  · intro component other subscription mem
    rcases grown.mem mem with mem | ⟨rfl, listener, number⟩
    · exact owned.owns component other subscription mem
    · rw [number]
      refine iff_of_false (fun owns => ?_) (owned.not_mem_next component)
      have same := (Component.owns_iff.1 owns).symm.trans listener
      cases component <;> cases same

/-- Other listeners leave attached what was. -/
theorem Settled.listen (settled : site.Settled) (bus : BusRef) (stage : String) (script : Script)
    (priority : Value) : (site.attach bus stage (.script script) priority).2.Settled :=
  fun component handle mem =>
    (grown_attach site bus stage (.script script) priority).holds (settled component handle mem)

/-- **Detaching a handle directly** keeps the books in line: a component may then keep a handle of
nothing. -/
theorem Owned.remove (owned : site.Owned) (bus : BusRef) (handle : Handle) :
    (site.detach bus handle).2.Owned := by
  unfold Site.detach
  by_cases isOwn : handle.bus = bus
  · rw [if_pos isOwn]
    let removed := site.buses.set bus ((site.buses.get bus).remove handle.number)
    have shrunk : Shrunk site { site with buses := removed } := by
      constructor
      · intro other
        show (removed.get other).subscriptions.Sublist _
        by_cases same : other = bus
        · rw [same, show removed.get bus = _ from Arena.get_set_self _ _ _]
          exact List.eraseP_sublist
        · have apart : removed.get other = site.buses.get other := Arena.get_set_of_ne same _ _
          exact apart ▸ List.Sublist.refl _
      · intro other
        show (removed.get other).issued = _
        by_cases same : other = bus
        · rw [same, show removed.get bus = _ from Arena.get_set_self _ _ _]
          rfl
        · rw [show removed.get other = _ from Arena.get_set_of_ne same _ _]
    constructor
    · exact shrunk.ordered owned.ordered
    · intro component other mem
      exact (shrunk.issued other.bus).symm ▸ owned.issued component other mem
    · exact owned.nodup
    · intro component other subscription mem
      exact owned.owns component other subscription ((shrunk.less other).subset mem)
  · rw [if_neg isOwn]
    exact owned

end

/-! ## Runs -/

/-- A **call** that attaches or detaches. -/
inductive WiringCall where
  /-- Attach a component to a bus; a strategy has a priority of its own. -/
  | attach (component : Component) (bus : BusRef) (priority : Value)
  /-- Detach a component from a bus. -/
  | detach (component : Component) (bus : BusRef)
  /-- Attach all listeners of an installation to a bus. -/
  | attachAll (installation : Installation) (bus : BusRef)
  /-- Detach all listeners of an installation from a bus. -/
  | detachAll (installation : Installation) (bus : BusRef)
  /-- Detach a handle from a bus directly. -/
  | remove (bus : BusRef) (handle : Handle)
  /-- Attach a listener that is no component. -/
  | listen (bus : BusRef) (stage : String) (script : Script) (priority : Value)

/-- Whether a call goes **behind the back** of components. -/
def WiringCall.isRemoval : WiringCall → Bool
  | remove .. => true
  | _ => false

/-- The site after a call. -/
def wire (site : Site) : WiringCall → Site
  | .attach component bus priority => site.attachComponent bus priority component
  | .detach component bus => site.detachComponent bus component
  | .attachAll installation bus => Session.attachAllTo site installation bus
  | .detachAll installation bus => Session.detachAllFrom site installation bus
  | .remove bus handle => (site.detach bus handle).2
  | .listen bus stage script priority => (site.attach bus stage (.script script) priority).2

/-- The site after calls. -/
def wireAll (site : Site) (calls : List WiringCall) : Site := calls.foldl wire site

/-- The site with **nothing attached**. -/
def bare (site : Site) : Site :=
  { site with
    buses := .empty
    guards := ⟨site.guards.size, fun ref => { site.guards.get ref with handles := [] }⟩
    strategies :=
      ⟨site.strategies.size, fun ref => { site.strategies.get ref with handles := [] }⟩ }

/-- Where nothing is attached, the books are empty. -/
theorem handlesOf_bare (site : Site) (component : Component) :
    site.bare.handlesOf component = [] := by
  cases component <;> rfl

theorem owned_bare (site : Site) : site.bare.Owned where
  ordered _ := Bus.ordered_of_empty rfl
  issued component handle mem := by rw [handlesOf_bare] at mem; cases mem
  nodup component := by rw [handlesOf_bare]; exact List.nodup_nil
  owns _ _ _ mem := absurd mem List.not_mem_nil

/-- **A call** keeps the books in line. -/
theorem Owned.wire {site : Site} (owned : site.Owned) (call : WiringCall) :
    (site.wire call).Owned := by
  cases call with
  | attach component bus priority =>
    exact owned.attached (attached_attachComponent site bus priority component)
  | detach component bus => exact owned.detached (detached_detachComponent site bus component)
  | attachAll installation bus =>
    show (Session.attachAllTo site installation bus).Owned
    rw [attachAllTo_eq]
    exact List.foldlRecOn _ _ owned fun site owned component _ =>
      owned.attached (attached_attachComponent site bus _ component)
  | detachAll installation bus =>
    show (Session.detachAllFrom site installation bus).Owned
    rw [detachAllFrom_eq]
    exact List.foldlRecOn _ _ owned fun site owned component _ =>
      owned.detached (detached_detachComponent site bus component)
  | remove bus handle => exact owned.remove bus handle
  | listen bus stage script priority => exact owned.listen bus stage script priority

/-- **A call that is no removal** keeps all handles attached. -/
theorem Settled.wire {site : Site} (settled : site.Settled) (owned : site.Owned)
    {call : WiringCall} (loyal : call.isRemoval = false) : (site.wire call).Settled := by
  cases call with
  | attach component bus priority =>
    exact settled.attached (attached_attachComponent site bus priority component)
  | detach component bus =>
    exact settled.detached owned (detached_detachComponent site bus component)
  | attachAll installation bus =>
    show (Session.attachAllTo site installation bus).Settled
    rw [attachAllTo_eq]
    exact List.foldlRecOn _ _ settled fun site settled component _ =>
      settled.attached (attached_attachComponent site bus _ component)
  | detachAll installation bus =>
    show (Session.detachAllFrom site installation bus).Settled
    rw [detachAllFrom_eq]
    -- the books stay in line on the way
    have both := List.foldlRecOn (motive := fun site : Site => site.Owned ∧ site.Settled)
      installation.components (fun site component => site.detachComponent bus component)
      ⟨owned, settled⟩ fun site ⟨owned, settled⟩ component _ =>
        ⟨owned.detached (detached_detachComponent site bus component),
          settled.detached owned (detached_detachComponent site bus component)⟩
    exact both.2
  | remove bus handle => cases loyal
  | listen bus stage script priority => exact settled.listen bus stage script priority

/-- **All calls** keep the books in line. -/
theorem owned_wireAll (site : Site) (calls : List WiringCall) : (site.bare.wireAll calls).Owned :=
  List.foldlRecOn calls _ (owned_bare site) fun _ owned call _ => owned.wire call

/-- Calls none of which is a removal keep all handles attached. -/
theorem settled_wireAll (site : Site) {calls : List WiringCall}
    (loyal : ∀ call ∈ calls, call.isRemoval = false) : (site.bare.wireAll calls).Settled := by
  have none : site.bare.Settled := by
    intro component handle mem
    rw [handlesOf_bare] at mem
    cases mem
  have both := List.foldlRecOn (motive := fun site : Site => site.Owned ∧ site.Settled) calls wire
    ⟨owned_bare site, none⟩ fun site ⟨owned, settled⟩ call mem =>
      ⟨owned.wire call, settled.wire owned (loyal call mem)⟩
  exact both.2

/-! ## Attaching all and detaching all -/

/-- Attaching components adds subscriptions that they own. -/
theorem exists_subscriptions_attach (bus : BusRef) (priority : Value) :
    ∀ (components : List Component) (site : Site), ∃ more,
      ((components.foldl (fun site component => site.attachComponent bus priority component)
        site).buses.get bus).subscriptions = (site.buses.get bus).subscriptions ++ more ∧
      ∀ subscription ∈ more, ∃ component ∈ components, component.owns subscription = true
  | [], site => ⟨[], (List.append_nil _).symm, by simp⟩
  | component :: rest, site => by
    obtain ⟨stage, level, own⟩ := (attached_attachComponent site bus priority component).own
    let new : Subscription Handler :=
      ⟨stage, component.handler, level, (site.buses.get bus).issued + 1⟩
    obtain ⟨more, all, owns⟩ :=
      exists_subscriptions_attach bus priority rest (site.attachComponent bus priority component)
    refine ⟨new :: more, ?_, ?_⟩
    · rw [List.foldl_cons, all, own, Bus.attach_subscriptions, List.append_assoc]
      rfl
    · rw [List.forall_mem_cons]
      refine ⟨⟨component, List.mem_cons_self, ?_⟩, fun subscription mem => ?_⟩
      · exact (Component.owns_attached stage level _).2 rfl
      · obtain ⟨other, mem, owns⟩ := owns subscription mem
        exact ⟨other, List.mem_cons_of_mem _ mem, owns⟩

/-- Detaching components leaves what none of them owns. -/
theorem Owned.subscriptions_detach (bus : BusRef) :
    ∀ (components : List Component) {site : Site}, site.Owned →
      ((components.foldl (fun site component => site.detachComponent bus component)
        site).buses.get bus).subscriptions = (site.buses.get bus).subscriptions.filter
          (fun subscription => !components.any (·.owns subscription))
  | [], _, _ => (List.filter_eq_self.2 fun _ _ => rfl).symm
  | component :: rest, site, owned => by
    have detached := detached_detachComponent site bus component
    rw [List.foldl_cons, subscriptions_detach bus rest (owned.detached detached),
      (owned.released detached).1, List.filter_filter]
    refine List.filter_congr fun subscription _ => ?_
    rw [List.any_cons, Bool.not_or, Bool.and_comm]

/-- **Attaching all and detaching all** leads back to the subscriptions from before, if the
components owned none of these. -/
theorem Owned.restores {site : Site} (owned : site.Owned) {installation : Installation}
    {bus : BusRef} (foreign : ∀ subscription ∈ (site.buses.get bus).subscriptions,
      ∀ component ∈ installation.components, component.owns subscription = false) :
    ((Session.detachAllFrom (Session.attachAllTo site installation bus) installation
      bus).buses.get bus).subscriptions = (site.buses.get bus).subscriptions := by
  have ready : (Session.attachAllTo site installation bus).Owned := owned.wire (.attachAll _ _)
  obtain ⟨more, all, owns⟩ := exists_subscriptions_attach bus (.int guardPriority)
    installation.components site
  rw [← attachAllTo_eq] at all
  rw [detachAllFrom_eq, ready.subscriptions_detach bus, all, List.filter_append]
  have old : (site.buses.get bus).subscriptions.filter (fun subscription =>
      !installation.components.any (·.owns subscription)) =
        (site.buses.get bus).subscriptions := by
    refine List.filter_eq_self.2 fun subscription mem => ?_
    rw [Bool.not_eq_true', List.any_eq_false]
    intro component isPart
    simp [foreign subscription mem component isPart]
  have new : more.filter (fun subscription =>
      !installation.components.any (·.owns subscription)) = [] := by
    refine List.filter_eq_nil_iff.2 fun subscription mem => ?_
    obtain ⟨component, isPart, owned⟩ := owns subscription mem
    have any : installation.components.any (·.owns subscription) = true :=
      List.any_eq_true.2 ⟨component, isPart, owned⟩
    simp only [any, Bool.not_true, Bool.false_eq_true, not_false_eq_true]
  rw [old, new, List.append_nil]

/-- **Ownership.** After any calls that attach and detach components, one by one or all of an
installation, and handles and other listeners directly: detaching a component from a bus leaves
there none of the subscriptions that it created, and all others, which run in the order from before;
other buses are as they were; the component loses from its book just the handles that were held by
the bus, and other components lose none. If no handle was detached directly, the book of a component
holds just the handles of the subscriptions that it created and that are attached. And if none of
the listeners of an installation was on a bus, attaching all of them and detaching all of them again
restores the listeners of every stage. -/
theorem ownership_of_calls (site : Site) (calls : List WiringCall) :
    let done := site.bare.wireAll calls
    (∀ component bus,
      let after := done.detachComponent bus component
      (∀ subscription ∈ (after.buses.get bus).subscriptions,
        component.owns subscription = false) ∧
      (after.buses.get bus).subscriptions = (done.buses.get bus).subscriptions.filter
        (fun subscription => !component.owns subscription) ∧
      (∀ stage order, (done.buses.get bus).listeners stage = .ok order →
        (after.buses.get bus).listeners stage =
          .ok (order.filter fun subscription => !component.owns subscription)) ∧
      (∀ other, other ≠ bus → after.buses.get other = done.buses.get other) ∧
      after.handlesOf component = (done.handlesOf component).filter
        (fun handle => !heldBy bus (done.buses.get bus) handle) ∧
      ∀ other, other ≠ component → after.handlesOf other = done.handlesOf other) ∧
    ((∀ call ∈ calls, call.isRemoval = false) → ∀ component handle,
      handle ∈ done.handlesOf component ↔
        ∃ subscription ∈ (done.buses.get handle.bus).subscriptions,
          subscription.number = handle.number ∧ component.owns subscription = true) ∧
    ∀ (installation : Installation) (bus : BusRef),
      (∀ subscription ∈ (done.buses.get bus).subscriptions,
        ∀ component ∈ installation.components, component.owns subscription = false) →
      ∀ stage, ((Session.detachAllFrom (Session.attachAllTo done installation bus) installation
        bus).buses.get bus).listeners stage = (done.buses.get bus).listeners stage := by
  intro done
  have owned : done.Owned := owned_wireAll site calls
  refine ⟨fun component bus => ?_, fun loyal component handle => ?_, ?_⟩
  · have detached := detached_detachComponent done bus component
    obtain ⟨subscriptions, -, kept⟩ := owned.released detached
    refine ⟨?_, subscriptions, ?_, detached.apart, kept, detached.others⟩
    · intro subscription mem
      rw [subscriptions, List.mem_filter, Bool.not_eq_true'] at mem
      exact mem.2
    · intro stage order found
      exact (owned.ordered bus).listeners_filter subscriptions found
  · have settled := settled_wireAll site loyal
    constructor
    · intro mem
      obtain ⟨subscription, isAttached, number⟩ := Bus.holds_iff.1 (settled component handle mem)
      refine ⟨subscription, isAttached, number, ?_⟩
      rw [owned.owns component handle.bus subscription isAttached, number]
      exact mem
    · rintro ⟨subscription, isAttached, number, owns⟩
      rw [owned.owns component handle.bus subscription isAttached, number] at owns
      exact owns
  · intro installation bus foreign stage
    have same := owned.restores foreign
    unfold Bus.listeners Bus.onStage
    rw [same]

end Site

end GuardedDispatch
