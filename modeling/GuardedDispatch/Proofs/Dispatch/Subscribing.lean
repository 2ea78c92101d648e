import GuardedDispatch.Proofs.Dispatch.Attaching

/-! # What is attached

The buses of a site after any calls that attach listeners and detach handles. The **deeds** of the
calls tell which subscriptions stand (`Stands`): those that were attached and have not been detached
from their bus since. Every call keeps the buses in line with the deeds (`Site.Accounts`).

* **`Site.listeners_of_calls`**: no handle is given out twice; the listeners of a stage are the
  subscriptions that stand, each once, those of higher priorities first and those of one priority as
  they were attached; and detaching a handle removes what it stands for and nothing else. -/

namespace GuardedDispatch

namespace Bus

variable {η : Type} {bus : Bus η} {stage : String}

/-! ## Removing -/

/-- Where numbers ascend, at most one subscription has a given number. -/
theorem eraseP_eq_filter (number : Nat) : ∀ {subscriptions : List (Subscription η)},
    (subscriptions.Pairwise fun a b => a.number < b.number) →
    subscriptions.eraseP (·.number == number) = subscriptions.filter (·.number != number)
  | [], _ => rfl
  | first :: rest, ascends => by
    obtain ⟨above, ascends⟩ := List.pairwise_cons.1 ascends
    by_cases same : first.number = number
    · -- all others have higher numbers
      have others : rest.filter (·.number != number) = rest := by
        refine List.filter_eq_self.2 fun other mem => ?_
        have := above other mem
        exact bne_iff_ne.2 (by omega)
      rw [List.eraseP_cons_of_pos (by simp [same]),
        List.filter_cons_of_neg (by simp [same]), others]
    · rw [List.eraseP_cons_of_neg (by simp [same]), List.filter_cons_of_pos (by simp [same]),
        eraseP_eq_filter number ascends]

/-- Removing a number leaves the subscriptions of all other numbers. -/
theorem Ordered.remove_subscriptions (ordered : bus.Ordered) (number : Nat) :
    (bus.remove number).subscriptions = bus.subscriptions.filter (·.number != number) :=
  eraseP_eq_filter number ordered.ascends

/-- Removing keeps the numbers in order. -/
theorem Ordered.remove (ordered : bus.Ordered) (number : Nat) : (bus.remove number).Ordered where
  ascends := ordered.ascends.sublist List.eraseP_sublist
  issued subscription mem := ordered.issued subscription (List.mem_of_mem_eraseP mem)

/-- Removing a number that is not held changes nothing. -/
theorem remove_of_not_holds {number : Nat} (missing : bus.holds number = false) :
    bus.remove number = bus := by
  have kept : bus.subscriptions.eraseP (·.number == number) = bus.subscriptions :=
    List.eraseP_of_forall_not fun subscription mem same => by
      have held : bus.holds number = true := List.any_eq_true.2 ⟨subscription, mem, same⟩
      rw [missing] at held
      cases held
  rw [remove, kept]

theorem holds_iff {number : Nat} :
    bus.holds number = true ↔ ∃ subscription ∈ bus.subscriptions, subscription.number = number := by
  simp [holds]

end Bus

/-! ## Orders -/

/-- One subscription **runs first**: its priority, an integer, is higher, or it is the same and the
subscription was attached earlier. -/
def Subscription.RunsFirst {η : Type} (a b : Subscription η) : Prop :=
  ∃ p q : Int, a.priority = .int p ∧ b.priority = .int q ∧ (q < p ∨ p = q ∧ a.number < b.number)

namespace Bus

variable {η : Type} {bus : Bus η} {stage : String} {order : List (Subscription η)}

/-- Of two subscriptions, at most one runs first. -/
theorem runsFirst_asymm {a b : Subscription η} (first : a.RunsFirst b) : ¬ b.RunsFirst a := by
  rintro ⟨p, q, isP, isQ, second⟩
  obtain ⟨p', q', isP', isQ', first⟩ := first
  cases isP.symm.trans isQ'
  cases isQ.symm.trans isP'
  omega

/-- A bus all of whose priorities are **integers**. -/
def IsIntegral (bus : Bus η) : Prop :=
  ∀ subscription ∈ bus.subscriptions, ∃ priority : Int, subscription.priority = .int priority

/-- Removing leaves all priorities integers. -/
theorem IsIntegral.remove (integral : bus.IsIntegral) (number : Nat) :
    (bus.remove number).IsIntegral := fun subscription mem =>
  integral subscription (List.mem_of_mem_eraseP mem)

/-- What **runs strictly in order**: all subscriptions of a stage, each once and before those that
it runs first of. -/
structure RunsStrictly (bus : Bus η) (stage : String) (order : List (Subscription η)) : Prop where
  found : bus.listeners stage = .ok order
  same : order.Perm (bus.onStage stage)
  sorted : order.Pairwise Subscription.RunsFirst

/-- **Subscriptions with integers as priorities run strictly in order.** -/
theorem exists_runsStrictly (ordered : bus.Ordered) (integral : bus.IsIntegral) (stage : String) :
    ∃ order, bus.RunsStrictly stage order := by
  have integral' : ∀ subscription ∈ bus.onStage stage, ∃ priority : Int,
      subscription.priority = .int priority :=
    fun subscription mem => integral subscription (List.mem_filter.1 mem).1
  obtain ⟨order, inOrder⟩ := exists_runsInOrder fun subscription mem => by
    obtain ⟨priority, isInt⟩ := integral' subscription mem
    rw [isInt]
    rfl
  refine ⟨order, inOrder.found, inOrder.same, ?_⟩
  -- no number occurs twice, so that of two equal priorities one is attached earlier
  have distinct : order.Pairwise fun a b => a.number ≠ b.number :=
    (inOrder.same.pairwise_iff Ne.symm).2 ((ordered.ascends.filter _).imp Nat.ne_of_lt)
  refine (inOrder.sorted.and distinct).imp_of_mem fun {a b} memA memB ⟨before, ne⟩ => ?_
  obtain ⟨p, isP⟩ := integral' a (inOrder.same.mem_iff.1 memA)
  obtain ⟨q, isQ⟩ := integral' b (inOrder.same.mem_iff.1 memB)
  refine ⟨p, q, isP, isQ, ?_⟩
  rcases before (.ofInt p) (.ofInt q) (by rw [isP]; rfl) (by rw [isQ]; rfl) with higher | ⟨same, le⟩
  · exact .inl (by simpa using higher)
  · have same : p = q := by
      have := congrArg (Decimal.Extent.below (.ofInt p)) same
      have := congrArg (Decimal.Extent.below (.ofInt q)) same
      simp at *
      omega
    exact .inr ⟨same, Nat.lt_of_le_of_ne le ne⟩

/-- What runs in a strict order runs once. -/
theorem RunsStrictly.nodup (strict : bus.RunsStrictly stage order) : order.Nodup := by
  refine strict.sorted.imp fun {a b} first => ?_
  rintro rfl
  exact runsFirst_asymm first first

/-- **Removing** a number leaves the relative order of all others. -/
theorem RunsStrictly.remove (strict : bus.RunsStrictly stage order) (ordered : bus.Ordered)
    (number : Nat) :
    (bus.remove number).listeners stage = .ok (order.filter (·.number != number)) :=
  ordered.listeners_filter (ordered.remove_subscriptions number) strict.found

end Bus

/-! ## Calls and deeds -/

/-- A **call** on the buses of a site. -/
inductive BusCall where
  /-- Attach a listener to a stage of a bus. -/
  | attach (bus : BusRef) (stage : String) (listener : Handler) (priority : Int)
  /-- Detach a handle from a bus, whether it is attached there or not. -/
  | detach (bus : BusRef) (handle : Handle)

/-- What a call **did**. -/
inductive BusDeed where
  /-- A subscription was attached to a bus, and its handle given out. -/
  | attached (bus : BusRef) (subscription : Subscription Handler)
  /-- A handle was to be detached from a bus. -/
  | detached (bus : BusRef) (handle : Handle)

/-- The handle that was given out, if any was. -/
def BusDeed.handle? : BusDeed → Option Handle
  | .attached bus subscription => some ⟨bus, subscription.number⟩
  | .detached .. => none

/-- The **handles** that were given out, in order. -/
def handlesIn (deeds : List BusDeed) : List Handle := deeds.filterMap BusDeed.handle?

/-- A subscription of a bus **stands** after deeds: it was attached, and its handle has not been
detached from the bus since. -/
def Stands (deeds : List BusDeed) (bus : BusRef) (subscription : Subscription Handler) : Prop :=
  ∃ before after, deeds = before ++ .attached bus subscription :: after ∧
    .detached bus ⟨bus, subscription.number⟩ ∉ after

namespace Site

/-- **Perform** a call. -/
def perform (site : Site) : BusCall → BusDeed × Site
  | .attach bus stage listener priority =>
    let (handle, after) := site.attach bus stage listener (.int priority)
    (.attached handle.bus ⟨stage, listener, .int priority, handle.number⟩, after)
  | .detach bus handle => (.detached bus handle, (site.detach bus handle).2)

/-- Perform calls one after the other, and keep what they did. -/
def performAll (site : Site) (calls : List BusCall) : List BusDeed × Site :=
  calls.foldl (fun (deeds, site) call =>
    (deeds ++ [(site.perform call).1], (site.perform call).2)) ([], site)

/-- A site **accounts** for deeds: its buses hold the subscriptions that stand, and the handles that
were given out have ascending numbers. -/
structure Accounts (deeds : List BusDeed) (site : Site) : Prop where
  ordered : ∀ bus, (site.buses.get bus).Ordered
  integral : ∀ bus, (site.buses.get bus).IsIntegral
  stands : ∀ bus subscription,
    subscription ∈ (site.buses.get bus).subscriptions ↔ Stands deeds bus subscription
  issued : ∀ handle ∈ handlesIn deeds, handle.number ≤ (site.buses.get handle.bus).issued
  ascends : (handlesIn deeds).Pairwise fun a b => a.bus = b.bus → a.number < b.number


end Site

/-! ## Deeds -/

section

variable {deeds : List BusDeed} {deed : BusDeed} {bus : BusRef}
  {subscription : Subscription Handler}

theorem handlesIn_concat (deeds : List BusDeed) (deed : BusDeed) :
    handlesIn (deeds ++ [deed]) = handlesIn deeds ++ deed.handle?.toList := by
  rw [handlesIn, List.filterMap_append, handlesIn]
  cases deed <;> rfl

/-- After one more deed, what stands is what this attached, and what stood before and was not
detached. -/
theorem stands_concat : Stands (deeds ++ [deed]) bus subscription ↔
    deed = .attached bus subscription ∨
      Stands deeds bus subscription ∧ deed ≠ .detached bus ⟨bus, subscription.number⟩ := by
  constructor
  · rintro ⟨before, after, eq, kept⟩
    rcases List.eq_nil_or_concat after with rfl | ⟨rest, last, rfl⟩
    · exact .inl (List.singleton_inj.1 (List.append_inj' eq rfl).2)
    · rw [List.concat_eq_append] at eq kept
      rw [← List.cons_append, ← List.append_assoc] at eq
      obtain ⟨same, isLast⟩ := List.append_inj' eq rfl
      cases isLast
      rw [List.mem_append, List.mem_singleton, not_or] at kept
      exact .inr ⟨⟨before, rest, same, kept.1⟩, Ne.symm kept.2⟩
  · rintro (rfl | ⟨⟨before, after, rfl, kept⟩, ne⟩)
    · exact ⟨deeds, [], rfl, List.not_mem_nil⟩
    · refine ⟨before, after ++ [deed], by simp, ?_⟩
      rw [List.mem_append, List.mem_singleton, not_or]
      exact ⟨kept, Ne.symm ne⟩

end

namespace Site

variable {deeds : List BusDeed} {site : Site}

/-- Where nothing was done, buses without subscriptions account for it. -/
theorem accounts_nil (site : Site) : Accounts [] { site with buses := .empty } where
  ordered _ := Bus.ordered_of_empty rfl
  integral _ _ mem := absurd mem List.not_mem_nil
  stands _ _ := iff_of_false List.not_mem_nil (by rintro ⟨before, after, eq, -⟩; simp at eq)
  issued _ mem := absurd mem List.not_mem_nil
  ascends := List.Pairwise.nil

/-- **Attaching** keeps the accounts. -/
theorem Accounts.attach (accounts : Accounts deeds site) (bus : BusRef) (stage : String)
    (listener : Handler) (priority : Int) :
    let done := site.perform (.attach bus stage listener priority)
    Accounts (deeds ++ [done.1]) done.2 := by
  intro done
  let new : Subscription Handler :=
    ⟨stage, listener, .int priority, (site.buses.get bus).issued + 1⟩
  have own : done.2.buses.get bus =
      ((site.buses.get bus).attach stage listener (.int priority)).2 :=
    Arena.get_set_self _ _ _
  have others : ∀ other, other ≠ bus → done.2.buses.get other = site.buses.get other :=
    fun other ne => Arena.get_set_of_ne ne _ _
  have isDeed : done.1 = .attached bus new := rfl
  rw [isDeed]
  refine ⟨fun other => ?_, fun other => ?_, fun other subscription => ?_, ?_, ?_⟩
  · by_cases same : other = bus
    · rw [same, own]
      exact (accounts.ordered bus).attach stage listener _
    · rw [others other same]
      exact accounts.ordered other
  · by_cases same : other = bus
    · rw [same, own]
      intro subscription mem
      rw [Bus.attach_subscriptions, List.mem_append, List.mem_singleton] at mem
      rcases mem with mem | rfl
      · exact accounts.integral bus subscription mem
      · exact ⟨priority, rfl⟩
    · rw [others other same]
      exact accounts.integral other
  · rw [stands_concat, and_iff_left (by nofun), ← accounts.stands]
    by_cases same : other = bus
    · subst same
      rw [own, Bus.attach_subscriptions, List.mem_append, List.mem_singleton, or_comm,
        BusDeed.attached.injEq, and_iff_right rfl, eq_comm]
    · rw [others other same, BusDeed.attached.injEq, or_iff_right fun eq => same eq.1.symm]
  · intro handle mem
    rw [handlesIn_concat, List.mem_append] at mem
    by_cases same : handle.bus = bus
    · rw [same, own, Bus.attach_issued]
      rcases mem with mem | mem
      · have := accounts.issued handle mem
        rw [same] at this
        omega
      · cases List.mem_singleton.1 mem
        exact Nat.le_refl _
    · rw [others _ same]
      rcases mem with mem | mem
      · exact accounts.issued handle mem
      · cases List.mem_singleton.1 mem
        exact absurd rfl same
  · rw [handlesIn_concat, List.pairwise_append]
    refine ⟨accounts.ascends, List.pairwise_singleton _ _, fun old mem given isGiven same => ?_⟩
    cases List.mem_singleton.1 isGiven
    -- the number that is given out is above all that were issued
    have issued := accounts.issued old mem
    change old.bus = bus at same
    rw [same] at issued
    exact Nat.lt_succ_of_le issued

/-- **Detaching** keeps the accounts. -/
theorem Accounts.detach (accounts : Accounts deeds site) (bus : BusRef) (handle : Handle) :
    Accounts (deeds ++ [.detached bus handle]) (site.detach bus handle).2 := by
  have handles : handlesIn (deeds ++ [.detached bus handle]) = handlesIn deeds := by
    rw [handlesIn_concat]
    exact List.append_nil _
  by_cases isOwn : handle.bus = bus
  · let after := (site.detach bus handle).2
    have own : after.buses.get bus = (site.buses.get bus).remove handle.number := by
      show (Site.detach site bus handle).2.buses.get bus = _
      rw [Site.detach, if_pos isOwn]
      exact Arena.get_set_self _ _ _
    have others : ∀ other, other ≠ bus → after.buses.get other = site.buses.get other := by
      intro other ne
      show (Site.detach site bus handle).2.buses.get other = _
      rw [Site.detach, if_pos isOwn]
      exact Arena.get_set_of_ne ne _ _
    refine ⟨fun other => ?_, fun other => ?_, fun other subscription => ?_, ?_, ?_⟩
    · by_cases same : other = bus
      · rw [same, own]
        exact (accounts.ordered bus).remove _
      · rw [others other same]
        exact accounts.ordered other
    · by_cases same : other = bus
      · rw [same, own]
        exact (accounts.integral bus).remove _
      · rw [others other same]
        exact accounts.integral other
    · rw [stands_concat, or_iff_right (by nofun), ← accounts.stands]
      by_cases same : other = bus
      · subst same
        rw [own, (accounts.ordered other).remove_subscriptions, List.mem_filter, bne_iff_ne]
        refine and_congr_right fun _ => not_congr ?_
        rw [BusDeed.detached.injEq, and_iff_right rfl]
        constructor
        · rintro number
          rw [number, ← isOwn]
        · rintro rfl
          rfl
      · rw [others other same]
        refine (and_iff_left fun eq => ?_).symm
        cases eq
        exact same rfl
    · intro given mem
      rw [handles] at mem
      by_cases same : given.bus = bus
      · rw [same, own, ← same]
        exact accounts.issued given mem
      · rw [others _ same]
        exact accounts.issued given mem
    · rw [handles]
      exact accounts.ascends
  · -- a handle of another bus is none of this one
    rw [Site.detach, if_neg isOwn]
    refine ⟨accounts.ordered, accounts.integral, fun other subscription => ?_, ?_, ?_⟩
    · rw [stands_concat, or_iff_right (by nofun), ← accounts.stands]
      refine (and_iff_left fun eq => ?_).symm
      cases eq
      exact isOwn rfl
    · rw [handles]
      exact accounts.issued
    · rw [handles]
      exact accounts.ascends

/-- **Every call** keeps the accounts. -/
theorem Accounts.perform (accounts : Accounts deeds site) : ∀ call : BusCall,
    Accounts (deeds ++ [(site.perform call).1]) (site.perform call).2
  | .attach bus stage listener priority => accounts.attach bus stage listener priority
  | .detach bus handle => accounts.detach bus handle

/-- **All calls** keep the accounts. -/
theorem accounts_performAll (site : Site) (calls : List BusCall) :
    let done := Site.performAll { site with buses := .empty } calls
    Accounts done.1 done.2 :=
  List.foldlRecOn (motive := fun done : List BusDeed × Site => Accounts done.1 done.2) calls _
    (accounts_nil site) fun _ accounts call _ => accounts.perform call

/-! ## Detaching -/

/-- A handle is **detached** iff the subscription that it stands for is attached. -/
theorem Accounts.detach_eq_true_iff (accounts : Accounts deeds site) (bus : BusRef)
    (handle : Handle) : (site.detach bus handle).1 = true ↔ handle.bus = bus ∧
      ∃ subscription, Stands deeds bus subscription ∧ subscription.number = handle.number := by
  by_cases isOwn : handle.bus = bus
  · rw [Site.detach, if_pos isOwn, and_iff_right isOwn]
    refine Bus.holds_iff.trans (exists_congr fun subscription => ?_)
    rw [accounts.stands]
  · rw [Site.detach, if_neg isOwn]
    simp [isOwn]

/-- Detaching what is not attached changes nothing. -/
theorem detach_of_eq_false {bus : BusRef} {handle : Handle}
    (missing : (site.detach bus handle).1 = false) : (site.detach bus handle).2 = site := by
  by_cases isOwn : handle.bus = bus
  · rw [Site.detach, if_pos isOwn] at missing ⊢
    have same : site.buses.set bus ((site.buses.get bus).remove handle.number) = site.buses := by
      rw [Bus.remove_of_not_holds missing, Arena.set]
      congr 1
      funext other
      split
      · rename_i eq
        rw [eq]
      · rfl
    show { site with buses := site.buses.set bus ((site.buses.get bus).remove handle.number) } = _
    rw [same]
  · rw [Site.detach, if_neg isOwn]

/-- **Detaching** removes one subscription from its stage and leaves the relative order of all
others. -/
theorem Accounts.listeners_detach (accounts : Accounts deeds site) {bus : BusRef} {handle : Handle}
    (isOwn : handle.bus = bus) {other : BusRef} {stage : String}
    {order : List (Subscription Handler)}
    (strict : (site.buses.get other).RunsStrictly stage order) :
    ((site.detach bus handle).2.buses.get other).listeners stage =
      .ok (order.filter fun subscription =>
        other != bus || subscription.number != handle.number) := by
  rw [Site.detach, if_pos isOwn]
  by_cases same : other = bus
  · subst same
    show ((site.buses.set other _).get other).listeners stage = _
    rw [Arena.get_set_self, bne_self_eq_false]
    exact strict.remove (accounts.ordered other) handle.number
  · show ((site.buses.set bus _).get other).listeners stage = _
    rw [Arena.get_set_of_ne same, bne_iff_ne.2 same, strict.found]
    exact congrArg Except.ok (List.filter_eq_self.2 fun _ _ => rfl).symm

/-- **The state of buses.** After any calls that attach listeners and detach handles: of one bus,
each handle that was given out has a higher number than those before it, so none was given out
twice; the listeners of a stage are the subscriptions of the stage that stand, each once, those of
higher priorities first and those of one priority in the order of attaching; and a handle is
detached iff its subscription stands, which removes that one from the listeners and leaves the
others in their order, and otherwise nothing changes. -/
theorem listeners_of_calls (site : Site) (calls : List BusCall) :
    let done := Site.performAll { site with buses := .empty } calls
    ((handlesIn done.1).Pairwise fun a b => a.bus = b.bus → a.number < b.number) ∧
    (∀ bus stage, ∃ order, (done.2.buses.get bus).listeners stage = .ok order ∧
      (∀ subscription, subscription ∈ order ↔
        Stands done.1 bus subscription ∧ subscription.stage = stage) ∧
      order.Nodup ∧ order.Pairwise Subscription.RunsFirst) ∧
    ∀ bus handle,
      let detached := done.2.detach bus handle
      (detached.1 = true ↔ handle.bus = bus ∧
        ∃ subscription, Stands done.1 bus subscription ∧ subscription.number = handle.number) ∧
      (detached.1 = true → detached.2 = { done.2 with buses := detached.2.buses } ∧
        ∀ other stage, ∃ order, (done.2.buses.get other).listeners stage = .ok order ∧
          (detached.2.buses.get other).listeners stage = .ok (order.filter fun subscription =>
            other != bus || subscription.number != handle.number)) ∧
      (detached.1 = false → detached.2 = done.2) := by
  intro done
  have accounts : Accounts done.1 done.2 := accounts_performAll site calls
  have runs (bus : BusRef) (stage : String) :=
    Bus.exists_runsStrictly (accounts.ordered bus) (accounts.integral bus) stage
  refine ⟨accounts.ascends, fun bus stage => ?_, fun bus handle => ?_⟩
  · obtain ⟨order, strict⟩ := runs bus stage
    refine ⟨order, strict.found, fun subscription => ?_, strict.nodup, strict.sorted⟩
    rw [strict.same.mem_iff, Bus.onStage, List.mem_filter, accounts.stands, beq_iff_eq]
  · refine ⟨accounts.detach_eq_true_iff bus handle, fun found => ?_, detach_of_eq_false⟩
    obtain ⟨isOwn, -⟩ := (accounts.detach_eq_true_iff bus handle).1 found
    refine ⟨?_, fun other stage => ?_⟩
    · rw [Site.detach, if_pos isOwn]
    · obtain ⟨order, strict⟩ := runs other stage
      exact ⟨order, strict.found, accounts.listeners_detach isOwn strict⟩

end Site

end GuardedDispatch
