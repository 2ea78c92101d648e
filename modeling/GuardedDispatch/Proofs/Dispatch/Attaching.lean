import GuardedDispatch.Dispatch.Site
import Mathlib.Algebra.Order.Ring.Unbundled.Rat

/-! # What attached listeners run as

Listeners of one stage that share a priority run in the order in which they were attached
(`Bus.Lists`), since a bus numbers its subscriptions upwards. Attaching guards and strategies leaves
everything about them as it was but their handles (`Site.SameParts`). -/

namespace GuardedDispatch

namespace Bus

variable {η : Type}

/-- The subscriptions of a bus are **numbered upwards**, up to the last number given out. -/
structure Ordered (bus : Bus η) : Prop where
  ascends : bus.subscriptions.Pairwise fun a b => a.number < b.number
  issued : ∀ subscription ∈ bus.subscriptions, subscription.number ≤ bus.issued

/-- A bus that nothing is attached to is ordered. -/
theorem ordered_of_empty {bus : Bus η} (empty : bus.subscriptions = []) : bus.Ordered := by
  constructor <;> simp [empty]

/-- Attaching gives out a number above all others. -/
theorem Ordered.attach {bus : Bus η} (ordered : bus.Ordered) (stage : String) (listener : η)
    (priority : Value) : (bus.attach stage listener priority).2.Ordered where
  ascends := by
    rw [attach_subscriptions, List.pairwise_append]
    refine ⟨ordered.ascends, List.pairwise_singleton _ _, fun old mem new only => ?_⟩
    rw [List.mem_singleton.1 only]
    have := ordered.issued old mem
    show old.number < bus.issued + 1
    omega
  issued := by
    intro subscription mem
    rw [attach_subscriptions, List.mem_append, List.mem_singleton] at mem
    rw [attach_issued]
    rcases mem with mem | rfl
    · have := ordered.issued subscription mem
      omega
    · exact Nat.le_refl _

/-- Attaching adds to its own stage alone. -/
theorem onStage_attach (bus : Bus η) (stage other : String) (listener : η) (priority : Value) :
    (bus.attach stage listener priority).2.onStage other =
      bus.onStage other ++
        if stage = other then [⟨stage, listener, priority, bus.issued + 1⟩] else [] := by
  rw [onStage, attach_subscriptions, List.filter_append]
  by_cases same : stage = other <;> simp [onStage, same]

/-- A bus **lists** listeners of a stage, in order of attaching and all at one priority. -/
structure Lists (bus : Bus η) (stage : String) (extent : Decimal.Extent) (listeners : List η) :
    Prop where
  ordered : bus.Ordered
  attached : (bus.onStage stage).map (·.listener) = listeners
  level : ∀ subscription ∈ bus.onStage stage, subscription.priority.extent? = some extent

variable {bus : Bus η} {stage : String} {extent : Decimal.Extent} {attached : List η}

theorem lists_of_empty (empty : bus.subscriptions = []) : bus.Lists stage extent [] where
  ordered := ordered_of_empty empty
  attached := by simp [onStage, empty]
  level := by simp [onStage, empty]

/-- A further listener of the stage comes last. -/
theorem Lists.attach (lists : bus.Lists stage extent attached) (listener : η) {priority : Value}
    (level : priority.extent? = some extent) :
    (bus.attach stage listener priority).2.Lists stage extent (attached ++ [listener]) where
  ordered := lists.ordered.attach stage listener priority
  attached := by rw [onStage_attach, if_pos rfl, List.map_append, lists.attached]; rfl
  level := by
    intro subscription mem
    rw [onStage_attach, if_pos rfl, List.mem_append, List.mem_singleton] at mem
    rcases mem with mem | rfl
    · exact lists.level subscription mem
    · exact level

/-- Listeners of other stages change nothing. -/
theorem Lists.attach_other (lists : bus.Lists stage extent attached) {other : String}
    (ne : other ≠ stage) (listener : η) (priority : Value) :
    (bus.attach other listener priority).2.Lists stage extent attached where
  ordered := lists.ordered.attach other listener priority
  attached := by rw [onStage_attach, if_neg ne, List.append_nil, lists.attached]
  level := by
    rw [onStage_attach, if_neg ne, List.append_nil]
    exact lists.level

/-- Listeners that are attached in the order in which they run are listed so. -/
theorem listeners_of_pairwise {ranked : List (Subscription η × Decimal.Extent)}
    (ranks : (bus.onStage stage).mapM rank? = some ranked)
    (sorted : ranked.Pairwise fun a b => runsBefore a b = true) :
    bus.listeners stage = .ok (ranked.map (·.1)) := by
  rw [Bus.listeners, ranks]
  dsimp only
  rw [List.mergeSort_of_pairwise sorted]

/-- **Listeners of one priority run in the order in which they were attached.** -/
theorem Lists.listeners (lists : bus.Lists stage extent attached) :
    bus.listeners stage = .ok (bus.onStage stage) := by
  -- every subscription has the rank of the one level
  have ranked : (bus.onStage stage).mapM rank? =
      some ((bus.onStage stage).map fun subscription => (subscription, extent)) := by
    have level := lists.level
    generalize bus.onStage stage = subscriptions at level
    induction subscriptions with
    | nil => rfl
    | cons subscription rest ih =>
      rw [List.mapM_cons, rank?, level subscription List.mem_cons_self,
        ih fun other mem => level other (List.mem_cons_of_mem _ mem)]
      rfl
  -- between equals the numbers decide, which ascend already
  have sorted : ((bus.onStage stage).map fun subscription =>
      (subscription, extent)).Pairwise fun a b => runsBefore a b = true := by
    rw [List.pairwise_map]
    refine (lists.ordered.ascends.filter _).imp fun {a b} lt => ?_
    simp [runsBefore, Nat.le_of_lt lt]
  rw [listeners_of_pairwise ranked sorted, List.map_map]
  show Except.ok ((bus.onStage stage).map id) = _
  rw [List.map_id]

/-! ## The order of listeners -/

/-- Of two extents that are not the same, one lies below the other. -/
theorem below_or_below_or_eq (a b : Decimal.Extent) :
    a.below b = true ∨ b.below a = true ∨ a = b := by
  cases a with
  | number p =>
    cases b with
    | number q =>
      rcases lt_trichotomy p q with lt | eq | gt
      · exact .inl (decide_eq_true lt)
      · exact .inr (.inr (congrArg _ eq))
      · exact .inr (.inl (decide_eq_true gt))
    | bottom => exact .inr (.inl rfl)
    | top => exact .inl rfl
  | bottom => cases b <;> simp [Decimal.Extent.below]
  | top => cases b <;> simp [Decimal.Extent.below]

theorem below_trans {a b c : Decimal.Extent} (first : a.below b = true)
    (second : b.below c = true) : a.below c = true := by
  cases a <;> cases b <;> cases c <;> simp [Decimal.Extent.below] at first second ⊢
  exact lt_trans first second

/-- One subscription runs before another if its priority is higher, or if it is the same and the
number is not. -/
theorem runsBefore_iff {a b : Subscription η × Decimal.Extent} :
    runsBefore a b = true ↔
      b.2.below a.2 = true ∨ a.2 = b.2 ∧ a.1.number ≤ b.1.number := by
  rw [runsBefore, Bool.or_eq_true, Bool.and_eq_true, Bool.not_eq_true', decide_eq_true_iff]
  constructor
  · rintro (higher | ⟨notLower, number⟩)
    · exact .inl higher
    · rcases below_or_below_or_eq a.2 b.2 with lower | higher | same
      · rw [lower] at notLower
        cases notLower
      · exact .inl higher
      · exact .inr ⟨same, number⟩
  · rintro (higher | ⟨same, number⟩)
    · exact .inl higher
    · rw [same]
      exact .inr ⟨Decimal.Extent.below_self _, number⟩

theorem runsBefore_trans (a b c : Subscription η × Decimal.Extent)
    (first : runsBefore a b = true) (second : runsBefore b c = true) :
    runsBefore a c = true := by
  rw [runsBefore_iff] at *
  rcases first with higher | ⟨same, number⟩
  · rcases second with higher' | ⟨same', -⟩
    · exact .inl (below_trans higher' higher)
    · exact .inl (same' ▸ higher)
  · rcases second with higher' | ⟨same', number'⟩
    · exact .inl (same ▸ higher')
    · exact .inr ⟨same.trans same', number.trans number'⟩

theorem runsBefore_total (a b : Subscription η × Decimal.Extent) :
    (runsBefore a b || runsBefore b a) = true := by
  rw [Bool.or_eq_true, runsBefore_iff, runsBefore_iff]
  rcases below_or_below_or_eq a.2 b.2 with lower | higher | same
  · exact .inr (.inl lower)
  · exact .inl (.inl higher)
  · rcases Nat.le_total a.1.number b.1.number with number | number
    · exact .inl (.inr ⟨same, number⟩)
    · exact .inr (.inr ⟨same.symm, number⟩)

/-- Subscriptions whose priorities are numbers are ranked by these. -/
theorem exists_ranked : ∀ {subscriptions : List (Subscription η)},
    (∀ subscription ∈ subscriptions, subscription.priority.extent?.isSome = true) →
    ∃ ranked, subscriptions.mapM rank? = some ranked ∧ ranked.map (·.1) = subscriptions ∧
      ∀ rank ∈ ranked, rank.1.priority.extent? = some rank.2
  | [], _ => ⟨[], rfl, rfl, by simp⟩
  | subscription :: rest, numbers => by
    obtain ⟨extent, isExtent⟩ := Option.isSome_iff_exists.1 (numbers _ List.mem_cons_self)
    obtain ⟨ranked, others, same, ranks⟩ :=
      exists_ranked fun other mem => numbers other (List.mem_cons_of_mem _ mem)
    refine ⟨(subscription, extent) :: ranked, ?_, ?_, List.forall_mem_cons.2 ⟨isExtent, ranks⟩⟩
    · rw [List.mapM_cons, rank?, isExtent, others]
      rfl
    · rw [List.map_cons, same]

/-- What **runs in order**: all subscriptions of a stage, those of higher priorities first, and
those of one priority in the order of their numbers. -/
structure RunsInOrder (bus : Bus η) (stage : String) (order : List (Subscription η)) : Prop where
  found : bus.listeners stage = .ok order
  same : order.Perm (bus.onStage stage)
  sorted : order.Pairwise fun a b => ∀ first second, a.priority.extent? = some first →
    b.priority.extent? = some second →
    second.below first = true ∨ first = second ∧ a.number ≤ b.number

/-- **Subscriptions whose priorities are numbers run in order.** -/
theorem exists_runsInOrder {bus : Bus η} {stage : String}
    (numbers : ∀ subscription ∈ bus.onStage stage, subscription.priority.extent?.isSome = true) :
    ∃ order, bus.RunsInOrder stage order := by
  obtain ⟨ranked, isRanked, same, ranks⟩ := exists_ranked numbers
  have perm := List.mergeSort_perm ranked runsBefore
  refine ⟨(ranked.mergeSort runsBefore).map (·.1), ?_, ?_, ?_⟩
  · rw [Bus.listeners, isRanked]
  · rw [← same]
    exact perm.map _
  · rw [List.pairwise_map]
    have sorted := List.pairwise_mergeSort runsBefore_trans runsBefore_total ranked
    refine sorted.imp_of_mem fun {a b} memA memB before first second isFirst isSecond => ?_
    cases (ranks a (perm.mem_iff.1 memA)).symm.trans isFirst
    cases (ranks b (perm.mem_iff.1 memB)).symm.trans isSecond
    exact runsBefore_iff.1 before

/-- Where listeners run at all, their priorities are numbers. -/
theorem isSome_of_listeners {bus : Bus η} {stage : String} {order : List (Subscription η)}
    (found : bus.listeners stage = .ok order) :
    ∀ subscription ∈ bus.onStage stage, subscription.priority.extent?.isSome = true := by
  have ranked : ∀ {subscriptions : List (Subscription η)} {ranks},
      subscriptions.mapM rank? = some ranks →
      ∀ subscription ∈ subscriptions, subscription.priority.extent?.isSome = true := by
    intro subscriptions
    induction subscriptions with
    | nil => simp
    | cons first rest ih =>
      intro ranks isRanked
      rw [List.mapM_cons] at isRanked
      obtain ⟨rank, isRank, isRanked⟩ := Option.bind_eq_some_iff.1 isRanked
      obtain ⟨others, areRanked, -⟩ := Option.bind_eq_some_iff.1 isRanked
      obtain ⟨extent, isExtent, -⟩ := Option.map_eq_some_iff.1 isRank
      rw [List.forall_mem_cons]
      exact ⟨Option.isSome_iff_exists.2 ⟨extent, isExtent⟩, ih areRanked⟩
  unfold listeners at found
  cases isRanked : (bus.onStage stage).mapM rank? with
  | none => rw [isRanked] at found; cases found
  | some ranks => exact ranked isRanked

/-- Two that run no later than each other have one priority and one number. -/
theorem runsBefore_antisymm {a b : Subscription η × Decimal.Extent}
    (first : runsBefore a b = true) (second : runsBefore b a = true) :
    a.2 = b.2 ∧ a.1.number = b.1.number := by
  rw [runsBefore_iff] at first second
  rcases first with higher | ⟨same, number⟩
  · rcases second with lower | ⟨same, -⟩
    · have absurd := below_trans higher lower
      simp at absurd
    · rw [same] at higher
      simp at higher
  · rcases second with lower | ⟨-, number'⟩
    · rw [same] at lower
      simp at lower
    · exact ⟨same, Nat.le_antisymm number number'⟩

/-- On an ordered bus, a number **tells** a subscription from all others. -/
theorem Ordered.eq_of_number {bus : Bus η} (ordered : bus.Ordered) {a b : Subscription η}
    (memA : a ∈ bus.subscriptions) (memB : b ∈ bus.subscriptions) (same : a.number = b.number) :
    a = b := by
  have ascends := ordered.ascends
  generalize bus.subscriptions = subscriptions at memA memB ascends
  induction ascends with
  | nil => cases memA
  | cons above _ ih =>
    rcases List.mem_cons.1 memA with rfl | memA'
    · rcases List.mem_cons.1 memB with rfl | memB'
      · rfl
      · have := above b memB'
        omega
    · rcases List.mem_cons.1 memB with rfl | memB'
      · have := above a memA'
        omega
      · exact ih memA' memB'

/-- **What is left of a bus** runs in the order in which it ran before. -/
theorem Ordered.listeners_filter {bus after : Bus η} (ordered : bus.Ordered)
    {keep : Subscription η → Bool} (kept : after.subscriptions = bus.subscriptions.filter keep)
    {stage : String} {order : List (Subscription η)} (found : bus.listeners stage = .ok order) :
    after.listeners stage = .ok (order.filter keep) := by
  have numbers := isSome_of_listeners found
  obtain ⟨same, runs⟩ := exists_runsInOrder numbers
  obtain rfl : same = order := Except.ok.inj (runs.found.symm.trans found)
  -- the stage is filtered like the whole bus
  have stages : after.onStage stage = (bus.onStage stage).filter keep := by
    rw [onStage, kept, onStage, List.filter_filter, List.filter_filter]
    exact List.filter_congr fun _ _ => Bool.and_comm _ _
  have numbers' : ∀ subscription ∈ after.onStage stage,
      subscription.priority.extent?.isSome = true := by
    intro subscription mem
    rw [stages] at mem
    exact numbers subscription (List.mem_filter.1 mem).1
  obtain ⟨rest, runs'⟩ := exists_runsInOrder numbers'
  have perm : rest.Perm (same.filter keep) := by
    have perm := runs'.same
    rw [stages] at perm
    exact perm.trans (runs.same.filter keep).symm
  -- no two of them run no later than each other, so there is one order only
  have eq : rest = same.filter keep := by
    refine perm.eq_of_pairwise (fun a b memA memB before before' => ?_) runs'.sorted
      (runs.sorted.filter keep)
    have isA := runs.same.mem_iff.1 (List.mem_filter.1 (perm.mem_iff.1 memA)).1
    have isB := runs.same.mem_iff.1 (List.mem_filter.1 memB).1
    obtain ⟨first, isFirst⟩ := Option.isSome_iff_exists.1 (numbers a isA)
    obtain ⟨second, isSecond⟩ := Option.isSome_iff_exists.1 (numbers b isB)
    have ab : runsBefore (a, first) (b, second) = true :=
      runsBefore_iff.2 (before first second isFirst isSecond)
    have ba : runsBefore (b, second) (a, first) = true :=
      runsBefore_iff.2 (before' second first isSecond isFirst)
    have number := (runsBefore_antisymm ab ba).2
    exact ordered.eq_of_number (List.mem_filter.1 isA).1 (List.mem_filter.1 isB).1 number
  rw [← eq]
  exact runs'.found

end Bus

namespace Site

/-- Two sites with the **same parts**: buses, handles and names aside, they differ in nothing. -/
structure SameParts (before after : Site) : Prop where
  guard : ∀ ref, (after.guards.get ref).guard = (before.guards.get ref).guard
  authority : ∀ ref, (after.guards.get ref).authority = (before.guards.get ref).authority
  strategy : ∀ ref, (after.strategies.get ref).strategy = (before.strategies.get ref).strategy
  extras : ∀ ref, (after.strategies.get ref).extras = (before.strategies.get ref).extras
  authorities : after.authorities = before.authorities
  providers : after.providers = before.providers
  context : after.context = before.context

theorem SameParts.refl (site : Site) : SameParts site site := by
  constructor <;> intros <;> rfl

theorem SameParts.trans {first second third : Site} (before : SameParts first second)
    (after : SameParts second third) : SameParts first third where
  guard ref := (after.guard ref).trans (before.guard ref)
  authority ref := (after.authority ref).trans (before.authority ref)
  strategy ref := (after.strategy ref).trans (before.strategy ref)
  extras ref := (after.extras ref).trans (before.extras ref)
  authorities := after.authorities.trans before.authorities
  providers := after.providers.trans before.providers
  context := after.context.trans before.context

/-- Attaching a guard leaves all parts the same. -/
theorem sameParts_attachGuard (site : Site) (ref : GuardRef) (bus : BusRef) (priority : Value) :
    SameParts site (site.attachGuard ref bus priority) where
  guard other := by
    by_cases same : other = ref <;> simp [attachGuard, attach, Arena.set, same]
  authority other := by
    by_cases same : other = ref <;> simp [attachGuard, attach, Arena.set, same]
  strategy _ := rfl
  extras _ := rfl
  authorities := rfl
  providers := rfl
  context := rfl

/-- Attaching a strategy leaves all parts the same. -/
theorem sameParts_attachStrategy (site : Site) (ref : StrategyRef) (bus : BusRef) :
    SameParts site (site.attachStrategy ref bus) where
  guard _ := rfl
  authority _ := rfl
  strategy other := by
    by_cases same : other = ref <;> simp [attachStrategy, attach, Arena.set, same]
  extras other := by
    by_cases same : other = ref <;> simp [attachStrategy, attach, Arena.set, same]
  authorities := rfl
  providers := rfl
  context := rfl

/-- A guard that is attached listens on the route stage. -/
theorem bus_attachGuard (site : Site) (ref : GuardRef) (bus : BusRef) (priority : Value) :
    (site.attachGuard ref bus priority).buses.get bus =
      ((site.buses.get bus).attach Stage.route.name (.guard ref) priority).2 :=
  Arena.get_set_self _ _ _

/-- A strategy that is attached listens on the error stage. -/
theorem bus_attachStrategy (site : Site) (ref : StrategyRef) (bus : BusRef) :
    (site.attachStrategy ref bus).buses.get bus =
      ((site.buses.get bus).attach Stage.dispatchError.name (.strategy ref)
        (priorityOf (site.strategies.get ref))).2 :=
  Arena.get_set_self _ _ _

end Site

end GuardedDispatch
