import GuardedDispatch.Dispatch.Script
import GuardedDispatch.Proofs.Guard.Checking

/-! # What guards judge

A guard of controllers is concerned with events that have a controller, and a guard of routes with
those whose route has a name (`Event.Concerns`). Among guards of both kinds, one after the other,
the first of each kind decides about an event, and those behind it skip the event (`firstsOf`).

* **`mem_firstsOf_iff`**: a guard is one of the first iff its kind is concerned and undecided, and
  no guard of its kind stands before it. -/

namespace GuardedDispatch

/-! ## What guards judge -/

namespace Event

/-- What the matched route of an event **concerns**: guards of controllers if it has a controller,
and guards of routes if it has a name. -/
def Concerns (event : Event) : GuardKind → Prop
  | .controller => ∃ routeMatch, event.routeMatch = some routeMatch ∧
    (lookupField "controller" routeMatch.params).getD .null ≠ .null
  | .route => ∃ routeMatch, event.routeMatch = some routeMatch ∧ routeMatch.name ≠ .null

/-- An event of which every resource that guards would ask for can be **named**. -/
def Named (event : Event) : Prop :=
  ∀ kind target, GuardKind.target? kind event = some target →
    ∃ names, target.candidates = .ok names

/-- A **fresh** HTTP event with a route on a bus: it has no error, and no guard has decided. -/
structure Fresh (event : Event) (bus : BusRef) : Prop where
  http : ∃ request method, event.request = some (.http request) ∧ request.method = .ofWord method
  routed : event.routeMatch.isSome = true
  bound : event.bus = some bus
  sound : event.isError = false
  unchecked : ∀ guard, event.outcome guard = .unchecked

end Event

namespace GuardKind

/-- A guard **accepts** an event if one of the resources it asks for is allowed. -/
def Accepts (kind : GuardKind) (event : Event) (allows : Word → Prop) : Prop :=
  ∃ target names, kind.target? event = some target ∧ target.candidates = .ok names ∧
    ∃ resource ∈ names, allows resource

/-- A guard has a target iff the event concerns it. -/
theorem isSome_target?_iff {kind : GuardKind} {event : Event} :
    (kind.target? event).isSome = true ↔ event.Concerns kind := by
  unfold target?
  cases matched : event.routeMatch with
  | none => cases kind <;> simp [Event.Concerns, matched]
  | some routeMatch =>
    cases kind with
    | controller =>
      simp only [Event.Concerns, matched, Option.some.injEq, exists_eq_left']
      show (controllerTarget routeMatch _).isSome = true ↔ _
      unfold controllerTarget
      by_cases absent : (lookupField "controller" routeMatch.params).getD .null = .null
      · simp [absent, Value.isNull]
      · have present : ¬ ((lookupField "controller" routeMatch.params).getD .null).isNull = true :=
          fun null => absent (Value.isNull_iff.1 null)
        simp only [if_neg present, Option.isSome_some, absent, not_false_eq_true, ne_eq]
    | route =>
      simp only [Event.Concerns, matched, Option.some.injEq, exists_eq_left']
      show (routeTarget routeMatch).isSome = true ↔ _
      unfold routeTarget
      by_cases absent : routeMatch.name = .null
      · simp [absent, Value.isNull]
      · have present : ¬ routeMatch.name.isNull = true :=
          fun null => absent (Value.isNull_iff.1 null)
        simp only [if_neg present, Option.isSome_some, absent, not_false_eq_true, ne_eq]

/-- If the candidates of a fresh event can be named, so can the subject of its denial. -/
theorem exists_subject {kind : GuardKind} {event : Event} {target : Target} {names : List Word}
    {bus : BusRef} (fresh : event.Fresh bus) (found : kind.target? event = some target)
    (candidates : target.candidates = .ok names) : ∃ subject, target.subject = .ok subject := by
  obtain ⟨request, method, http, isMethod⟩ := fresh.http
  obtain ⟨routeMatch, -, found⟩ := Option.bind_eq_some_iff.1 found
  have methodOf : methodOf event = .ofWord method := by
    rw [GuardKind.methodOf, http]
    exact isMethod
  cases kind with
  | controller =>
    dsimp only at found
    rw [methodOf, controllerTarget] at found
    split at found
    · cases found
    · cases found
      obtain ⟨controller, printed, candidates⟩ := exists_ok_of_bind candidates
      obtain ⟨ofAction, named, -⟩ := exists_ok_of_bind candidates
      dsimp only
      rw [printed]
      -- the subject is named after the action, which was named before, or after the method
      by_cases truthy : ((lookupField "action" routeMatch.params).getD .null).truthy = true
      · rw [segmentResources, if_pos truthy] at named
        obtain ⟨segment, isSegment, -⟩ := exists_ok_of_bind named
        exact ⟨_, by rw [if_pos truthy, isSegment]; rfl⟩
      · have isSegment := segment?_ofWord? (some method)
        rw [Value.ofWord?_some] at isSegment
        exact ⟨_, by rw [if_neg truthy, isSegment]; rfl⟩
  | route =>
    dsimp only [routeTarget] at found
    split at found
    · cases found
    · cases found
      obtain ⟨name, printed, -⟩ := exists_ok_of_bind candidates
      exact ⟨name, printed⟩

/-- A guard **applies** to a fresh event on its way, as long as it has not decided. -/
theorem applies_iff_of_fresh {kind : GuardKind} {before event : Event} {bus : BusRef}
    (fresh : before.Fresh bus)
    (same : ∃ name stopped outcomes, event = { before with name, stopped, outcomes }) :
    kind.applies event = true ↔ event.outcome kind.id = .unchecked := by
  obtain ⟨name, stopped, outcomes, eq⟩ := same
  obtain ⟨request, method, http, -⟩ := fresh.http
  have isHttp : event.request = some (.http request) := by rw [eq]; exact http
  have routed : event.routeMatch.isSome = true := by rw [eq]; exact fresh.routed
  have sound : event.isError = false := by rw [eq]; exact fresh.sound
  rw [applies, isHttp, routed, sound]
  exact beq_iff_eq

/-- A guard without a target has nothing to say. -/
theorem check_of_target_none {kind : GuardKind} {event : Event}
    (missing : kind.target? event = none) (oracle : Option Oracle) :
    kind.check oracle event = pure .skip := by
  rw [check, missing]
  split <;> rfl

end GuardKind

/-! ## Who judges -/

/-- The **first** guards of their kinds, among the kinds that are concerned and not yet decided. -/
def firstsOf (kindOf : GuardRef → GuardKind) (concerned : GuardKind → Bool) :
    List GuardKind → List GuardRef → List GuardRef
  | _, [] => []
  | decided, ref :: rest =>
    if concerned (kindOf ref) && !decided.contains (kindOf ref) then
      ref :: firstsOf kindOf concerned (decided ++ [kindOf ref]) rest
    else firstsOf kindOf concerned decided rest

section

variable {kindOf : GuardRef → GuardKind} {concerned : GuardKind → Bool}

theorem firstsOf_of_judges {decided : List GuardKind} {ref : GuardRef}
    (concerns : concerned (kindOf ref) = true) (undecided : kindOf ref ∉ decided)
    (rest : List GuardRef) : firstsOf kindOf concerned decided (ref :: rest) =
      ref :: firstsOf kindOf concerned (decided ++ [kindOf ref]) rest := by
  simp [firstsOf, concerns, undecided]

theorem firstsOf_of_skips {decided : List GuardKind} {ref : GuardRef}
    (skips : concerned (kindOf ref) = false ∨ kindOf ref ∈ decided)
    (rest : List GuardRef) : firstsOf kindOf concerned decided (ref :: rest) =
      firstsOf kindOf concerned decided rest := by
  rcases skips with other | done
  · simp [firstsOf, other]
  · simp [firstsOf, done]

/-- A guard is the one to judge, or it skips the event. -/
theorem judges_or_skips (concerned : GuardKind → Bool) (decided : List GuardKind)
    (kind : GuardKind) :
    (concerned kind = true ∧ kind ∉ decided) ∨ (concerned kind = false ∨ kind ∈ decided) := by
  by_cases done : kind ∈ decided
  · exact .inr (.inr done)
  · cases concerns : concerned kind with
    | true => exact .inl ⟨rfl, done⟩
    | false => exact .inr (.inl rfl)

/-- The first guards stand in the order of running. -/
theorem firstsOf_sublist : ∀ (decided : List GuardKind) (refs : List GuardRef),
    (firstsOf kindOf concerned decided refs).Sublist refs
  | _, [] => .slnil
  | decided, ref :: rest => by
    unfold firstsOf
    split
    · exact (firstsOf_sublist _ rest).cons_cons ref
    · exact (firstsOf_sublist _ rest).cons ref

/-- **A guard is one of the first guards** iff its kind is concerned and undecided, and no guard of
its kind runs before it. -/
theorem mem_firstsOf_iff : ∀ {decided : List GuardKind} {refs : List GuardRef} {ref : GuardRef},
    ref ∈ firstsOf kindOf concerned decided refs ↔
      concerned (kindOf ref) = true ∧ kindOf ref ∉ decided ∧
        refs.find? (kindOf · == kindOf ref) = some ref
  | _, [], _ => by simp [firstsOf]
  | decided, head :: rest, ref => by
    by_cases same : kindOf head = kindOf ref
    · -- the head is the first of its kind, and decides it
      have hit : (head :: rest).find? (kindOf · == kindOf ref) = some head :=
        List.find?_cons_of_pos (beq_iff_eq.2 same)
      rw [hit, Option.some_inj]
      rcases judges_or_skips concerned decided (kindOf head) with judges | skips
      · rw [firstsOf_of_judges judges.1 judges.2, List.mem_cons, mem_firstsOf_iff, ← same]
        simp [judges.1, judges.2, eq_comm]
      · rw [firstsOf_of_skips skips, mem_firstsOf_iff, ← same]
        rcases skips with other | done
        · simp [other]
        · simp [done]
    · have miss : (head :: rest).find? (kindOf · == kindOf ref) =
          rest.find? (kindOf · == kindOf ref) :=
        List.find?_cons_of_neg (by simpa using same)
      rw [miss]
      rcases judges_or_skips concerned decided (kindOf head) with judges | skips
      · rw [firstsOf_of_judges judges.1 judges.2, List.mem_cons, mem_firstsOf_iff]
        have ne : ref ≠ head := fun eq => same (congrArg kindOf eq.symm)
        simp [ne, Ne.symm same]
      · rw [firstsOf_of_skips skips, mem_firstsOf_iff]

/-- The first guards are of different kinds. -/
theorem nodup_firstsOf : ∀ (decided : List GuardKind) (refs : List GuardRef),
    ((firstsOf kindOf concerned decided refs).map kindOf).Nodup
  | _, [] => List.nodup_nil
  | decided, ref :: rest => by
    unfold firstsOf
    split
    · refine List.nodup_cons.2 ⟨fun mem => ?_, nodup_firstsOf _ rest⟩
      obtain ⟨other, isFirst, same⟩ := List.mem_map.1 mem
      exact (mem_firstsOf_iff.1 isFirst).2.1 (by simp [same])
    · exact nodup_firstsOf _ rest

end

end GuardedDispatch
