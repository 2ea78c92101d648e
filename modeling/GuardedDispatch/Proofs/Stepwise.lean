import GuardedDispatch.Failure

/-! # Steps that may fail

Asking, building a service, running listeners and working on a session are steps of one kind: they
may fail, and keep the state that they reached either way. `settle` gives the result of such steps
on a state together with the state they leave, and the `settle_*` equations read them one at a
time.

* **`Keeps P steps`**: whatever state with the property `P` the steps start from, they leave one
  with that property, also when they fail.
* **`Ensures steps Q`**: what the steps result in has the property `Q`, if they do not fail.
* **`Leads P steps Q R`**: from a state with `P` the steps lead to a result and a state with `Q`, or
  fail and leave a state with `R`. -/

namespace GuardedDispatch

variable {σ α β : Type}

/-- A result behind another is there only if the first one was. -/
theorem exists_ok_of_bind {ε : Type} {first : Except ε α} {next : α → Except ε β} {value : β}
    (ok : (first >>= next) = .ok value) :
    ∃ middle, first = .ok middle ∧ next middle = .ok value := by
  cases first with
  | error failure => cases ok
  | ok middle => exact ⟨middle, rfl, ok⟩

/-- A result is changed only if it is there. -/
theorem exists_ok_of_map {ε : Type} {first : Except ε α} {change : α → β} {value : β}
    (ok : first.map change = .ok value) : ∃ middle, first = .ok middle ∧ change middle = value := by
  cases first with
  | error failure => cases ok
  | ok middle => exact ⟨middle, rfl, Except.ok.inj ok⟩

/-- A result whose failure is translated is there iff it was there before. -/
theorem mapError_eq_ok_iff {ε δ : Type} {translate : ε → δ} {result : Except ε α} {value : α} :
    result.mapError translate = .ok value ↔ result = .ok value := by
  cases result with
  | error failure =>
    constructor
    · rintro ⟨⟩
    · rintro ⟨⟩
  | ok found => exact ⟨fun ok => congrArg Except.ok (Except.ok.inj ok), fun ok => ok ▸ rfl⟩

/-- A result behind one whose failure is translated is there iff that one was. -/
theorem mapError_bind_eq_ok_iff {ε δ : Type} {translate : ε → δ} {first : Except ε α}
    {next : α → Except δ β} {value : β} :
    (first.mapError translate >>= next) = .ok value ↔
      ∃ middle, first = .ok middle ∧ next middle = .ok value := by
  constructor
  · intro ok
    obtain ⟨middle, found, ok⟩ := exists_ok_of_bind ok
    exact ⟨middle, mapError_eq_ok_iff.1 found, ok⟩
  · rintro ⟨middle, rfl, ok⟩
    exact ok

/-- The **result** of steps on a state, and the state they leave. -/
def settle (steps : ExceptT Failure (StateM σ) α) (state : σ) : Except Failure α × σ :=
  Id.run ((ExceptT.run steps).run state)

@[simp] theorem settle_pure (value : α) (state : σ) :
    settle (pure value) state = (.ok value, state) := rfl

@[simp] theorem settle_liftM (result : Except Failure α) (state : σ) :
    settle (liftM result) state = (result, state) := rfl

@[simp] theorem settle_get (state : σ) :
    settle (get : ExceptT Failure (StateM σ) σ) state = (.ok state, state) := rfl

/-- Steps go on from the state that the first ones left, **unless these failed**. -/
theorem settle_bind (steps : ExceptT Failure (StateM σ) α)
    (next : α → ExceptT Failure (StateM σ) β) (state : σ) :
    settle (steps >>= next) state =
      match settle steps state with
      | (.ok value, after) => settle (next value) after
      | (.error failure, after) => (.error failure, after) := by
  show (ExceptT.bindCont next (settle steps state).1).run (settle steps state).2 = _
  rcases settle steps state with ⟨_ | value, after⟩ <;> rfl

/-- Steps behind steps that succeeded. -/
theorem settle_bind_of_ok {steps : ExceptT Failure (StateM σ) α} {state after : σ} {value : α}
    (ok : settle steps state = (.ok value, after)) (next : α → ExceptT Failure (StateM σ) β) :
    settle (steps >>= next) state = settle (next value) after := by
  rw [settle_bind, ok]

/-- Steps behind steps that failed are not taken. -/
theorem settle_bind_of_error {steps : ExceptT Failure (StateM σ) α} {state after : σ}
    {failure : Failure} (failed : settle steps state = (.error failure, after))
    (next : α → ExceptT Failure (StateM σ) β) :
    settle (steps >>= next) state = (.error failure, after) := by
  rw [settle_bind, failed]

/-- If steps one after the other have returned, the first ones have returned what the others
started from. -/
theorem exists_of_settle_bind {steps : ExceptT Failure (StateM σ) α}
    {next : α → ExceptT Failure (StateM σ) β} {state after : σ} {result : β}
    (returns : settle (steps >>= next) state = (.ok result, after)) :
    ∃ value middle, settle steps state = (.ok value, middle) ∧
      settle (next value) middle = (.ok result, after) := by
  rw [settle_bind] at returns
  rcases settled : settle steps state with ⟨failure | value, middle⟩
  · rw [settled] at returns
    cases returns
  · rw [settled] at returns
    exact ⟨value, middle, rfl, returns⟩

/-- Steps before a fixed result leave what they leave without it, and fail as they do. -/
theorem settle_return (steps : ExceptT Failure (StateM σ) α) (value : β) (state : σ) :
    settle (steps >>= fun _ => pure value) state =
      ((settle steps state).1.map fun _ => value, (settle steps state).2) := by
  rw [settle_bind]
  rcases settle steps state with ⟨_ | inner, after⟩ <;> rfl

/-- If a fixed result is there, the steps before it have returned. -/
theorem exists_of_settle_return {steps : ExceptT Failure (StateM σ) α} {value result : β}
    {state after : σ}
    (returns : settle (steps >>= fun _ => pure value) state = (.ok result, after)) :
    ∃ inner, settle steps state = (.ok inner, after) := by
  rw [settle_return] at returns
  rcases settled : settle steps state with ⟨failure | inner, left⟩
  · rw [settled] at returns
    cases returns
  · rw [settled] at returns
    cases returns
    exact ⟨inner, rfl⟩

/-- **Going through a list fails** at one of its items, which finds what those before it left. -/
theorem exists_of_settle_forM_error {steps : α → ExceptT Failure (StateM σ) PUnit}
    {items : List α} {state after : σ} {failure : Failure}
    (failed : settle (items.forM steps) state = (.error failure, after)) :
    ∃ before item behind middle, items = before ++ item :: behind ∧
      settle (before.forM steps) state = (.ok ⟨⟩, middle) ∧
      settle (steps item) middle = (.error failure, after) := by
  induction items generalizing state with
  | nil => cases failed
  | cons item rest ih =>
    have failed : settle (steps item >>= fun _ => rest.forM steps) state =
        (.error failure, after) := failed
    rw [settle_bind] at failed
    rcases first : settle (steps item) state with ⟨other | ⟨⟩, between⟩
    · rw [first] at failed
      cases failed
      exact ⟨[], item, rest, state, rfl, rfl, first⟩
    · rw [first] at failed
      obtain ⟨before, found, behind, middle, rfl, done, fails⟩ := ih failed
      refine ⟨item :: before, found, behind, middle, rfl, ?_, fails⟩
      exact (settle_bind_of_ok first fun _ => before.forM steps).trans done

/-! ## Properties that steps keep -/

/-- Steps that **keep** a property of the state, also when they fail. -/
def Keeps (P : σ → Prop) (steps : ExceptT Failure (StateM σ) α) : Prop :=
  ∀ state, P state → P (settle steps state).2

variable {P : σ → Prop}

theorem keeps_pure (value : α) : Keeps P (pure value) := fun _ holds => holds

theorem keeps_throw (failure : Failure) :
    Keeps P (throw failure : ExceptT Failure (StateM σ) α) := fun _ holds => holds

theorem keeps_liftM (result : Except Failure α) :
    Keeps P (liftM result : ExceptT Failure (StateM σ) α) := fun _ holds => holds

/-- A change keeps what it keeps. -/
theorem keeps_modify {change : σ → σ} (kept : ∀ state, P state → P (change state)) :
    Keeps P (modify change : ExceptT Failure (StateM σ) PUnit) := kept

/-- Steps that keep a property do so one after the other. -/
theorem keeps_bind {steps : ExceptT Failure (StateM σ) α}
    {next : α → ExceptT Failure (StateM σ) β} (first : Keeps P steps)
    (second : ∀ value, Keeps P (next value)) : Keeps P (steps >>= next) := by
  intro state holds
  have middle := first state holds
  rw [settle_bind]
  -- only the state that the first steps left matters, not how they came to it
  generalize settle steps state = settled at middle ⊢
  obtain ⟨_ | value, after⟩ := settled
  · exact middle
  · exact second value after middle

/-- Going through a list keeps what each step keeps. -/
theorem keeps_forM {steps : α → ExceptT Failure (StateM σ) PUnit} :
    ∀ {items : List α}, (∀ item ∈ items, Keeps P (steps item)) → Keeps P (items.forM steps)
  | [], _ => keeps_pure _
  | item :: _, each => keeps_bind (each item List.mem_cons_self) fun _ =>
    keeps_forM fun other mem => each other (List.mem_cons_of_mem item mem)

/-- So does going through a list and collecting the results. -/
theorem keeps_mapM {steps : α → ExceptT Failure (StateM σ) β}
    (each : ∀ item, Keeps P (steps item)) : ∀ items : List α, Keeps P (items.mapM steps)
  | [] => by
    rw [List.mapM_nil]
    exact keeps_pure _
  | item :: rest => by
    rw [List.mapM_cons]
    refine keeps_bind (each item) fun _ => ?_
    exact keeps_bind (keeps_mapM each rest) fun _ => keeps_pure _

/-! ## Properties of results -/

/-- Steps that **ensure** a property of what they result in. -/
def Ensures (steps : ExceptT Failure (StateM σ) α) (Q : α → Prop) : Prop :=
  ∀ state value after, settle steps state = (.ok value, after) → Q value

variable {Q : α → Prop}

theorem ensures_pure {value : α} (holds : Q value) :
    Ensures (pure value : ExceptT Failure (StateM σ) α) Q := by
  rintro state _ _ ⟨⟩
  exact holds

theorem ensures_throw (failure : Failure) :
    Ensures (throw failure : ExceptT Failure (StateM σ) α) Q := by
  rintro state _ _ ⟨⟩

theorem ensures_liftM {result : Except Failure α} (holds : ∀ value, result = .ok value → Q value) :
    Ensures (liftM result : ExceptT Failure (StateM σ) α) Q := by
  rintro state value _ ⟨⟩
  exact holds value rfl

/-- What steps ensure, the steps behind them can build on. -/
theorem ensures_bind {R : β → Prop} {steps : ExceptT Failure (StateM σ) β}
    {next : β → ExceptT Failure (StateM σ) α} (first : Ensures steps R)
    (second : ∀ value, R value → Ensures (next value) Q) : Ensures (steps >>= next) Q := by
  intro state value after eq
  rw [settle_bind] at eq
  rcases settled : settle steps state with ⟨_ | middle, between⟩
  · rw [settled] at eq
    cases eq
  · rw [settled] at eq
    exact second middle (first state middle between settled) between value after eq

/-- **Searching a list** ensures that what was found is there. -/
theorem ensures_anyM {ask : α → ExceptT Failure (StateM σ) Bool} :
    ∀ {items : List α}, (∀ item ∈ items, Ensures (ask item) fun found => found = true → Q item) →
      Ensures (items.anyM ask) fun found => found = true → ∃ item ∈ items, Q item
  | [], _ => ensures_pure (by simp)
  | item :: rest, each => by
    rw [List.anyM_cons]
    refine ensures_bind (each item List.mem_cons_self) fun found holds => ?_
    cases found with
    | true => exact ensures_pure fun _ => ⟨item, List.mem_cons_self, holds rfl⟩
    | false =>
      -- the first item was not it, so what was found is one of the others
      have others := ensures_anyM fun other mem => each other (List.mem_cons_of_mem item mem)
      intro state value after eq yes
      obtain ⟨other, mem, holds⟩ := others state value after eq yes
      exact ⟨other, List.mem_cons_of_mem item mem, holds⟩

/-- Steps ensure at least that there is a result. -/
theorem ensures_true (steps : ExceptT Failure (StateM σ) α) : Ensures steps fun _ => True :=
  fun _ _ _ _ => trivial

/-! ## Where steps lead -/

/-- Steps that **lead** from one property to another, or to a third if they fail. -/
def Leads (P : σ → Prop) (steps : ExceptT Failure (StateM σ) α) (Q : α → σ → Prop)
    (R : σ → Prop) : Prop :=
  ∀ state, P state →
    match settle steps state with
    | (.ok value, after) => Q value after
    | (.error _, after) => R after

variable {R : σ → Prop} {steps : ExceptT Failure (StateM σ) α}

theorem leads_pure {Q : α → σ → Prop} {value : α} (holds : ∀ state, P state → Q value state) :
    Leads P (pure value : ExceptT Failure (StateM σ) α) Q R := holds

/-- Steps behind others go on from where these lead. -/
theorem leads_bind {S : α → σ → Prop} {Q : β → σ → Prop}
    {next : α → ExceptT Failure (StateM σ) β} (first : Leads P steps S R)
    (second : ∀ value, Leads (S value) (next value) Q R) : Leads P (steps >>= next) Q R := by
  intro state holds
  have middle := first state holds
  rw [settle_bind]
  generalize settle steps state = settled at middle ⊢
  obtain ⟨_ | value, after⟩ := settled
  · exact middle
  · exact second value after middle

/-- Steps lead on to what follows from where they lead. -/
theorem Leads.imp {Q S : α → σ → Prop} {T : σ → Prop} (leads : Leads P steps Q R)
    (returned : ∀ value state, Q value state → S value state)
    (failed : ∀ state, R state → T state) : Leads P steps S T := by
  intro state holds
  have led := leads state holds
  generalize settle steps state = settled at led ⊢
  obtain ⟨_ | value, after⟩ := settled
  · exact failed after led
  · exact returned value after led

/-- Steps that keep a property lead back to it. -/
theorem Keeps.leads (keeps : Keeps P steps) : Leads P steps (fun _ => P) P := by
  intro state holds
  have kept := keeps state holds
  generalize settle steps state = settled at kept ⊢
  obtain ⟨_ | value, after⟩ := settled <;> exact kept

end GuardedDispatch
