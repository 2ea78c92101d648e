import GuardedDispatch.Access.Oracle
import GuardedDispatch.Proofs.Stepwise

/-! # What asking does

* **`Asking.Returns asking value`**: asking answers `value`, whatever was asked before, and adds
  nothing but consultations to the trace (`Call.isConsultation`).
* **`Asking.Decides asking P`**: asking returns, and says yes iff `P` holds. Questions are composed
  by `decides_bind` and `decides_anyM`, with no look at the trace. -/

namespace GuardedDispatch

/-- Whether a call asks for advice: it consults a double, an assertion or a router. -/
def Call.isConsultation : Call → Bool
  | .question _ | .address _ | .assertion .. => true
  | _ => false

namespace Asking

variable {α β : Type}

/-- The outcome of asking is what it settles to behind no calls. -/
theorem outcome_eq_settle (asking : Asking α) : asking.outcome = settle asking [] := rfl

/-- Asking **returns** a value: it does so behind any calls, and adds only consultations. -/
def Returns (asking : Asking α) (value : α) : Prop :=
  ∀ calls, ∃ more, settle asking calls = (.ok value, calls ++ more) ∧
    ∀ call ∈ more, call.isConsultation = true

/-- What asking returns is its outcome, behind nothing but consultations. -/
theorem Returns.exists_outcome {asking : Asking α} {value : α} (returns : asking.Returns value) :
    ∃ calls, asking.outcome = (.ok value, calls) ∧ ∀ call ∈ calls, call.isConsultation = true := by
  obtain ⟨calls, eq, consults⟩ := returns []
  exact ⟨calls, eq, consults⟩

theorem Returns.outcome {asking : Asking α} {value : α} (returns : asking.Returns value) :
    asking.outcome.1 = .ok value := by
  obtain ⟨calls, eq, -⟩ := returns.exists_outcome
  rw [eq]

theorem returns_pure (value : α) : (pure value : Asking α).Returns value :=
  fun _ => ⟨[], by simp, by simp⟩

/-- Noting a consultation returns. -/
theorem returns_note {call : Call} (consults : call.isConsultation = true) :
    (note call).Returns () :=
  fun _ => ⟨[call], rfl, by simpa using consults⟩

/-- A result that is there is returned. -/
theorem returns_liftM {result : Except Failure α} {value : α} (ok : result = .ok value) :
    (liftM result : Asking α).Returns value :=
  fun _ => ⟨[], by simp [ok], by simp⟩

/-- Steps that return are composed: the second is asked with what the first returned. -/
theorem returns_bind {asking : Asking α} {next : α → Asking β} {value : α} {answer : β}
    (first : asking.Returns value) (second : (next value).Returns answer) :
    (asking >>= next).Returns answer := by
  intro calls
  -- the second is asked behind the calls of the first
  obtain ⟨more, eq, consults⟩ := first calls
  obtain ⟨further, eq', consults'⟩ := second (calls ++ more)
  refine ⟨more ++ further, ?_, ?_⟩
  · rw [settle_bind_of_ok eq, eq', List.append_assoc]
  · intro call mem
    rcases List.mem_append.1 mem with mem | mem
    · exact consults call mem
    · exact consults' call mem

/-! ## Questions that decide -/

/-- Asking **decides** a proposition: it returns, and says yes iff the proposition holds. -/
def Decides (asking : Asking Bool) (P : Prop) : Prop :=
  ∃ answer, asking.Returns answer ∧ (answer = true ↔ P)

theorem Decides.congr {asking : Asking Bool} {P Q : Prop} (decides : asking.Decides P)
    (iff : P ↔ Q) : asking.Decides Q := by
  obtain ⟨answer, returns, eq⟩ := decides
  exact ⟨answer, returns, eq.trans iff⟩

theorem decides_pure (answer : Bool) : (pure answer : Asking Bool).Decides (answer = true) :=
  ⟨answer, returns_pure answer, Iff.rfl⟩

/-- The outcome says what was decided. -/
theorem Decides.outcome_iff {asking : Asking Bool} {P : Prop} (decides : asking.Decides P) :
    asking.outcome.1 = .ok true ↔ P := by
  obtain ⟨answer, returns, eq⟩ := decides
  rw [returns.outcome, ← eq]
  exact ⟨Except.ok.inj, congrArg Except.ok⟩

/-- What is asked after a question may depend on what that question decided. -/
theorem decides_bind {asking : Asking Bool} {next : Bool → Asking Bool} {P Q : Prop}
    (first : asking.Decides P) (yes : P → (next true).Decides Q)
    (no : ¬ P → (next false).Decides Q) : (asking >>= next).Decides Q := by
  obtain ⟨answer, returns, eq⟩ := first
  cases answer with
  | true =>
    obtain ⟨final, returns', eq'⟩ := yes (eq.1 rfl)
    exact ⟨final, returns_bind returns returns', eq'⟩
  | false =>
    obtain ⟨final, returns', eq'⟩ := no fun holds => by simpa using eq.2 holds
    exact ⟨final, returns_bind returns returns', eq'⟩

/-- **Searching a list** decides whether one of its items is as asked, although the search ends at
the first that is. -/
theorem decides_anyM {ask : α → Asking Bool} {P : α → Prop} :
    ∀ {items : List α}, (∀ item ∈ items, (ask item).Decides (P item)) →
      (items.anyM ask).Decides (∃ item ∈ items, P item)
  | [], _ => (decides_pure false).congr (by simp)
  | item :: rest, each => by
    have others := decides_anyM fun other mem => each other (List.mem_cons_of_mem item mem)
    rw [List.anyM_cons]
    -- if the first item is as asked the others are not asked for, and need not be
    refine decides_bind (each item List.mem_cons_self) (fun found => ?_) (fun missing => ?_)
    · exact (decides_pure true).congr (by simp [found])
    · exact others.congr (by simp [missing])

end Asking

/-- An oracle **answers**: it allows the resources with the property and no others, and it knows who
is asking. -/
structure Oracle.Answers (oracle : Oracle) (P : Word → Prop) (identity : Value) : Prop where
  decides : ∀ resource, (oracle.isAllowed (.ofWord resource) .null).Decides (P resource)
  identifies : oracle.identity.Returns identity

/-- An oracle that answers allows the resources whose questions have the outcome yes. -/
theorem Oracle.Answers.outcome {oracle : Oracle} {P : Word → Prop} {identity : Value}
    (answers : oracle.Answers P identity) :
    oracle.Answers
      (fun resource => (oracle.isAllowed (.ofWord resource) .null).outcome.1 = .ok true)
      identity where
  decides resource := (answers.decides resource).congr (answers.decides resource).outcome_iff.symm
  identifies := answers.identifies

/-- **A double answers** from its list, unless it raises errors. -/
theorem Double.answers {double : Double} (calm : double.raises = none) :
    double.oracle.Answers (fun resource => double.allowed.any (.ofWord resource == ·) = true)
      double.identity where
  decides resource := by
    refine ⟨double.allowed.any (.ofWord resource == ·), ?_, Iff.rfl⟩
    rw [oracle, calm]
    exact Asking.returns_bind (Asking.returns_note rfl) (Asking.returns_pure _)
  identifies := Asking.returns_pure _

end GuardedDispatch
