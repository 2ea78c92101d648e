import GuardedDispatch.Value.Equality
import Mathlib.Logic.Function.Basic

/-! # What is found under text keys

Fields are looked up under text keys, whatever other keys they have. Writing and dropping one text
key changes what is found there and nowhere else (`Value.field?_putText`, `Value.field?_dropText`),
whether the key keeps its place or goes to the end. -/

namespace GuardedDispatch

namespace Value

variable {fields : Fields} {name : String}

theorem field?_cons (key value : Value) (rest : Fields) (name : String) :
    field? ((key, value) :: rest) name =
      if key == .str name then some value else field? rest name :=
  lookupField_cons _ _ _ _

/-- A text key is not found iff no field has it. -/
theorem field?_eq_none_iff :
    field? fields name = none ↔ ∀ field ∈ fields, field.1 ≠ .str name := by
  simp only [field?, lookupField, Option.map_eq_none_iff, List.find?_eq_none, beq_str_iff, ne_eq]

/-- **Writing under any key** changes what is found under that key only. -/
theorem field?_putField (key value : Value) (fields : Fields) (name : String) :
    field? (putField key value fields) name =
      if key == .str name then some value else field? fields name := by
  induction fields with
  | nil => exact field?_cons key value [] name
  | cons field rest ih =>
    obtain ⟨k, v⟩ := field
    by_cases same : (k == key) = true
    · -- the key that is there is the text iff the written one is
      have alike : (k == .str name) = (key == .str name) := by
        rw [Bool.eq_iff_iff, beq_str_iff, beq_str_iff]
        constructor
        · rintro rfl
          exact str_beq_iff.1 same
        · rintro rfl
          exact beq_str_iff.1 same
      rw [putField, if_pos same, field?_cons, field?_cons, alike]
      by_cases named : (key == .str name) = true
      · rw [if_pos named, if_pos named]
      · rw [if_neg named, if_neg named, if_neg named]
    · rw [putField, if_neg same, field?_cons, field?_cons, ih]
      by_cases named : (k == .str name) = true
      · -- then the written key is another one
        have other : ¬ (key == .str name) = true := by
          intro named'
          rw [beq_str_iff.1 named, beq_str_iff.1 named', beq_str] at same
          exact same (beq_self_eq_true name)
        rw [if_pos named, if_neg other, if_pos named]
      · rw [if_neg named]
        by_cases named' : (key == .str name) = true
        · rw [if_pos named', if_pos named']
        · rw [if_neg named', if_neg named', if_neg named]

/-- What is left without one text key is found under all others as before. -/
theorem field?_dropField {dropped : String} (other : name ≠ dropped) (fields : Fields) :
    field? (dropField (.str dropped) fields) name = field? fields name := by
  induction fields with
  | nil => rfl
  | cons field rest ih =>
    obtain ⟨k, v⟩ := field
    unfold dropField at ih ⊢
    by_cases gone : (k == .str dropped) = true
    · have differs : ¬ (k == .str name) = true := by
        rw [beq_str_iff.1 gone, beq_str, beq_iff_eq]
        exact other.symm
      rw [List.filter_cons_of_neg (by simp [gone]), ih, field?_cons, if_neg differs]
    · rw [List.filter_cons_of_pos (by simp [gone]), field?_cons, ih, field?_cons]

/-- A text key that was dropped is not found. -/
theorem field?_dropField_self (name : String) (fields : Fields) :
    field? (dropField (.str name) fields) name = none := by
  refine field?_eq_none_iff.2 fun field mem same => ?_
  have kept := (List.mem_filter.1 mem).2
  simp [same] at kept

/-- **Writing under a text key** changes what is found there. -/
theorem field?_putText (name : String) (value : Value) (fields : Fields) :
    field? (putField (.str name) value fields) =
      Function.update (field? fields) name (some value) := by
  funext other
  rw [field?_putField, beq_str]
  by_cases same : other = name
  · subst same
    rw [if_pos (beq_self_eq_true other), Function.update_self]
  · rw [if_neg (by simpa using Ne.symm same), Function.update_of_ne same]

/-- **Dropping a text key** leaves nothing there. -/
theorem field?_dropText (name : String) (fields : Fields) :
    field? (dropField (.str name) fields) = Function.update (field? fields) name none := by
  funext other
  by_cases same : other = name
  · subst same
    rw [field?_dropField_self, Function.update_self]
  · rw [field?_dropField same, Function.update_of_ne same]

end Value

end GuardedDispatch
