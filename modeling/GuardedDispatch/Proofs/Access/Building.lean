import GuardedDispatch.Access.Service
import GuardedDispatch.Proofs.Stepwise

/-! # Building services

Every way to build an authorization service comes down to two changes of the store: a resource
becomes known (`Service.learn`), and a rule is stored behind those of its kind (`Service.push`).

* **`Service.Compositional`**: a property of building steps that is carried from storing a rule to
  storing whole maps of them.
* **`Service.Stable`**: a property of services that these two changes keep. It holds of whatever is
  built, however far a failing call came (`Reached.of_stable`).
* **`Service.Reached`**: the services that calls build from an empty one. -/

namespace GuardedDispatch.Service

/-! ## Building steps -/

/-- A resource that can be a member of a set becomes known. -/
theorem settle_addResource (resource : Value) (service : Service) :
    settle (addResource resource) service =
      match resource.unhashable? with
      | some kind => (.error (.type (.unhashable kind)), service)
      | none => (.ok (), service.learn resource) := by
  unfold addResource
  cases resource.unhashable? <;> rfl

/-- **Storing a rule**, step by step: the assertion is looked up, the resource becomes known, the
roles are read, and then the rule is stored. -/
theorem settle_storeRule (kind : RuleKind) (roles resource privilege assertion : Value)
    (service : Service) :
    settle (storeRule kind roles resource privilege assertion) service =
      match service.findAssertion resource assertion with
      | .error failure => (.error failure, service)
      | .ok found =>
        match resource.unhashable? with
        | some name => (.error (.type (.unhashable name)), service)
        | none =>
          match readRoles roles with
          | .error failure => (.error failure, service.learn resource)
          | .ok texts =>
            (.ok (), push kind ⟨texts, resource, privilege, found⟩ (service.learn resource)) := by
  unfold storeRule
  rw [settle_bind_of_ok (settle_get service), settle_bind, settle_liftM]
  cases service.findAssertion resource assertion with
  | error failure => rfl
  | ok found =>
    simp only [settle_bind, settle_addResource, settle_liftM]
    cases resource.unhashable? with
    | some name => rfl
    | none => cases readRoles roles <;> rfl

/-- **Positional rules** are stored like the rules of their parts, or not at all. -/
theorem storePositional_cases (kind : RuleKind) (rule : Value) :
    (∃ failure, storePositional kind rule = throw failure) ∨
      ∃ roles resource privilege assertion,
        storePositional kind rule = storeRule kind roles resource privilege assertion := by
  unfold storePositional
  cases rule.members? with
  | none => exact .inl ⟨_, rfl⟩
  | some parts =>
    show (∃ failure, storeParts kind parts = throw failure) ∨ _
    unfold storeParts
    split
    · exact .inr ⟨_, _, .null, .null, rfl⟩
    · exact .inr ⟨_, _, _, .null, rfl⟩
    · exact .inr ⟨_, _, _, _, rfl⟩
    · exact .inl ⟨_, rfl⟩

/-! ## Properties that building keeps -/

/-- A property of building steps that is **compositional**: steps have it if the steps that they
consist of do. -/
structure Compositional (C : Building Unit → Prop) : Prop where
  stay : C (pure ())
  fail : ∀ failure, C (throw failure)
  bind : ∀ {first second : Building Unit}, C first → C second → C (first >>= fun _ => second)

namespace Compositional

variable {C : Building Unit → Prop}

/-- Going through a list has a compositional property if each step has it. -/
theorem forM (compositional : Compositional C) {α : Type} {steps : α → Building Unit} :
    ∀ {items : List α}, (∀ item ∈ items, C (steps item)) → C (items.forM steps)
  | [], _ => compositional.stay
  | item :: _, each => by
    have others := compositional.forM fun other mem => each other (List.mem_cons_of_mem item mem)
    exact compositional.bind (each item List.mem_cons_self) others

/-- Storing a positional rule has a compositional property if storing a rule has it. -/
theorem storePositional (compositional : Compositional C) {kind : RuleKind}
    (stores : ∀ roles resource privilege assertion : Value,
      C (storeRule kind roles resource privilege assertion)) (rule : Value) :
    C (storePositional kind rule) := by
  rcases storePositional_cases kind rule with ⟨failure, eq⟩ | ⟨roles, resource, privilege,
    assertion, eq⟩
  · rw [eq]
    exact compositional.fail failure
  · rw [eq]
    exact stores roles resource privilege assertion

/-- Maps of rules are stored rule by rule. -/
theorem storeFields (compositional : Compositional C)
    (stores : ∀ (kind : RuleKind) (roles resource privilege assertion : Value),
      C (storeRule kind roles resource privilege assertion)) (fields : Fields) :
    C (storeFields fields) := by
  have sections (kind : RuleKind) (rules : Value) : C (storeSection kind rules) := by
    unfold storeSection
    cases rules.members? with
    | none => exact compositional.fail _
    | some items =>
      exact compositional.forM fun item _ => compositional.storePositional (stores kind) item
  exact compositional.bind (sections .allow _) (sections .deny _)

theorem storeRules (compositional : Compositional C)
    (stores : ∀ (kind : RuleKind) (roles resource privilege assertion : Value),
      C (storeRule kind roles resource privilege assertion)) (rules : Value) :
    C (storeRules rules) := by
  unfold Service.storeRules
  cases rules.fields? with
  | none => exact compositional.fail _
  | some fields => exact compositional.storeFields stores fields

end Compositional

/-- Keeping a property of services is compositional. -/
theorem compositional_keeps (P : Service → Prop) : Compositional (Keeps P) where
  stay := keeps_pure ()
  fail := keeps_throw
  bind first second := keeps_bind first fun _ => second

/-- A property of services that is **stable**: it is kept when a resource becomes known, and when a
rule is stored whose resource has become known and whose assertion was looked up. -/
structure Stable (P : Service → Prop) : Prop where
  learn : ∀ {service : Service} (resource : Value), P service → P (service.learn resource)
  push : ∀ {service : Service} (kind : RuleKind) (rule : StoredRule) (name : Value), P service →
    service.findAssertion rule.resource name = .ok rule.assertion →
    P ((service.learn rule.resource).push kind rule)

variable {P : Service → Prop}

theorem keeps_addResource (stable : Stable P) (resource : Value) :
    Keeps P (addResource resource) := by
  intro service holds
  rw [settle_addResource]
  cases resource.unhashable? with
  | some name => exact holds
  | none => exact stable.learn resource holds

theorem keeps_storeRule (stable : Stable P) (kind : RuleKind)
    (roles resource privilege assertion : Value) :
    Keeps P (storeRule kind roles resource privilege assertion) := by
  intro service holds
  rw [settle_storeRule]
  cases found : service.findAssertion resource assertion with
  | error failure => exact holds
  | ok _ =>
    cases resource.unhashable? with
    | some name => exact holds
    | none =>
      -- a rule whose roles cannot be read leaves its resource known
      cases readRoles roles with
      | error failure => exact stable.learn resource holds
      | ok texts => exact stable.push kind ⟨texts, resource, privilege, _⟩ assertion holds found

/-! ## Reached services -/

/-- One **call** that builds a service. -/
inductive BuildCall where
  /-- Make a resource known. -/
  | addResource (resource : Value)
  /-- Store a rule of a kind. -/
  | store (kind : RuleKind) (roles resource privilege assertion : Value)
  /-- Store the positional rules of a map. -/
  | load (rules : Value)

/-- The steps of a call. -/
def BuildCall.steps : BuildCall → Building Unit
  | addResource resource => Service.addResource resource
  | store kind roles resource privilege assertion =>
    storeRule kind roles resource privilege assertion
  | load rules => storeRules rules

/-- The services that calls build, **whether they fail or not**, from one that knows nothing but a
table of assertions. -/
inductive Reached (assertions : Assertions) : Service → Prop where
  /-- No call yet. -/
  | new : Reached assertions { assertions }
  /-- One more call. -/
  | call {service : Service} (call : BuildCall) (before : Reached assertions service) :
    Reached assertions (service.build call.steps).2

/-- Storing a rule keeps a service reached. -/
theorem keeps_reached_storeRule (assertions : Assertions) (kind : RuleKind)
    (roles resource privilege assertion : Value) :
    Keeps (Reached assertions) (storeRule kind roles resource privilege assertion) :=
  fun _ reached => reached.call (.store kind roles resource privilege assertion)

/-- A call keeps what is stable. -/
theorem keeps_call (stable : Stable P) : ∀ call : BuildCall, Keeps P call.steps
  | .addResource resource => keeps_addResource stable resource
  | .store kind roles resource privilege assertion =>
    keeps_storeRule stable kind roles resource privilege assertion
  | .load rules => (compositional_keeps P).storeRules (keeps_storeRule stable) rules

/-- **What is stable holds of every reached service** if it holds of the empty one. -/
theorem Reached.of_stable {assertions : Assertions} {service : Service}
    (reached : Reached assertions service) (stable : Stable P) (new : P { assertions }) :
    P service := by
  induction reached with
  | new => exact new
  | call call _ ih => exact keeps_call stable call _ ih

end GuardedDispatch.Service
