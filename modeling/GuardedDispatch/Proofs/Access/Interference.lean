import GuardedDispatch.Proofs.Access.Faults

/-! # Rules about other resources

What an authorization service answers about one resource does not depend on the rules that it stores
about others. A stored rule compares the resource first, so a rule about another resource answers no
without asking its assertion (`StoredRule.applies_of_other`), and a search that meets it goes on as
if it were not there (`anyM_interspersed`).

* **`Service.Extends`**: a service stores the rules of another one, interspersed with rules that are
  not about a given resource.
* **`Couples R steps`**: steps that are taken from two related states fail or succeed alike, and
  leave related states. Building calls couple services whose relation building carries on
  (`Service.Carried`, `Service.couples_call`), and one of these is that what calls about other
  resources store stays beside (`Service.Beside`). -/

namespace GuardedDispatch

/-- A list with **further items interspersed**, at any positions; each of them has a property. -/
inductive Interspersed {α : Type} (P : α → Prop) : List α → List α → Prop where
  /-- Nothing on either side. -/
  | nil : Interspersed P [] []
  /-- An item of the list itself. -/
  | keep (item : α) {items more : List α} (rest : Interspersed P items more) :
    Interspersed P (item :: items) (item :: more)
  /-- A further item. -/
  | insert {item : α} (other : P item) {items more : List α} (rest : Interspersed P items more) :
    Interspersed P items (item :: more)

namespace Interspersed

variable {α : Type} {P : α → Prop} {items more items' more' : List α}

/-- A list is its own, with nothing interspersed. -/
theorem refl : ∀ items : List α, Interspersed P items items
  | [] => .nil
  | item :: rest => .keep item (refl rest)

/-- Nothing, with further items only. -/
theorem of_forall : ∀ {more : List α}, (∀ item ∈ more, P item) → Interspersed P [] more
  | [], _ => .nil
  | item :: _, each => .insert (each item List.mem_cons_self)
      (of_forall fun other mem => each other (List.mem_cons_of_mem item mem))

theorem append (front : Interspersed P items more) (back : Interspersed P items' more') :
    Interspersed P (items ++ items') (more ++ more') := by
  induction front with
  | nil => exact back
  | keep item _ ih => exact .keep item ih
  | insert other _ ih => exact .insert other ih

/-- The same item may come behind both lists. -/
theorem concat (front : Interspersed P items more) (item : α) :
    Interspersed P (items ++ [item]) (more ++ [item]) :=
  front.append (.keep item .nil)

/-- A further item may come behind the longer list. -/
theorem concat_other (front : Interspersed P items more) {item : α} (other : P item) :
    Interspersed P items (more ++ [item]) := by
  have longer := front.append (.insert other .nil)
  rwa [List.append_nil] at longer

/-- **A search** goes past items that answer no without any effect. -/
theorem anyM_eq {σ : Type} {ask : α → ExceptT Failure (StateM σ) Bool}
    (silent : ∀ item, P item → ask item = pure false) (interspersed : Interspersed P items more) :
    more.anyM ask = items.anyM ask := by
  induction interspersed with
  | nil => rfl
  | keep item _ ih => rw [List.anyM_cons, List.anyM_cons, ih]
  | insert other _ ih =>
    rw [List.anyM_cons, silent _ other, pure_bind]
    exact ih

end Interspersed

/-! ## Answers -/

/-- A rule is **about another resource** than a given one. -/
def StoredRule.AboutOther (resource : Value) (rule : StoredRule) : Prop :=
  (resource == rule.resource) = false

/-- A rule about another resource does not apply, and its assertion is not asked. -/
theorem StoredRule.applies_of_other {rule : StoredRule} {resource : Value}
    (other : rule.AboutOther resource) (identity : Option Identity) (privilege : Value)
    (role : Word) : rule.applies identity resource privilege role = pure false := by
  have misses : rule.covers role resource privilege = false := by
    have differs : (resource == rule.resource) = false := other
    rw [covers, differs, Bool.and_false, Bool.false_and]
  rw [applies, misses]
  rfl

namespace Service

/-- A service **extends** another one **beside** a resource: it stores the rules of the other one,
in their order, and between them any number of rules that are not about the resource; and either it
knows the resource like the other one, or both do not. -/
structure Extends (resource : Value) (service further : Service) : Prop where
  allows : Interspersed (StoredRule.AboutOther resource) service.allows further.allows
  denies : Interspersed (StoredRule.AboutOther resource) service.denies further.denies
  known : further.knows resource = service.knows resource

variable {resource : Value} {service further : Service}

/-- **Asking for one role** is the same with rules about other resources and without. -/
theorem Extends.allowsRole_eq (beyond : service.Extends resource further)
    (identity : Option Identity) (privilege : Value) (role : Word) :
    further.allowsRole identity resource privilege role =
      service.allowsRole identity resource privilege role := by
  have silent (rule : StoredRule) (other : rule.AboutOther resource) :
      rule.applies identity resource privilege role = pure false :=
    rule.applies_of_other other identity privilege role
  unfold allowsRole
  rw [beyond.allows.anyM_eq silent, beyond.denies.anyM_eq silent]

/-- **Asking a service** is the same with rules about other resources and without. -/
theorem Extends.isAllowed_eq (beyond : service.Extends resource further) (caller : Caller)
    (privilege : Value) :
    further.isAllowed caller resource privilege = service.isAllowed caller resource privilege := by
  have asks := funext (beyond.allowsRole_eq caller.identity privilege)
  unfold isAllowed
  rw [beyond.known, asks]

/-! ## Building beside a resource -/

/-- What a service **knows after learning** is what it knew and what it learned. -/
theorem knows_learn (text : resource.isText = true) (service : Service) (other : Value) :
    (service.learn other).knows resource =
      (service.knows resource || resource == other) := by
  unfold learn
  split
  · rename_i known
    -- a resource that was known is learned once, and the text is no other than itself
    by_cases same : (resource == other) = true
    · obtain rfl := (Value.text_beq_iff text).1 same
      rw [known, Bool.true_or]
    · rw [eq_false_of_ne_true same, Bool.or_false]
  · simp only [knows, List.any_append, List.any_cons, List.any_nil, Bool.or_false]

/-- Services that extend others go on doing so when both learn. -/
theorem Extends.learn (text : resource.isText = true) (beyond : service.Extends resource further)
    (other : Value) : (service.learn other).Extends resource (further.learn other) where
  allows := by rw [learn_allows, learn_allows]; exact beyond.allows
  denies := by rw [learn_denies, learn_denies]; exact beyond.denies
  known := by rw [knows_learn text, knows_learn text, beyond.known]

/-- Only the longer one may learn another resource. -/
theorem Extends.learn_other (text : resource.isText = true)
    (beyond : service.Extends resource further) {other : Value}
    (differs : (resource == other) = false) : service.Extends resource (further.learn other) where
  allows := by rw [learn_allows]; exact beyond.allows
  denies := by rw [learn_denies]; exact beyond.denies
  known := by rw [knows_learn text, differs, Bool.or_false, beyond.known]

/-- They go on doing so when both store the same rule. -/
theorem Extends.push (beyond : service.Extends resource further) (kind : RuleKind)
    (rule : StoredRule) : (service.push kind rule).Extends resource (further.push kind rule) := by
  cases kind with
  | allow => exact ⟨beyond.allows.concat rule, beyond.denies, beyond.known⟩
  | deny => exact ⟨beyond.allows, beyond.denies.concat rule, beyond.known⟩

/-- Only the longer one may store a rule about another resource. -/
theorem Extends.push_other (beyond : service.Extends resource further) (kind : RuleKind)
    {rule : StoredRule} (differs : rule.AboutOther resource) :
    service.Extends resource (further.push kind rule) := by
  cases kind with
  | allow => exact ⟨beyond.allows.concat_other differs, beyond.denies, beyond.known⟩
  | deny => exact ⟨beyond.allows, beyond.denies.concat_other differs, beyond.known⟩

end Service

/-! ## Coupled steps -/

/-- Steps that **couple** two states: taken from related states they have the same result, and leave
related states. -/
def Couples {σ α : Type} (R : σ → σ → Prop) (steps : ExceptT Failure (StateM σ) α) : Prop :=
  ∀ state other, R state other →
    (settle steps other).1 = (settle steps state).1 ∧
      R (settle steps state).2 (settle steps other).2

/-- Steps that couple do so one after the other. -/
theorem couples_bind {σ α β : Type} {R : σ → σ → Prop} {steps : ExceptT Failure (StateM σ) α}
    {next : α → ExceptT Failure (StateM σ) β} (first : Couples R steps)
    (second : ∀ value, Couples R (next value)) : Couples R (steps >>= next) := by
  intro state other related
  obtain ⟨same, middle⟩ := first state other related
  rw [settle_bind, settle_bind]
  generalize settle steps state = settled at same middle ⊢
  generalize settle steps other = settled' at same middle ⊢
  obtain ⟨result, after⟩ := settled
  obtain ⟨result', after'⟩ := settled'
  obtain rfl : result' = result := same
  -- both fail here, or both go on with the same value
  cases result' with
  | error failure => exact ⟨rfl, middle⟩
  | ok value => exact second value after after' middle

namespace Service

/-- Coupling is compositional. -/
theorem compositional_couples (R : Service → Service → Prop) : Compositional (Couples R) where
  stay := fun _ _ related => ⟨rfl, related⟩
  fail := fun _ _ _ related => ⟨rfl, related⟩
  bind first second := couples_bind first fun _ => second

/-- A relation of services that **building carries on**: related services have the same table of
assertions, and are related after both learned a resource or stored a rule. -/
structure Carried (R : Service → Service → Prop) : Prop where
  table : ∀ {service further : Service}, R service further →
    further.assertions = service.assertions
  learn : ∀ {service further : Service} (other : Value), R service further →
    R (service.learn other) (further.learn other)
  push : ∀ {service further : Service} (kind : RuleKind) (rule : StoredRule), R service further →
    R (service.push kind rule) (further.push kind rule)

section

variable {R : Service → Service → Prop}

theorem couples_addResource (carried : Carried R) (other : Value) :
    Couples R (addResource other) := by
  intro service further related
  rw [settle_addResource, settle_addResource]
  cases other.unhashable? with
  | some name => exact ⟨rfl, related⟩
  | none => exact ⟨rfl, carried.learn other related⟩

theorem couples_storeRule (carried : Carried R) (kind : RuleKind)
    (roles other privilege assertion : Value) :
    Couples R (storeRule kind roles other privilege assertion) := by
  intro service further related
  rw [settle_storeRule, settle_storeRule, findAssertion_congr (carried.table related),
    ← findAssertion_congr rfl]
  have learned := carried.learn other related
  cases service.findAssertion other assertion with
  | error failure => exact ⟨rfl, related⟩
  | ok found =>
    cases other.unhashable? with
    | some name => exact ⟨rfl, related⟩
    | none =>
      cases readRoles roles with
      | error failure => exact ⟨rfl, learned⟩
      | ok texts => exact ⟨rfl, carried.push kind _ learned⟩

/-- **The same call** keeps two services related, and fails for both or for none. -/
theorem couples_call (carried : Carried R) : ∀ call : BuildCall, Couples R call.steps
  | .addResource other => couples_addResource carried other
  | .store kind roles other privilege assertion =>
    couples_storeRule carried kind roles other privilege assertion
  | .load rules => (compositional_couples R).storeRules (couples_storeRule carried) rules

end

/-- Two services are **built beside** a resource: they have the same table of assertions, and one
extends the other. -/
structure Beside (resource : Value) (service further : Service) : Prop where
  table : further.assertions = service.assertions
  extended : service.Extends resource further

variable {resource : Value} {service further : Service}

/-- Building carries on that two services are beside each other. -/
theorem carried_beside (text : resource.isText = true) : Carried (Beside resource) where
  table beside := beside.table
  learn other beside :=
    ⟨by rw [learn_assertions, learn_assertions, beside.table], beside.extended.learn text other⟩
  push kind rule beside :=
    ⟨by rw [push_assertions, push_assertions, beside.table], beside.extended.push kind rule⟩

/-- A call **about another resource** than a given one: this is what it makes known, or what it
stores a rule about. -/
inductive BuildCall.AboutOther (resource : Value) : BuildCall → Prop where
  /-- Another resource becomes known. -/
  | addResource {other : Value} (differs : (resource == other) = false) :
    AboutOther resource (.addResource other)
  /-- A rule about another resource is stored, whatever else it says. -/
  | store {other : Value} (differs : (resource == other) = false) (kind : RuleKind)
    (roles privilege assertion : Value) :
    AboutOther resource (.store kind roles other privilege assertion)

/-- **A further call** about another resource keeps a service beside the other one, whether it fails
or not. -/
theorem Beside.call_other (text : resource.isText = true) (beside : Beside resource service further)
    {call : BuildCall} (about : call.AboutOther resource) :
    Beside resource service (further.build call.steps).2 := by
  have learned {other : Value} (differs : (resource == other) = false) :
      Beside resource service (further.learn other) :=
    ⟨(learn_assertions _ _).trans beside.table, beside.extended.learn_other text differs⟩
  cases about with
  | @addResource other differs =>
    show Beside resource service (settle (addResource other) further).2
    rw [settle_addResource]
    cases other.unhashable? with
    | some name => exact beside
    | none => exact learned differs
  | @store other differs kind roles privilege assertion =>
    show Beside resource service
      (settle (storeRule kind roles other privilege assertion) further).2
    rw [settle_storeRule]
    cases further.findAssertion other assertion with
    | error failure => exact beside
    | ok found =>
      cases other.unhashable? with
      | some name => exact beside
      | none =>
        cases readRoles roles with
        | error failure => exact learned differs
        | ok texts =>
          refine ⟨(push_assertions _ _ _).trans (learned differs).table, ?_⟩
          exact (learned differs).extended.push_other kind differs

/-- The service **after calls**, some of which may have failed. -/
def after (service : Service) (calls : List BuildCall) : Service :=
  calls.foldl (fun before call => (before.build call.steps).2) service

/-- **Calls and further calls** between them, about other resources, keep two services beside each
other. -/
theorem Beside.after (text : resource.isText = true) {calls more : List BuildCall}
    (interspersed : Interspersed (BuildCall.AboutOther resource) calls more)
    (beside : Beside resource service further) :
    Beside resource (service.after calls) (further.after more) := by
  induction interspersed generalizing service further with
  | nil => exact beside
  | keep call _ ih => exact ih (couples_call (carried_beside text) call service further beside).2
  | insert about _ ih => exact ih (beside.call_other text about)

/-- **Rules about other resources do not interfere.** Whatever rules about other resources are
stored between those of a service, with any roles, privileges and assertions, asking about the
resource is the same computation: it has the same result or fails with the same failure, and asks
the same assertions in the same order. A service comes to store such rules when calls about other
resources are made between those that build it, whether these fail or not. -/
theorem isAllowed_beside {resource : Value} (text : resource.isText = true) :
    (∀ service further : Service, service.Extends resource further →
      ∀ (caller : Caller) (privilege : Value),
        further.isAllowed caller resource privilege =
          service.isAllowed caller resource privilege) ∧
    ∀ (service : Service) (calls more : List BuildCall),
      Interspersed (BuildCall.AboutOther resource) calls more →
        (service.after calls).Extends resource (service.after more) ∧
          ∀ (caller : Caller) (privilege : Value),
            (service.after more).isAllowed caller resource privilege =
              (service.after calls).isAllowed caller resource privilege := by
  refine ⟨fun service further beyond => beyond.isAllowed_eq, ?_⟩
  intro service calls more interspersed
  -- a service is beside itself before the first call
  have before : Beside resource service service := ⟨rfl, .refl _, .refl _, rfl⟩
  have beside := before.after text interspersed
  exact ⟨beside.extended, beside.extended.isAllowed_eq⟩

/-- Guests are let in at home, although asking about the other resource raises an error. -/
theorem isAllowed_beside_raising :
    let home : StoredRule := ⟨["guest"], .str "home", .null, none⟩
    let raising : StoredRule :=
      ⟨["guest"], .str "other", .null, some ("raising", fun _ _ _ => .error .attribute)⟩
    let service : Service := { resources := [.str "home"], allows := [home] }
    let further : Service :=
      { resources := [.str "other", .str "home"], allows := [raising, home], denies := [raising] }
    (Value.str "home").isText = true ∧ service.Extends (.str "home") further ∧
      (further.isAllowed (.of none "guest") (.str "home") .null).outcome = (.ok true, []) ∧
      (further.isAllowed (.of none "guest") (.str "other") .null).outcome.1 =
        .error .attribute := by
  intro home raising service further
  have differs : raising.AboutOther (.str "home") := by simp [raising, StoredRule.AboutOther]
  have beyond : service.Extends (.str "home") further :=
    ⟨.insert differs (.keep home .nil), .insert differs .nil, by simp [knows, service, further]⟩
  have text : (Value.str "home").isText = true := rfl
  have same := (isAllowed_beside text).1 service further beyond (.of none "guest") .null
  refine ⟨text, beyond, ?_, rfl⟩
  rw [same]
  rfl

end Service

end GuardedDispatch
