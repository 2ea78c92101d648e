import GuardedDispatch.Proofs.Access.Loading

/-! # What keeps rules from being stored

Whether a rule can be stored depends on its own parts and on the table of assertions, never on what
the service holds already. So building a service fails with the **first fault** among its rules, in
the order of storing (`Service.Fails`, `fails_forM`), and succeeds iff no rule has a fault.

A fault is an assertion that the table does not have, which is a fault of configuration, unless the
parts of the rule are **misshapen** (`Value.IsMisshapen`, `isConfiguration_of_fault`). -/

namespace GuardedDispatch

/-- Whether a failure is a **fault of configuration**. -/
def Failure.IsConfiguration (failure : Failure) : Prop := ∃ fault, failure = .configuration fault

/-- The result of steps that fail with a fault, or succeed if there is none. -/
def resultOf : Option Failure → Except Failure Unit
  | none => .ok ()
  | some failure => .error failure

/-- Failing is having a fault. -/
@[simp] theorem resultOf_eq_error_iff {fault : Option Failure} {failure : Failure} :
    resultOf fault = .error failure ↔ fault = some failure := by
  cases fault <;> simp [resultOf]

/-- A value that cannot be **printed** holds an integer of too many digits. -/
theorem Value.print_eq_error_iff {v : Value} {failure : Failure} :
    v.print = .error failure ↔ v.holdsLong = true ∧ failure = .value (.tooManyDigits none) :=
  unlessLong_eq_error_iff

/-- A value that holds none is printed as its text. -/
theorem Value.print_of_short {v : Value} (short : v.holdsLong = false) : v.print = .ok v.text :=
  unlessLong_of_short short v.text

/-- Parts of a positional rule that are **misshapen**: the roles are neither a text nor members that
can be told apart, the resource or the assertion cannot be looked up, or one of the two is too long
to be named in a message. -/
inductive Value.IsMisshapen (roles resource assertion : Value) : Failure → Prop where
  /-- The roles have no members. -/
  | noMembers (single : roles.members? = none) :
    IsMisshapen roles resource assertion (.type (.notIterable roles.kindName))
  /-- One of the roles can change. -/
  | role {members : List Value} {kind : String} (several : roles.members? = some members)
    (changes : Value.unhashableItem? members = some kind) :
    IsMisshapen roles resource assertion (.type (.unhashable kind))
  /-- The resource can change. -/
  | resource {kind : String} (changes : resource.unhashable? = some kind) :
    IsMisshapen roles resource assertion (.type (.unhashable kind))
  /-- The assertion can change. -/
  | assertion {kind : String} (changes : assertion.unhashable? = some kind) :
    IsMisshapen roles resource assertion (.type (.unhashable kind))
  /-- The assertion or the resource is too long to be printed. -/
  | long (tooLong : assertion.holdsLong = true ∨ resource.holdsLong = true) :
    IsMisshapen roles resource assertion (.value (.tooManyDigits none))

namespace Service

variable {assertions : Assertions}

/-! ## Faults -/

/-- What keeps a rule of these parts from being stored, if anything. -/
def storeFault? (assertions : Assertions) (roles resource assertion : Value) : Option Failure :=
  match findAssertion { assertions } resource assertion with
  | .error failure => some failure
  | .ok _ =>
    match resource.unhashable?, readRoles roles with
    | some kind, _ => some (.type (.unhashable kind))
    | none, .error failure => some failure
    | none, .ok _ => none

/-- What keeps a rule from being stored that is given by its parts in order, if anything. -/
def partsFault? (assertions : Assertions) : List Value → Option Failure
  | [roles, resource] | [roles, resource, _] => storeFault? assertions roles resource .null
  | [roles, resource, _, assertion] => storeFault? assertions roles resource assertion
  | _ => some (.type .wrongArity)

/-- A rule without an assertion has the fault of one whose assertion is absent. -/
theorem partsFault?_of_length_le {roles resource : Value} :
    ∀ {rest : List Value}, rest.length ≤ 2 →
      partsFault? assertions (roles :: resource :: rest) =
        storeFault? assertions roles resource (rest[1]?.getD .null)
  | [], _ | [_], _ | [_, _], _ => rfl

/-- What keeps a **positional rule** from being stored, if anything. -/
def ruleFault? (assertions : Assertions) (rule : Value) : Option Failure :=
  match rule.members? with
  | none => some (.type (.notIterable rule.kindName))
  | some parts => partsFault? assertions parts

/-- What keeps the rules that a value holds from being stored, if anything. -/
def sectionFault? (assertions : Assertions) (rules : Value) : Option Failure :=
  match rules.members? with
  | none => some (.type (.notIterable rules.kindName))
  | some items => items.findSome? (ruleFault? assertions)

/-- Looking up an assertion needs nothing of a service but its table. -/
theorem findAssertion_congr {service : Service} (table : service.assertions = assertions)
    (resource assertion : Value) :
    service.findAssertion resource assertion =
      findAssertion { assertions } resource assertion := by
  subst table
  rfl

/-- An assertion that cannot be looked up is unknown, can change, or cannot be named. -/
theorem findAssertion_error {resource assertion : Value} {failure : Failure}
    (failed : findAssertion { assertions } resource assertion = .error failure) :
    failure.IsConfiguration ∨
      (∃ kind, assertion.unhashable? = some kind ∧ failure = .type (.unhashable kind)) ∨
      ((assertion.holdsLong = true ∨ resource.holdsLong = true) ∧
        failure = .value (.tooManyDigits none)) := by
  unfold findAssertion at failed
  split at failed
  · cases failed
  · cases changes : assertion.unhashable? with
    | some kind =>
      rw [changes] at failed
      cases failed
      exact .inr (.inl ⟨kind, rfl, rfl⟩)
    | none =>
      rw [changes] at failed
      cases found : assertions.find? fun entry => assertion == .str entry.1 with
      | some entry =>
        rw [found] at failed
        cases failed
      | none =>
        rw [found] at failed
        -- the message names the assertion first, and then the resource
        cases named : assertion.print with
        | error other =>
          rw [named] at failed
          cases failed
          obtain ⟨tooLong, rfl⟩ := Value.print_eq_error_iff.1 named
          exact .inr (.inr ⟨.inl tooLong, rfl⟩)
        | ok name =>
          rw [named] at failed
          cases about : resource.print with
          | error other =>
            rw [about] at failed
            cases failed
            obtain ⟨tooLong, rfl⟩ := Value.print_eq_error_iff.1 about
            exact .inr (.inr ⟨.inr tooLong, rfl⟩)
          | ok text =>
            rw [about] at failed
            cases failed
            exact .inl ⟨_, rfl⟩

/-- Roles that cannot be read have no members, or one that can change. -/
theorem readRoles_error {roles : Value} {failure : Failure}
    (failed : readRoles roles = .error failure) :
    (roles.members? = none ∧ failure = .type (.notIterable roles.kindName)) ∨
      ∃ members kind, roles.members? = some members ∧
        Value.unhashableItem? members = some kind ∧ failure = .type (.unhashable kind) := by
  unfold readRoles at failed
  split at failed
  · cases failed
  · cases failed
  · split at failed
    · rename_i single
      cases failed
      exact .inl ⟨single, rfl⟩
    · rename_i members several
      split at failed
      · rename_i kind changes
        cases failed
        exact .inr ⟨members, kind, several, changes, rfl⟩
      · cases failed

/-- **A fault is one of configuration**, unless the parts are misshapen. -/
theorem isConfiguration_of_fault {roles resource assertion : Value} {failure : Failure}
    (fault : storeFault? assertions roles resource assertion = some failure) :
    failure.IsConfiguration ∨ Value.IsMisshapen roles resource assertion failure := by
  unfold storeFault? at fault
  split at fault
  · rename_i failed
    cases fault
    rcases findAssertion_error failed with configured | ⟨kind, changes, rfl⟩ | ⟨tooLong, rfl⟩
    · exact .inl configured
    · exact .inr (.assertion changes)
    · exact .inr (.long tooLong)
  · split at fault
    · rename_i kind _ changes
      cases fault
      exact .inr (.resource changes)
    · rename_i failed
      cases fault
      rcases readRoles_error failed with ⟨single, rfl⟩ | ⟨members, kind, several, changes, rfl⟩
      · exact .inr (.noMembers single)
      · exact .inr (.role several changes)
    · cases fault

/-! ## Failing with the first fault -/

/-- Steps that **fail with a fault**, whatever a service with the table holds, and succeed if there
is none; they leave the table alone. -/
def Fails (assertions : Assertions) (steps : Building Unit) (fault : Option Failure) : Prop :=
  ∀ service : Service, service.assertions = assertions →
    ∃ after, settle steps service = (resultOf fault, after) ∧ after.assertions = assertions

/-- Steps behind others are taken if these have no fault. -/
theorem fails_bind {first second : Building Unit} {fault further : Option Failure}
    (fails : Fails assertions first fault) (fails' : Fails assertions second further) :
    Fails assertions (first >>= fun _ => second) (fault.or further) := by
  intro service table
  obtain ⟨middle, eq, table'⟩ := fails service table
  cases fault with
  | none =>
    obtain ⟨after, eq', table''⟩ := fails' middle table'
    exact ⟨after, by rw [settle_bind_of_ok eq, eq', Option.none_or], table''⟩
  | some failure => exact ⟨middle, by rw [settle_bind_of_error eq, Option.some_or]; rfl, table'⟩

/-- **Going through a list** fails with the first fault. -/
theorem fails_forM {α : Type} {steps : α → Building Unit} {fault : α → Option Failure} :
    ∀ {items : List α}, (∀ item ∈ items, Fails assertions (steps item) (fault item)) →
      Fails assertions (items.forM steps) (items.findSome? fault)
  | [], _ => fun service table => ⟨service, rfl, table⟩
  | item :: rest, each => by
    have others : Fails assertions (rest.forM steps) (rest.findSome? fault) :=
      fails_forM fun other mem => each other (List.mem_cons_of_mem item mem)
    have both := fails_bind (each item List.mem_cons_self) others
    rw [List.findSome?_cons]
    cases found : fault item with
    | none => rw [found, Option.none_or] at both; exact both
    | some failure => rw [found, Option.some_or] at both; exact both

theorem fails_throw (failure : Failure) : Fails assertions (throw failure) (some failure) :=
  fun service table => ⟨service, rfl, table⟩

/-- Storing a rule fails with the fault of its parts. -/
theorem fails_storeRule (kind : RuleKind) (roles resource privilege assertion : Value) :
    Fails assertions (storeRule kind roles resource privilege assertion)
      (storeFault? assertions roles resource assertion) := by
  intro service table
  rw [settle_storeRule, findAssertion_congr table, storeFault?]
  cases findAssertion { assertions } resource assertion with
  | error failure => exact ⟨service, rfl, table⟩
  | ok found =>
    cases resource.unhashable? with
    | some name => exact ⟨service, rfl, table⟩
    | none =>
      -- the resource has become known, and the table is the same
      have learned := (learn_assertions resource service).trans table
      cases readRoles roles with
      | error failure => exact ⟨_, rfl, learned⟩
      | ok texts => exact ⟨_, rfl, (push_assertions _ _ _).trans learned⟩

theorem fails_storeParts (kind : RuleKind) :
    ∀ parts, Fails assertions (storeParts kind parts) (partsFault? assertions parts)
  | [] | [_] | _ :: _ :: _ :: _ :: _ :: _ => fails_throw _
  | [roles, resource] => fails_storeRule kind roles resource .null .null
  | [roles, resource, privilege] => fails_storeRule kind roles resource privilege .null
  | [roles, resource, privilege, assertion] =>
    fails_storeRule kind roles resource privilege assertion

/-- Storing a positional rule fails with its fault. -/
theorem fails_storePositional (kind : RuleKind) (rule : Value) :
    Fails assertions (storePositional kind rule) (ruleFault? assertions rule) := by
  unfold storePositional ruleFault?
  cases rule.members? with
  | none => exact fails_throw _
  | some parts => exact fails_storeParts kind parts

/-- Storing a section fails with the first fault of its rules. -/
theorem fails_storeSection (kind : RuleKind) (rules : Value) :
    Fails assertions (storeSection kind rules) (sectionFault? assertions rules) := by
  unfold storeSection sectionFault?
  cases rules.members? with
  | none => exact fails_throw _
  | some items => exact fails_forM fun rule _ => fails_storePositional kind rule

/-- Resources that are words become known without fault. -/
theorem fails_addGuardResources (guard : Guard) :
    Fails assertions (addGuardResources guard) none := by
  have each : ∀ resource ∈ guard.resources,
      Fails assertions (addResource (.ofWord resource)) none := by
    intro resource _ service table
    rw [settle_addResource, Value.unhashable?_ofWord]
    exact ⟨_, rfl, (learn_assertions _ _).trans table⟩
  have all := fails_forM each
  rwa [List.findSome?_eq_none_iff.2 fun _ _ => rfl] at all

/-- Storing a guard fails with the first fault of its grants. -/
theorem fails_storeGuard (guard : Guard) :
    Fails assertions (storeGuard guard) (guard.positionalRules.findSome? (ruleFault? assertions)) :=
  fails_forM fun rule _ => fails_storePositional .allow rule

/-- **The grants of a guard** are never misshapen. -/
theorem isConfiguration_of_grant {guard : Guard} {rule : Value} (mem : rule ∈ guard.positionalRules)
    {failure : Failure} (fault : ruleFault? assertions rule = some failure) :
    failure.IsConfiguration := by
  obtain ⟨⟨roles, resource, assertion⟩, -, rfl⟩ := List.mem_map.1 mem
  -- roles are words, and so are the resource and the assertion if there is one
  have words (named : Option Word) (fault : storeFault? assertions (.ofWords roles)
      (.ofWord resource) (.ofWord? named) = some failure) : failure.IsConfiguration := by
    rcases isConfiguration_of_fault fault with configured | misshapen
    · exact configured
    · cases misshapen with
      | noMembers single => cases single
      | role several changes =>
        cases several
        rw [unhashableItem?_words] at changes
        cases changes
      | resource changes => rw [Value.unhashable?_ofWord] at changes; cases changes
      | assertion changes => cases named <;> simp [Value.unhashable?] at changes
      | long tooLong => cases named <;> simp [Value.holdsLong] at tooLong
  cases assertion with
  | none => exact words none fault
  | some name => exact words (some name) fault

end Service

end GuardedDispatch
