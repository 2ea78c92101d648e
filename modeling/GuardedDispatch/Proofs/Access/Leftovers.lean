import GuardedDispatch.Proofs.Access.Interference
import GuardedDispatch.Proofs.Sameness

/-! # What a failing call leaves behind

Loading rules stops at the first that cannot be stored. The rules before it stay stored, and of the
failing one no more is left than its resource, which may have become known.

* **`Service.Grounded`**: whatever counts as the resource of a stored rule is known. So looking the
  resource up first decides nothing (`Grounded.isAllowed_eq`), and services that store the same
  rules decide alike, whatever else they know (`SameStore.isAllowed_eq`).
* **`Service.SameStore`**: this relation is carried on by building, so that what a failing call left
  behind is not found by any later decision either (`decides_prefix`). -/

namespace GuardedDispatch

/-- A list of positional rules to allow and one to deny, as a **map of rules**. -/
def Value.ofRuleLists (allows denies : List Value) : Value :=
  .map [(.str RuleKind.allow.word, .list allows), (.str RuleKind.deny.word, .list denies)]

namespace Service

variable {assertions : Assertions} {service other : Service} {resource : Value}

/-! ## Known resources -/

/-- A service is **grounded**: it knows whatever is the same as the resource of a stored rule. -/
def Grounded (service : Service) : Prop :=
  ∀ rule ∈ service.allows ++ service.denies, ∀ resource : Value,
    (resource == rule.resource) = true → service.knows resource = true

/-- Whatever is the same as what was learned is known. -/
theorem knows_learn_of_beq {learned : Value} (same : (resource == learned) = true)
    (service : Service) : (service.learn learned).knows resource = true := by
  unfold learn
  split
  · -- what was learned was known already, as something that it is the same as
    rename_i known
    obtain ⟨found, mem, same'⟩ := List.any_eq_true.1 known
    exact List.any_eq_true.2 ⟨found, mem, Value.beq_trans same same'⟩
  · simp only [knows, List.any_append, List.any_cons, List.any_nil, same, Bool.true_or,
      Bool.or_true]

/-- **Groundedness is stable.** -/
theorem stable_grounded : Stable Grounded where
  learn learned grounded rule mem resource same := by
    rw [learn_allows, learn_denies] at mem
    exact knows_learn_of_knows (grounded rule mem resource same) learned
  push kind rule name grounded _ stored mem resource same := by
    rw [mem_rules_push, learn_allows, learn_denies] at mem
    rw [knows_push]
    rcases mem with mem | rfl
    · exact knows_learn_of_knows (grounded stored mem resource same) rule.resource
    · exact knows_learn_of_beq same _

/-- **Every reached service is grounded.** -/
theorem Reached.grounded (reached : Reached assertions service) : Grounded service :=
  reached.of_stable stable_grounded (by simp [Grounded])

/-- Calls lead from a reached service to a reached one. -/
theorem Reached.after (reached : Reached assertions service) (calls : List BuildCall) :
    Reached assertions (service.after calls) := by
  induction calls generalizing service with
  | nil => exact reached
  | cons call rest ih => exact ih (reached.call call)

/-- Where no rule is about a resource, no role is allowed it, and no assertion is asked. -/
theorem allowsRole_of_other
    (others : ∀ rule ∈ service.allows ++ service.denies, rule.AboutOther resource)
    (identity : Option Identity) (privilege : Value) (role : Word) :
    service.allowsRole identity resource privilege role = pure false := by
  have allows : Interspersed (StoredRule.AboutOther resource) [] service.allows :=
    Interspersed.of_forall fun rule mem => others rule (List.mem_append_left _ mem)
  have denies : Interspersed (StoredRule.AboutOther resource) [] service.denies :=
    Interspersed.of_forall fun rule mem => others rule (List.mem_append_right _ mem)
  -- the service extends the one that stores nothing
  have beyond : Extends resource { resources := service.resources } service :=
    ⟨allows, denies, rfl⟩
  rw [beyond.allowsRole_eq]
  rfl

/-- **Asking a grounded service** is going through the roles, whether the resource is known or
not. -/
theorem Grounded.isAllowed_eq (grounded : service.Grounded)
    (hashable : resource.unhashable? = none) (caller : Caller) (privilege : Value) :
    service.isAllowed caller resource privilege =
      caller.roles.anyM (service.allowsRole caller.identity resource privilege) := by
  unfold isAllowed
  rw [hashable]
  by_cases known : service.knows resource = true
  · simp only [known, if_true]
  · -- no rule is about a resource that is not known, so that each role is refused
    have others : ∀ rule ∈ service.allows ++ service.denies, rule.AboutOther resource := by
      intro rule mem
      exact eq_false_of_ne_true fun same => known (grounded rule mem resource same)
    have refuses (role : Word) (_ : True) :
        service.allowsRole caller.identity resource privilege role = pure false :=
      allowsRole_of_other others caller.identity privilege role
    have none : Interspersed (fun _ => True) [] caller.roles :=
      Interspersed.of_forall fun _ _ => trivial
    rw [none.anyM_eq refuses]
    simp only [known]
    rfl

/-! ## The same store -/

/-- Two services have **the same store**: their rules and their tables are the same, in order. They
may know different resources. -/
structure SameStore (service other : Service) : Prop where
  table : other.assertions = service.assertions
  allows : other.allows = service.allows
  denies : other.denies = service.denies

/-- A service has the same store as itself. -/
theorem SameStore.refl (service : Service) : SameStore service service := ⟨rfl, rfl, rfl⟩

/-- Learning leaves the store as it is. -/
theorem sameStore_learn (resource : Value) (service : Service) :
    SameStore service (service.learn resource) :=
  ⟨learn_assertions _ _, learn_allows _ _, learn_denies _ _⟩

/-- **The same store decides alike**, whatever the services know. -/
theorem SameStore.isAllowed_eq (same : SameStore service other) (grounded : service.Grounded)
    (grounded' : other.Grounded) (caller : Caller) (resource privilege : Value) :
    other.isAllowed caller resource privilege = service.isAllowed caller resource privilege := by
  cases hashable : resource.unhashable? with
  | some kind =>
    -- neither can be asked
    unfold isAllowed
    rw [hashable]
    rfl
  | none =>
    have asks : other.allowsRole caller.identity resource privilege =
        service.allowsRole caller.identity resource privilege := by
      funext role
      unfold allowsRole
      rw [same.allows, same.denies]
    rw [grounded.isAllowed_eq hashable, grounded'.isAllowed_eq hashable, asks]

/-- Building carries on that two services have the same store. -/
theorem carried_sameStore : Carried SameStore where
  table same := same.table
  learn resource same :=
    { table := by rw [learn_assertions, learn_assertions, same.table]
      allows := by rw [learn_allows, learn_allows, same.allows]
      denies := by rw [learn_denies, learn_denies, same.denies] }
  push kind rule same := by
    obtain ⟨table, allows, denies⟩ := same
    cases kind with
    | allow => exact ⟨table, by simp only [push, allows], denies⟩
    | deny => exact ⟨table, allows, by simp only [push, denies]⟩

/-- Services of one store have one after the same calls. -/
theorem SameStore.after (same : SameStore service other) (calls : List BuildCall) :
    SameStore (service.after calls) (other.after calls) := by
  induction calls generalizing service other with
  | nil => exact same
  | cons call rest ih => exact ih (couples_call carried_sameStore call service other same).2

/-- **Reached services of one store** decide alike, also after any further calls. -/
theorem SameStore.isAllowed_after_eq (same : SameStore service other)
    (reached : Reached assertions service) (reached' : Reached assertions other)
    (calls : List BuildCall) (caller : Caller) (resource privilege : Value) :
    (other.after calls).isAllowed caller resource privilege =
      (service.after calls).isAllowed caller resource privilege :=
  (same.after calls).isAllowed_eq (reached.after calls).grounded (reached'.after calls).grounded
    caller resource privilege

/-! ## Failing -/

/-- **A rule that cannot be stored** leaves the store as it is. -/
theorem sameStore_of_storeRule_error {kind : RuleKind} {roles resource privilege assertion : Value}
    {failure : Failure} {left : Service}
    (failed : settle (storeRule kind roles resource privilege assertion) service =
      (.error failure, left)) : SameStore service left := by
  rw [settle_storeRule] at failed
  cases found : service.findAssertion resource assertion with
  | error other =>
    rw [found] at failed
    cases failed
    exact .refl service
  | ok entry =>
    cases changes : resource.unhashable? with
    | some name =>
      rw [found, changes] at failed
      cases failed
      exact .refl service
    | none =>
      cases read : readRoles roles with
      | error other =>
        -- the one way to fail when the resource has become known
        rw [found, changes, read] at failed
        cases failed
        exact sameStore_learn resource service
      | ok texts =>
        rw [found, changes, read] at failed
        cases failed

/-- And so does a positional rule that cannot be stored. -/
theorem sameStore_of_storePositional_error {kind : RuleKind} {rule : Value} {failure : Failure}
    {left : Service}
    (failed : settle (storePositional kind rule) service = (.error failure, left)) :
    SameStore service left := by
  rcases storePositional_cases kind rule with ⟨other, eq⟩ | ⟨roles, resource, privilege,
    assertion, eq⟩
  · rw [eq] at failed
    cases failed
    exact .refl service
  · rw [eq] at failed
    exact sameStore_of_storeRule_error failed

/-- The lists of a map are gone through one after the other. -/
theorem storeRules_eq {rules : Value} {fields : Fields} {allows denies : List Value}
    (isMap : rules.fields? = some fields)
    (isAllows : ((Value.field? fields RuleKind.allow.word).getD (.list [])).members? = some allows)
    (isDenies : ((Value.field? fields RuleKind.deny.word).getD (.list [])).members? = some denies) :
    storeRules rules = (do
      allows.forM (storePositional .allow)
      denies.forM (storePositional .deny)) := by
  simp only [storeRules, isMap, storeFields, storeSection, isAllows, isDenies]

/-- **The rules before the failing one** in the order of loading: all that allow, then those that
deny. They are stored, and the store is left as they made it. -/
theorem exists_prefix_of_error {allows denies : List Value} {failure : Failure} {left : Service}
    (failed : settle (do
      allows.forM (storePositional .allow)
      denies.forM (storePositional .deny)) service = (.error failure, left)) :
    ∃ n kind rule extended, (allows ++ denies)[n]? = some rule ∧
      settle (do
        (allows.take n).forM (storePositional .allow)
        (denies.take (n - allows.length)).forM (storePositional .deny)) service =
          (.ok (), extended) ∧
      settle (storePositional kind rule) extended = (.error failure, left) := by
  rcases first : settle (allows.forM (storePositional .allow)) service with
    ⟨other | ⟨⟩, between⟩
  · rw [settle_bind_of_error first] at failed
    cases failed
    obtain ⟨before, rule, behind, middle, rfl, done, fails⟩ := exists_of_settle_forM_error first
    -- none of the rules that deny has been reached
    refine ⟨before.length, .allow, rule, middle, by simp, ?_, fails⟩
    have none : before.length - (before ++ rule :: behind).length = 0 := by simp
    rw [List.take_left, none, List.take_zero, settle_bind_of_ok done]
    rfl
  · rw [settle_bind_of_ok first] at failed
    obtain ⟨before, rule, behind, middle, rfl, done, fails⟩ := exists_of_settle_forM_error failed
    refine ⟨allows.length + before.length, .deny, rule, middle, ?_, ?_, fails⟩
    · rw [List.getElem?_append_right (Nat.le_add_right _ _)]
      simp
    · rw [List.take_of_length_le (Nat.le_add_right _ _), Nat.add_sub_cancel_left, List.take_left,
        settle_bind_of_ok first, done]

/-- **What a failing call leaves behind.** If loading a map of rules fails at a rule, for whatever
reason, the service decides every question, now and after any further calls, like one that loaded
the rules before it, in the order of all that allow and then all that deny. If storing a single rule
fails, the service decides like before. Assertions that raise and questions that cannot be asked
make no difference. -/
theorem decides_prefix (reached : Reached assertions service) :
    (∀ (rules : Value) (fields : Fields) (allows denies : List Value),
      rules.fields? = some fields →
      ((Value.field? fields RuleKind.allow.word).getD (.list [])).members? = some allows →
      ((Value.field? fields RuleKind.deny.word).getD (.list [])).members? = some denies →
      ∀ (failure : Failure) (left : Service),
        service.build (storeRules rules) = (.error failure, left) →
        ∃ n rule extended, (allows ++ denies)[n]? = some rule ∧
          ruleFault? assertions rule = some failure ∧
          service.build (storeRules (.ofRuleLists (allows.take n)
            (denies.take (n - allows.length)))) = (.ok (), extended) ∧
          ∀ (calls : List BuildCall) (caller : Caller) (resource privilege : Value),
            (left.after calls).isAllowed caller resource privilege =
              (extended.after calls).isAllowed caller resource privilege) ∧
    ∀ (kind : RuleKind) (roles about demands assertion : Value) (failure : Failure)
      (left : Service),
      service.build (storeRule kind roles about demands assertion) = (.error failure, left) →
      ∀ (calls : List BuildCall) (caller : Caller) (resource privilege : Value),
        (left.after calls).isAllowed caller resource privilege =
          (service.after calls).isAllowed caller resource privilege := by
  constructor
  · intro rules fields allows denies isMap isAllows isDenies failure left failed
    have stops : settle (storeRules rules) service = (.error failure, left) := failed
    rw [storeRules_eq isMap isAllows isDenies] at stops
    obtain ⟨n, kind, rule, extended, isRule, loads, fails⟩ := exists_prefix_of_error stops
    have loaded : service.build (storeRules (.ofRuleLists (allows.take n)
        (denies.take (n - allows.length)))) = (.ok (), extended) := loads
    have isLeft : left = (service.build (storeRules rules)).2 := by rw [failed]
    have isExtended : extended = (service.build (storeRules (.ofRuleLists (allows.take n)
        (denies.take (n - allows.length))))).2 := by rw [loaded]
    have reachedLeft : Reached assertions left := isLeft ▸ reached.call (.load rules)
    have reachedExtended : Reached assertions extended := isExtended ▸ reached.call (.load _)
    refine ⟨n, rule, extended, isRule, ?_, loaded, ?_⟩
    · obtain ⟨after, settled, -⟩ :=
        fails_storePositional kind rule extended reachedExtended.closed.table
      rw [fails] at settled
      exact resultOf_eq_error_iff.1 (congrArg Prod.fst settled).symm
    · exact (sameStore_of_storePositional_error fails).isAllowed_after_eq reachedExtended
        reachedLeft
  · intro kind roles about demands assertion failure left failed
    have isLeft : left = (service.build (storeRule kind roles about demands assertion)).2 := by
      rw [failed]
    have reachedLeft : Reached assertions left :=
      isLeft ▸ reached.call (.store kind roles about demands assertion)
    exact (sameStore_of_storeRule_error failed).isAllowed_after_eq reached reachedLeft

/-- The second rule fails after its resource has become known. Guests are let in at home by the rule
before it, although a rule behind it would keep them out. -/
theorem decides_prefix_home :
    let home : Value := .list [.str "guest", .str "home"]
    let failing : Value := .list [.int 5, .str "other"]
    let allows : List Value := [home, failing, .list [.str "guest", .str "other"]]
    let rules : Value := .ofRuleLists allows [home]
    let left := (({} : Service).build (storeRules rules)).2
    Reached [] {} ∧ rules.fields? = some
        [(.str "allow", .list allows), (.str "deny", .list [home])] ∧
      ({} : Service).build (storeRules rules) = (.error (.type (.notIterable "int")), left) ∧
      left.knows (.str "other") = true ∧
      (∃ n rule extended, (allows ++ [home])[n]? = some rule ∧
        ruleFault? [] rule = some (.type (.notIterable "int")) ∧
        ({} : Service).build (storeRules (.ofRuleLists (allows.take n)
          ([home].take (n - allows.length)))) = (.ok (), extended) ∧
        (left.isAllowed (.of none "guest") (.str "home") .null).outcome.1 = .ok true ∧
        (extended.isAllowed (.of none "guest") (.str "home") .null).outcome.1 = .ok true) ∧
      ({} : Service).build (storeRule .allow (.int 5) (.str "other") .null .null) =
        (.error (.type (.notIterable "int")), { resources := [.str "other"] }) ∧
      ∀ caller : Caller,
        ({ resources := [.str "other"] } : Service).isAllowed caller (.str "other") .null =
          ({} : Service).isAllowed caller (.str "other") .null := by
  intro home failing allows rules left
  have reached : Reached [] {} := .new
  have isMap : rules.fields? = some [(.str "allow", .list allows), (.str "deny", .list [home])] :=
    rfl
  have failed : ({} : Service).build (storeRules rules) =
      (.error (.type (.notIterable "int")), left) := rfl
  have failed' : ({} : Service).build (storeRule .allow (.int 5) (.str "other") .null .null) =
      (.error (.type (.notIterable "int")), { resources := [.str "other"] }) := rfl
  obtain ⟨loads, stores⟩ := decides_prefix reached
  obtain ⟨n, rule, extended, isRule, fault, loaded, same⟩ :=
    loads rules _ allows [home] isMap rfl rfl _ left failed
  have letsIn : (left.isAllowed (.of none "guest") (.str "home") .null).outcome.1 = .ok true := rfl
  refine ⟨reached, isMap, failed, rfl, ⟨n, rule, extended, isRule, fault, loaded, letsIn, ?_⟩,
    failed', fun caller => stores _ _ _ _ _ _ _ failed' [] caller _ _⟩
  have alike : left.isAllowed (.of none "guest") (.str "home") .null =
      extended.isAllowed (.of none "guest") (.str "home") .null := same [] _ _ _
  rw [← alike]
  exact letsIn

end Service

end GuardedDispatch
