import GuardedDispatch.Proofs.Access.Building
import GuardedDispatch.Proofs.Asking

/-! # What a service decides

The decision of an authorization service, said without loops: a caller is allowed a resource iff
one of its roles has a stored rule that lets it in and none that keeps it out
(`Service.AllowsRole`).

* **Any question** (`decides_question`): the same for resources and privileges of every kind, for a
  service that knows what its rules are about.
* **Known resources** (`Service.Closed`): every stored rule is about a resource that the service
  knows, so refusing unknown resources at once refuses nothing that the rules would allow. The
  invariant is stable, hence holds of all reached services, those left by failing calls included.
* **No assertion raises** (`Assertions.Answer`): then every question returns
  (`returns_allowsRole`, `returns_isAllowed`). -/

namespace GuardedDispatch

/-- No assertion of a table **raises**. -/
def Assertions.Answer (assertions : Assertions) : Prop :=
  ∀ entry ∈ assertions, ∀ identity resource privilege,
    ∃ agrees, entry.2 identity resource privilege = .ok agrees

/-- A stored rule **applies** to a role that asks for a resource and, perhaps, a privilege. -/
structure StoredRule.Applies (rule : StoredRule) (identity : Option Identity) (resource : Word)
    (privilege : Option Word) (role : Word) : Prop where
  holds : role ∈ rule.roles
  about : rule.resource = .ofWord resource
  demands : rule.privilege = .null ∨ rule.privilege = .ofWord? privilege
  agrees : ∀ entry, rule.assertion = some entry →
    entry.2 identity (.ofWord resource) (.ofWord? privilege) = .ok true

/-- The roles that **count** for an identity: its own, or the default role alone if it has none. -/
def RoleCounts (identity : Option Identity) (defaultRole role : Word) : Prop :=
  match identity with
  | none => role = defaultRole
  | some identity => if identity.roles = [] then role = defaultRole else role ∈ identity.roles

/-- A caller has the roles that count. -/
theorem mem_roles_of {identity : Option Identity} {defaultRole role : Word} :
    role ∈ (Caller.of identity defaultRole).roles ↔ RoleCounts identity defaultRole role := by
  cases identity with
  | none => simp [Caller.of, RoleCounts]
  | some identity =>
    by_cases none : identity.roles = [] <;> simp [Caller.of, RoleCounts, none]

/-- A rule covers a question iff it names the role and the resource, and no other privilege. -/
theorem StoredRule.covers_iff {rule : StoredRule} {role : Word} {resource : Word}
    {privilege : Option Word} :
    rule.covers role (.ofWord resource) (.ofWord? privilege) = true ↔
      role ∈ rule.roles ∧ rule.resource = .ofWord resource ∧
        (rule.privilege = .null ∨ rule.privilege = .ofWord? privilege) := by
  -- a privilege is compared as a value, which may be nothing
  have same : (rule.privilege == Value.ofWord? privilege) = true ↔
      rule.privilege = .ofWord? privilege := by
    cases privilege with
    | none => exact Value.beq_null_iff
    | some word => exact Value.beq_ofWord_iff
  simp only [covers, Bool.and_eq_true, Bool.or_eq_true, List.contains_iff_mem, Value.ofWord_beq_iff,
    Value.isNull_iff, same, and_assoc]

namespace Service

/-- A role is **let in** by some rule that allows it and kept out by none that denies it. -/
def AllowsRole (service : Service) (identity : Option Identity) (resource : Word)
    (privilege : Option Word) (role : Word) : Prop :=
  (∃ rule ∈ service.allows, rule.Applies identity resource privilege role) ∧
    ¬ ∃ rule ∈ service.denies, rule.Applies identity resource privilege role

/-! ## Stored rules are about known resources -/

/-- The store is **closed**: it stores rules about text resources that it knows, and with assertions
of its table. -/
structure Closed (assertions : Assertions) (service : Service) : Prop where
  table : service.assertions = assertions
  knows : ∀ rule ∈ service.allows ++ service.denies, ∀ resource,
    rule.resource = .ofWord resource → service.knows (.ofWord resource) = true
  named : ∀ rule ∈ service.allows ++ service.denies, ∀ entry,
    rule.assertion = some entry → entry ∈ assertions

@[simp] theorem learn_assertions (resource : Value) (service : Service) :
    (service.learn resource).assertions = service.assertions := by
  unfold learn; split <;> rfl

@[simp] theorem learn_allows (resource : Value) (service : Service) :
    (service.learn resource).allows = service.allows := by
  unfold learn; split <;> rfl

@[simp] theorem learn_denies (resource : Value) (service : Service) :
    (service.learn resource).denies = service.denies := by
  unfold learn; split <;> rfl

/-- A service goes on knowing what it knew. -/
theorem knows_learn_of_knows {service : Service} {known : Value} (h : service.knows known = true)
    (resource : Value) : (service.learn resource).knows known = true := by
  unfold learn
  split
  · exact h
  · simp only [knows, List.any_append, Bool.or_eq_true]
    exact .inl h

/-- A text that was learned is known. -/
theorem knows_learn_self (service : Service) (resource : Word) :
    (service.learn (.ofWord resource)).knows (.ofWord resource) = true := by
  unfold learn
  split
  · assumption
  · simp [knows]

@[simp] theorem push_assertions (kind : RuleKind) (rule : StoredRule) (service : Service) :
    (service.push kind rule).assertions = service.assertions := by
  cases kind <;> rfl

@[simp] theorem knows_push (kind : RuleKind) (rule : StoredRule) (service : Service)
    (resource : Value) : (service.push kind rule).knows resource = service.knows resource := by
  cases kind <;> rfl

/-- The stored rules are those before and the one that was pushed. -/
theorem mem_rules_push {kind : RuleKind} {rule stored : StoredRule} {service : Service} :
    stored ∈ (service.push kind rule).allows ++ (service.push kind rule).denies ↔
      stored ∈ service.allows ++ service.denies ∨ stored = rule := by
  cases kind <;> simp [push, or_comm, or_left_comm]

/-- An assertion that was looked up is one of the table. -/
theorem mem_of_findAssertion {service : Service} {resource name : Value}
    {entry : String × Assertion} (found : service.findAssertion resource name = .ok (some entry)) :
    entry ∈ service.assertions := by
  unfold findAssertion at found
  split at found
  · cases found
  · cases unhashable : name.unhashable? with
    | some kind => rw [unhashable] at found; cases found
    | none =>
      rw [unhashable] at found
      cases search : service.assertions.find? (fun entry => name == .str entry.1) with
      | none =>
        rw [search] at found
        obtain ⟨_, -, found⟩ := exists_ok_of_bind found
        obtain ⟨_, -, found⟩ := exists_ok_of_bind found
        cases found
      | some other =>
        rw [search] at found
        cases found
        exact List.mem_of_find?_eq_some search

/-- **Closedness is stable.** -/
theorem stable_closed (assertions : Assertions) : Stable (Closed assertions) where
  learn resource closed :=
    { table := by rw [learn_assertions, closed.table]
      knows := fun rule mem text eq => by
        rw [learn_allows, learn_denies] at mem
        exact knows_learn_of_knows (closed.knows rule mem text eq) resource
      named := fun rule mem => by
        rw [learn_allows, learn_denies] at mem
        exact closed.named rule mem }
  push kind rule name closed found :=
    { table := by rw [push_assertions, learn_assertions, closed.table]
      knows := fun stored mem text eq => by
        rw [mem_rules_push, learn_allows, learn_denies] at mem
        rw [knows_push]
        -- the new rule is about a resource that has just been learned
        rcases mem with mem | rfl
        · exact knows_learn_of_knows (closed.knows stored mem text eq) rule.resource
        · rw [eq]
          exact knows_learn_self _ text
      named := fun stored mem entry eq => by
        rw [mem_rules_push, learn_allows, learn_denies] at mem
        rcases mem with mem | rfl
        · exact closed.named stored mem entry eq
        · rw [eq] at found
          exact closed.table ▸ mem_of_findAssertion found }

/-- **Every reached service is closed.** -/
theorem Reached.closed {assertions : Assertions} {service : Service}
    (reached : Reached assertions service) : Closed assertions service :=
  reached.of_stable (stable_closed assertions) ⟨rfl, by simp, by simp⟩

/-! ## Questions of any kind -/

end Service

/-- A stored rule **applies to a question** about values of any kind: it covers the question, and
its assertion, if it has one, agrees. -/
structure StoredRule.AppliesTo (rule : StoredRule) (identity : Option Identity)
    (resource privilege : Value) (role : Word) : Prop where
  covers : rule.covers role resource privilege = true
  agrees : ∀ entry, rule.assertion = some entry → entry.2 identity resource privilege = .ok true

/-- Where texts are asked about, that is to apply. -/
theorem StoredRule.appliesTo_iff {rule : StoredRule} {identity : Option Identity}
    {resource : Word} {privilege : Option Word} {role : Word} :
    rule.AppliesTo identity (.ofWord resource) (.ofWord? privilege) role ↔
      rule.Applies identity resource privilege role := by
  constructor
  · rintro ⟨covers, agrees⟩
    obtain ⟨holds, about, demands⟩ := StoredRule.covers_iff.1 covers
    exact ⟨holds, about, demands, agrees⟩
  · rintro ⟨holds, about, demands, agrees⟩
    exact ⟨StoredRule.covers_iff.2 ⟨holds, about, demands⟩, agrees⟩

namespace Service

/-- Some rule of the service applies to a question for a role and allows it, and none denies it. -/
def Permits (service : Service) (identity : Option Identity) (resource privilege : Value)
    (role : Word) : Prop :=
  (∃ rule ∈ service.allows, rule.AppliesTo identity resource privilege role) ∧
    ¬ ∃ rule ∈ service.denies, rule.AppliesTo identity resource privilege role

/-- The assertions of all stored rules are **entries** of a table. -/
def Draws (service : Service) (assertions : Assertions) : Prop :=
  ∀ rule ∈ service.allows ++ service.denies, ∀ entry,
    rule.assertion = some entry → entry ∈ assertions

section

variable {assertions : Assertions} {service : Service} {identity : Option Identity}
  {resource privilege : Value}

/-- **Asking a stored rule** decides whether it applies. -/
theorem decides_appliesTo (answer : assertions.Answer) {rule : StoredRule}
    (named : ∀ entry, rule.assertion = some entry → entry ∈ assertions) (role : Word) :
    (rule.applies identity resource privilege role).Decides
      (rule.AppliesTo identity resource privilege role) := by
  unfold StoredRule.applies
  by_cases covers : rule.covers role resource privilege = true
  · rw [if_pos covers]
    cases found : rule.assertion with
    | none =>
      refine (Asking.decides_pure true).congr ⟨fun _ => ⟨covers, ?_⟩, fun _ => rfl⟩
      rintro entry eq
      rw [found] at eq
      cases eq
    | some entry =>
      -- the assertion is one of the table, so it does not raise
      obtain ⟨agrees, ok⟩ := answer entry (named entry found) identity resource privilege
      refine ⟨agrees, Asking.returns_bind (Asking.returns_note rfl) (Asking.returns_liftM ok), ?_⟩
      constructor
      · rintro rfl
        exact ⟨covers, fun other eq => Option.some.inj (found.symm.trans eq) ▸ ok⟩
      · intro applies
        simpa [ok] using applies.agrees entry found
  · rw [if_neg covers]
    refine (Asking.decides_pure false).congr ⟨fun absurd => by simp at absurd, fun applies => ?_⟩
    exact absurd applies.covers covers

/-- **Asking for one role** decides whether the rules permit it. -/
theorem decides_permits (answer : assertions.Answer) (draws : service.Draws assertions)
    (role : Word) :
    (service.allowsRole identity resource privilege role).Decides
      (service.Permits identity resource privilege role) := by
  have denied : (service.denies.anyM fun rule : StoredRule =>
      rule.applies identity resource privilege role).Decides
      (∃ rule ∈ service.denies, rule.AppliesTo identity resource privilege role) :=
    Asking.decides_anyM fun rule mem =>
      decides_appliesTo answer (draws rule (List.mem_append_right _ mem)) role
  have allowed : (service.allows.anyM fun rule : StoredRule =>
      rule.applies identity resource privilege role).Decides
      (∃ rule ∈ service.allows, rule.AppliesTo identity resource privilege role) :=
    Asking.decides_anyM fun rule mem =>
      decides_appliesTo answer (draws rule (List.mem_append_left _ mem)) role
  -- the rules that allow are asked only where none denies
  refine Asking.decides_bind denied (fun keptOut => ?_) (fun free => ?_)
  · exact (Asking.decides_pure false).congr (by simp [Permits, keptOut])
  · exact allowed.congr (by simp only [Permits, free, not_false_eq_true, and_true])

/-- **Asking a service** about a resource that can be known decides whether one of the caller's
roles is permitted, if the service knows what its rules are about. -/
theorem decides_question (answer : assertions.Answer) (draws : service.Draws assertions)
    (hashable : resource.unhashable? = none)
    (knows : ∀ rule ∈ service.allows, (resource == rule.resource) = true →
      service.knows resource = true) (caller : Caller) :
    (service.isAllowed caller resource privilege).Decides
      (∃ role ∈ caller.roles, service.Permits caller.identity resource privilege role) := by
  unfold isAllowed
  rw [hashable]
  by_cases known : service.knows resource = true
  · simp only [known, if_true]
    exact Asking.decides_anyM fun role _ => decides_permits answer draws role
  · -- no rule is about a resource that is not known
    simp only [known]
    refine (Asking.decides_pure false).congr ⟨fun absurd => by simp at absurd, ?_⟩
    rintro ⟨role, -, ⟨rule, mem, applies⟩, -⟩
    have covers := applies.covers
    simp only [StoredRule.covers, Bool.and_eq_true] at covers
    exact absurd (knows rule mem covers.1.2) known

end

/-! ## Decisions -/

section

variable {assertions : Assertions} {service : Service} {identity : Option Identity}
  {resource : Word} {privilege : Option Word}

/-- Where texts are asked about, to permit is to let in. -/
theorem permits_iff {role : Word} :
    service.Permits identity (.ofWord resource) (.ofWord? privilege) role ↔
      service.AllowsRole identity resource privilege role := by
  simp only [Permits, AllowsRole, StoredRule.appliesTo_iff]

/-- **Asking for one role** decides whether the rules let it in. -/
theorem decides_allowsRole (answer : assertions.Answer) (closed : Closed assertions service)
    (role : Word) :
    (service.allowsRole identity (.ofWord resource) (.ofWord? privilege) role).Decides
      (service.AllowsRole identity resource privilege role) :=
  (decides_permits answer closed.named role).congr permits_iff

/-- **Going through the roles** decides whether one of them is let in. -/
theorem decides_roles (answer : assertions.Answer) (closed : Closed assertions service)
    (roles : List Word) :
    (roles.anyM (service.allowsRole identity (.ofWord resource) (.ofWord? privilege))).Decides
      (∃ role ∈ roles, service.AllowsRole identity resource privilege role) :=
  Asking.decides_anyM fun role _ => decides_allowsRole answer closed role

/-- **Asking a service** decides whether one of the caller's roles is let in; that unknown resources
are refused at once changes nothing, because the store is closed. -/
theorem decides_isAllowed (answer : assertions.Answer) (closed : Closed assertions service)
    (caller : Caller) :
    (service.isAllowed caller (.ofWord resource) (.ofWord? privilege)).Decides
      (∃ role ∈ caller.roles, service.AllowsRole caller.identity resource privilege role) := by
  have knows : ∀ rule ∈ service.allows, (Value.ofWord resource == rule.resource) = true →
      service.knows (.ofWord resource) = true := by
    intro rule mem about
    exact closed.knows rule (List.mem_append_left _ mem) resource (Value.ofWord_beq_iff.1 about)
  have decides : (service.isAllowed caller (.ofWord resource) (.ofWord? privilege)).Decides _ :=
    decides_question answer closed.named (Value.unhashable?_ofWord resource) knows caller
  exact decides.congr (by simp only [permits_iff])

/-- **What a service allows**, some stored rule allows, whatever the assertions do. -/
theorem ensures_isAllowed (service : Service) (caller : Caller) (resource privilege : Value) :
    Ensures (service.isAllowed caller resource privilege) fun allowed => allowed = true →
      ∃ rule ∈ service.allows, (resource == rule.resource) = true := by
  have asks (role : Word) : Ensures (service.allowsRole caller.identity resource privilege role)
      fun allowed => allowed = true →
        ∃ rule ∈ service.allows, (resource == rule.resource) = true := by
    refine ensures_bind (ensures_true _) fun denied _ => ?_
    cases denied with
    | true => exact ensures_pure (by simp)
    | false =>
      refine ensures_anyM fun rule _ => ?_
      unfold StoredRule.applies
      by_cases covers : rule.covers role resource privilege = true
      · -- the rule is about the resource whether its assertion agrees or not
        have about : (resource == rule.resource) = true := by
          simp only [StoredRule.covers, Bool.and_eq_true] at covers
          exact covers.1.2
        intro _ _ _ _ _
        exact about
      · rw [if_neg covers]
        exact ensures_pure (by simp)
  unfold isAllowed
  cases resource.unhashable? with
  | some kind =>
    rintro calls allowed after ⟨⟩
  | none =>
    show Ensures (if service.knows resource = true then _ else _) _
    split
    · intro calls allowed after eq yes
      obtain ⟨role, -, found⟩ := ensures_anyM (fun role _ => asks role) calls allowed after eq yes
      exact found
    · exact ensures_pure (by simp)

/-- Two services **store the same rules**, in any order and any number of times. -/
structure SameRules (service other : Service) : Prop where
  allows : ∀ rule, rule ∈ service.allows ↔ rule ∈ other.allows
  denies : ∀ rule, rule ∈ service.denies ↔ rule ∈ other.denies

/-- The same rules let in the same roles. -/
theorem SameRules.allowsRole_iff {other : Service} (same : SameRules service other)
    {role : Word} : service.AllowsRole identity resource privilege role ↔
      other.AllowsRole identity resource privilege role := by
  simp only [AllowsRole, same.allows, same.denies]

/-- **The decision of a service.** However a service was built, by calls that succeeded and calls
that failed, it allows a caller a resource iff one of the roles that count is let in by a stored
rule and kept out by none. Refusing unknown resources at once does not change the decision, and
neither does the order in which rules are stored and roles are gone through, nor how often. -/
theorem isAllowed_iff_exists_role (reached : Reached assertions service)
    (answer : assertions.Answer) (identity : Option Identity) (defaultRole : Word)
    (resource : Word) (privilege : Option Word) :
    ∃ allowed : Bool,
      (service.isAllowed (.of identity defaultRole) (.ofWord resource)
        (.ofWord? privilege)).outcome.1 = .ok allowed ∧
      (allowed = true ↔ ∃ role, RoleCounts identity defaultRole role ∧
        (∃ rule ∈ service.allows, rule.Applies identity resource privilege role) ∧
        ¬ ∃ rule ∈ service.denies, rule.Applies identity resource privilege role) ∧
      ((Caller.of identity defaultRole).roles.anyM (service.allowsRole identity (.ofWord resource)
        (.ofWord? privilege))).outcome.1 = .ok allowed ∧
      ∀ (other : Service) (roles : List Word), Reached assertions other →
        SameRules service other → (∀ role, role ∈ roles ↔ RoleCounts identity defaultRole role) →
        (other.isAllowed ⟨identity, roles⟩ (.ofWord resource) (.ofWord? privilege)).outcome.1 =
          .ok allowed := by
  obtain ⟨allowed, returns, iff⟩ : (service.isAllowed (.of identity defaultRole) (.ofWord resource)
      (.ofWord? privilege)).Decides _ := decides_isAllowed answer reached.closed _
  simp only [mem_roles_of] at iff
  refine ⟨allowed, returns.outcome, iff, ?_, ?_⟩
  · -- the loop over the roles alone decides the same proposition
    obtain ⟨looped, returns', iff'⟩ : ((Caller.of identity defaultRole).roles.anyM
        (service.allowsRole identity (.ofWord resource) (.ofWord? privilege))).Decides _ :=
      decides_roles answer reached.closed _
    simp only [mem_roles_of] at iff'
    rw [returns'.outcome, Bool.eq_iff_iff.2 (iff'.trans iff.symm)]
  · -- and so does any other service with these rules, over any list of these roles
    intro other roles reached' same sameRoles
    obtain ⟨decided, returns', iff'⟩ : (other.isAllowed ⟨identity, roles⟩ (.ofWord resource)
        (.ofWord? privilege)).Decides _ := decides_isAllowed answer reached'.closed _
    simp only [sameRoles, ← same.allowsRole_iff] at iff'
    rw [returns'.outcome, Bool.eq_iff_iff.2 (iff'.trans iff.symm)]

/-- An editor is allowed what only editors with a subject are, although the next call failed. -/
theorem isAllowed_iff_exists_role_editor :
    let table : Assertions := [("owner", fun identity _ _ => .ok identity.isSome)]
    let stored := (({ assertions := table } : Service).build (BuildCall.store .allow (.str "editor")
      (.str "controller/pages") .null (.str "owner")).steps).2
    let service := (stored.build (BuildCall.store .deny (.str "editor") (.str "controller/pages")
      .null (.str "missing")).steps).2
    Reached table service ∧ table.Answer ∧
      (service.isAllowed (.of (some ⟨"ada", ["editor"]⟩) "guest") (.ofWord "controller/pages")
        (.ofWord? none)).outcome.1 = .ok true := by
  intro table stored service
  have reached : Reached table service := .call _ (.call _ .new)
  have answer : table.Answer := by
    intro entry mem identity resource privilege
    rw [List.mem_singleton] at mem
    exact ⟨identity.isSome, by rw [mem]⟩
  refine ⟨reached, answer, ?_⟩
  obtain ⟨allowed, ok, iff, -⟩ := isAllowed_iff_exists_role reached answer
    (some ⟨"ada", ["editor"]⟩) "guest" "controller/pages" none
  rw [ok, iff.2]
  have allows : service.allows = [⟨["editor"], .str "controller/pages", .null, table.head?⟩] := by
    rfl
  have denies : service.denies = [] := by rfl
  refine ⟨"editor", by simp [RoleCounts], ?_, by simp [denies]⟩
  rw [allows]
  refine ⟨_, List.mem_singleton_self _, by simp, rfl, .inl rfl, ?_⟩
  rintro entry ⟨⟩
  rfl

end

end Service

end GuardedDispatch
