import GuardedDispatch.Proofs.Access.Decision

/-! # Services loaded with guards

A service stores the grants of a guard as they stand in its positional rules, each as one rule that
allows. What the service then decides is read off the grants (`decides_ofGuards`): the positions of
a rule, with its assertion or without, are gone. -/

namespace GuardedDispatch

/-- The **entry** of a name in a table of assertions. -/
def Assertions.entry? (assertions : Assertions) (name : Word) : Option (String × Assertion) :=
  assertions.find? (name == .text ·.1)

/-- A table of assertions **covers** grants: it has an entry for every name that they use. -/
def Assertions.Cover (assertions : Assertions) (grants : List Grant) : Prop :=
  ∀ grant ∈ grants, ∀ name, grant.assertion = some name → (assertions.entry? name).isSome = true

/-- What covers grants covers each of them. -/
theorem Assertions.Cover.single {assertions : Assertions} {grants : List Grant} {grant : Grant}
    (covers : assertions.Cover grants) (mem : grant ∈ grants) : assertions.Cover [grant] :=
  List.forall_mem_singleton.2 (covers grant mem)

/-- The assertion of a name **agrees** that an identity may access a resource. -/
def Assertions.Agree (assertions : Assertions) (name : Word) (identity : Option Identity)
    (resource : Word) : Prop :=
  ∃ entry, assertions.entry? name = some entry ∧
    entry.2 identity (.ofWord resource) .null = .ok true

/-- The rule that a service **stores** for a grant. -/
def Grant.stored (assertions : Assertions) (grant : Grant) : StoredRule :=
  ⟨grant.roles, .ofWord grant.resource, .null, grant.assertion.bind assertions.entry?⟩

/-- A grant **lets** a caller **in**: it names one of the roles that count and the resource, and its
assertion, if it has one, agrees. -/
structure Grant.LetsIn (assertions : Assertions) (identity : Option Identity) (defaultRole : Word)
    (grant : Grant) (resource : Word) : Prop where
  holds : ∃ role ∈ grant.roles, RoleCounts identity defaultRole role
  about : grant.resource = resource
  agrees : ∀ name, grant.assertion = some name → assertions.Agree name identity resource

namespace Service

variable {assertions : Assertions} {identity : Option Identity} {defaultRole : Word}

/-! ## Storing grants -/

/-- Words can all be members of a set. -/
theorem unhashableItem?_words (words : List Word) :
    Value.unhashableItem? (words.map .ofWord) = none := by
  induction words with
  | nil => rfl
  | cons word rest ih =>
    rw [List.map_cons, Value.unhashableItem?, Value.unhashable?_ofWord, ih]
    rfl

/-- Roles that are given as words are read as these. -/
theorem readRoles_ofWords (roles : List Word) : readRoles (.ofWords roles) = .ok roles := by
  have same : Value.word? ∘ Value.ofWord = some := funext Value.word?_ofWord
  simp only [readRoles, Value.ofWords, Value.members?_list, unhashableItem?_words,
    List.filterMap_map, same, List.filterMap_some]

/-- Without a name, no assertion is looked up. -/
theorem findAssertion_null (service : Service) (resource : Value) :
    service.findAssertion resource .null = .ok none := rfl

/-- The assertion of a name is its entry in the table. -/
theorem findAssertion_ofWord {service : Service} {name : Word} {entry : String × Assertion}
    (found : service.assertions.entry? name = some entry) (resource : Value) :
    service.findAssertion resource (.ofWord name) = .ok (some entry) := by
  have search : service.assertions.find? (fun entry => Value.ofWord name == .str entry.1) =
      some entry := by
    rw [← found]
    simp only [← Value.ofWord_text, Value.beq_ofWord, Assertions.entry?]
  unfold findAssertion
  split
  · next absent => exact absurd absent (Value.ofWord_ne_null name)
  · rw [Value.unhashable?_ofWord, search]
    rfl

/-- **Storing a grant** stores its rule behind all others. -/
theorem settle_storeGrant {service : Service} {grant : Grant}
    (covers : service.assertions.Cover [grant]) :
    settle (storePositional .allow (.list grant.positional)) service =
      (.ok (), push .allow (grant.stored service.assertions)
        (service.learn (.ofWord grant.resource))) := by
  obtain ⟨roles, resource, assertion⟩ := grant
  -- the positional form has two parts, or four if there is an assertion
  cases assertion with
  | none =>
    show settle (storeRule .allow (.ofWords roles) (.ofWord resource) .null .null) service = _
    rw [settle_storeRule, findAssertion_null, Value.unhashable?_ofWord, readRoles_ofWords]
    rfl
  | some name =>
    have isSome := covers _ (List.mem_singleton_self _) name rfl
    obtain ⟨entry, found⟩ := Option.isSome_iff_exists.1 isSome
    show settle (storeRule .allow (.ofWords roles) (.ofWord resource) .null (.ofWord name))
      service = _
    rw [settle_storeRule, findAssertion_ofWord found, Value.unhashable?_ofWord, readRoles_ofWords]
    simp only [Grant.stored, Option.bind_some, found]

/-- A service **after storing** rules that allow: it stores them behind its own, and has the table
and the rules that deny as before. -/
structure StoredBehind (before after : Service) (rules : List StoredRule) : Prop where
  table : after.assertions = before.assertions
  allows : after.allows = before.allows ++ rules
  denies : after.denies = before.denies

/-- Storing goes on behind what was stored. -/
theorem StoredBehind.trans {first second third : Service} {rules further : List StoredRule}
    (before : StoredBehind first second rules) (after : StoredBehind second third further) :
    StoredBehind first third (rules ++ further) where
  table := after.table.trans before.table
  allows := by rw [after.allows, before.allows, List.append_assoc]
  denies := after.denies.trans before.denies

/-- Steps that **succeed and store** rules behind those of any service with a table. -/
def Stores (assertions : Assertions) (steps : Building Unit) (rules : List StoredRule) : Prop :=
  ∀ before : Service, before.assertions = assertions →
    ∃ after, settle steps before = (.ok (), after) ∧ StoredBehind before after rules

/-- Steps that store rules do so one after the other. -/
theorem stores_bind {first : Building Unit} {second : Unit → Building Unit}
    {rules further : List StoredRule} (stores : Stores assertions first rules)
    (stores' : Stores assertions (second ()) further) :
    Stores assertions (first >>= second) (rules ++ further) := by
  intro before table
  obtain ⟨middle, eq, behind⟩ := stores before table
  obtain ⟨after, eq', behind'⟩ := stores' middle (behind.table.trans table)
  exact ⟨after, by rw [settle_bind_of_ok eq, eq'], behind.trans behind'⟩

/-- Going through a list stores what each item stores. -/
theorem stores_forM {α : Type} {steps : α → Building Unit} {rules : α → List StoredRule} :
    ∀ {items : List α}, (∀ item ∈ items, Stores assertions (steps item) (rules item)) →
      Stores assertions (items.forM steps) (items.flatMap rules)
  | [], _ => fun before _ => ⟨before, rfl, rfl, by simp, rfl⟩
  | item :: rest, each => by
    rw [List.flatMap_cons]
    refine stores_bind (each item List.mem_cons_self) (stores_forM fun other mem => ?_)
    exact each other (List.mem_cons_of_mem item mem)

/-- Making resources known stores nothing. -/
theorem stores_addGuardResources (guard : Guard) :
    Stores assertions (addGuardResources guard) [] := by
  have each : ∀ resource : Word, Stores assertions (addResource (.ofWord resource)) [] := by
    intro resource before _
    refine ⟨before.learn (.ofWord resource), ?_, ?_⟩
    · rw [settle_addResource, Value.unhashable?_ofWord]
    · exact ⟨learn_assertions _ _, by simp, learn_denies _ _⟩
  have stores := stores_forM fun resource (_ : resource ∈ guard.resources) => each resource
  rwa [List.flatMap_eq_nil_iff.2 fun _ _ => rfl] at stores

/-- **Storing a guard** stores a rule for each of its grants, in order. -/
theorem stores_storeGuard {guard : Guard} (covers : assertions.Cover guard.grants) :
    Stores assertions (storeGuard guard) (guard.grants.map (Grant.stored assertions)) := by
  have each : ∀ grant ∈ guard.grants,
      Stores assertions (storePositional .allow (.list grant.positional))
        [grant.stored assertions] := by
    rintro grant mem before rfl
    -- learning the resource touches neither the rules nor the table
    refine ⟨_, settle_storeGrant (covers.single mem), ?_, ?_, ?_⟩
    · rw [push_assertions, learn_assertions]
    · simp only [push, learn_allows]
    · simp only [push, learn_denies]
  have stores := stores_forM each
  rw [← List.map_eq_flatMap] at stores
  unfold storeGuard Guard.positionalRules
  rwa [List.forM_eq_forM, List.forM_map, ← List.forM_eq_forM]

/-! ## Services of guards -/

/-- The rules that a service of guards stores. -/
def rulesOf (assertions : Assertions) (guards : List Guard) : List StoredRule :=
  guards.flatMap fun guard => guard.grants.map (Grant.stored assertions)

/-- **A service of guards can be built** if its table covers their grants, and stores these. -/
theorem exists_ofGuards {rulesFrom : List Guard} (resourcesFrom : List Guard)
    (covers : ∀ guard ∈ rulesFrom, assertions.Cover guard.grants) :
    ∃ service, ofGuards assertions resourcesFrom rulesFrom = (.ok (), service) ∧
      StoredBehind { assertions } service (rulesOf assertions rulesFrom) := by
  have resources : Stores assertions (resourcesFrom.forM addGuardResources)
      (resourcesFrom.flatMap fun _ => []) :=
    stores_forM fun guard _ => stores_addGuardResources guard
  have rules : Stores assertions (rulesFrom.forM storeGuard) (rulesOf assertions rulesFrom) :=
    stores_forM fun guard mem => stores_storeGuard (covers guard mem)
  have none : (resourcesFrom.flatMap fun _ => ([] : List StoredRule)) = [] :=
    List.flatMap_eq_nil_iff.2 fun _ _ => rfl
  rw [none] at resources
  have both : Stores assertions (do
      resourcesFrom.forM addGuardResources
      rulesFrom.forM storeGuard) (rulesOf assertions rulesFrom) :=
    stores_bind resources rules
  exact both { assertions } rfl

/-- **A service of guards is reached**, also when it could not be built to its end. -/
theorem reached_ofGuards (assertions : Assertions) (resourcesFrom rulesFrom : List Guard) :
    Reached assertions (ofGuards assertions resourcesFrom rulesFrom).2 := by
  have resources (guard : Guard) : Keeps (Reached assertions) (addGuardResources guard) :=
    keeps_forM fun resource _ _ reached => reached.call (.addResource (.ofWord resource))
  have rules (guard : Guard) : Keeps (Reached assertions) (storeGuard guard) :=
    keeps_forM fun rule _ => (compositional_keeps _).storePositional
      (keeps_reached_storeRule assertions .allow) rule
  exact keeps_bind (keeps_forM fun guard _ => resources guard)
    (fun _ => keeps_forM fun guard _ => rules guard) { assertions } .new

/-- So it is closed. -/
theorem closed_ofGuards (assertions : Assertions) (resourcesFrom rulesFrom : List Guard) :
    Closed assertions (ofGuards assertions resourcesFrom rulesFrom).2 :=
  (reached_ofGuards assertions resourcesFrom rulesFrom).closed

/-- **Every rule that a service of guards stores** is about the resource of one of their grants,
also when the service could not be built to its end. -/
theorem exists_grant_of_mem_allows {resourcesFrom rulesFrom : List Guard} {rule : StoredRule}
    (stored : rule ∈ (ofGuards assertions resourcesFrom rulesFrom).2.allows) :
    ∃ guard ∈ rulesFrom, ∃ grant ∈ guard.grants, rule.resource = .ofWord grant.resource := by
  -- the invariant of all steps, whatever service they start from
  let Granted : Service → Prop := fun service => ∀ rule ∈ service.allows,
    ∃ guard ∈ rulesFrom, ∃ grant ∈ guard.grants, rule.resource = .ofWord grant.resource
  have resources (guard : Guard) : Keeps Granted (addGuardResources guard) := by
    refine keeps_forM fun resource _ service granted => ?_
    rw [settle_addResource, Value.unhashable?_ofWord]
    show ∀ rule ∈ (service.learn _).allows, _
    rw [learn_allows]
    exact granted
  have rules : ∀ guard ∈ rulesFrom, Keeps Granted (storeGuard guard) := by
    intro guard mem
    refine keeps_forM fun positional mem' => ?_
    obtain ⟨grant, mem'', rfl⟩ := List.mem_map.1 mem'
    -- whatever else the rule says, it is about the resource of its grant
    have stores (privilege assertion : Value) : Keeps Granted (storeRule .allow
        (.ofWords grant.roles) (.ofWord grant.resource) privilege assertion) := by
      intro service granted
      rw [settle_storeRule, Value.unhashable?_ofWord, readRoles_ofWords]
      cases service.findAssertion (.ofWord grant.resource) assertion with
      | error failure => exact granted
      | ok found =>
        intro rule stored
        rw [show (push .allow _ _).allows = (service.learn _).allows ++ [_] from rfl,
          learn_allows, List.mem_append, List.mem_singleton] at stored
        rcases stored with stored | rfl
        · exact granted rule stored
        · exact ⟨guard, mem, grant, mem'', rfl⟩
    obtain ⟨roles, resource, assertion⟩ := grant
    cases assertion with
    | none => exact stores .null .null
    | some name => exact stores .null (.ofWord name)
  have kept := keeps_bind (keeps_forM fun guard (_ : guard ∈ resourcesFrom) => resources guard)
    (fun _ => keeps_forM rules) { assertions } (by simp [Granted])
  exact kept rule stored

/-- What is stored for a grant applies iff the grant lets in, except that it does so role by
role. -/
theorem applies_stored_iff {grant : Grant} (covers : assertions.Cover [grant])
    {resource role : Word} :
    (grant.stored assertions).Applies identity resource none role ↔
      role ∈ grant.roles ∧ grant.resource = resource ∧
        ∀ name, grant.assertion = some name → assertions.Agree name identity resource := by
  constructor
  · rintro ⟨holds, about, -, agrees⟩
    refine ⟨holds, Value.ofWord_injective about, fun name eq => ?_⟩
    -- the name has an entry, hence the rule was stored with that entry
    have isSome := covers grant (List.mem_singleton_self grant) name eq
    obtain ⟨entry, found⟩ := Option.isSome_iff_exists.1 isSome
    refine ⟨entry, found, agrees entry ?_⟩
    show grant.assertion.bind assertions.entry? = some entry
    rw [eq, Option.bind_some, found]
  · rintro ⟨holds, rfl, agrees⟩
    refine ⟨holds, rfl, .inl rfl, fun entry eq => ?_⟩
    obtain ⟨name, named, found⟩ := Option.bind_eq_some_iff.1 eq
    obtain ⟨other, found', ok⟩ := agrees name named
    rw [found] at found'
    cases found'
    exact ok

/-- A service of guards lets a caller in iff one of their grants does. -/
theorem exists_allowsRole_iff {service : Service} {guards : List Guard}
    (covers : ∀ guard ∈ guards, assertions.Cover guard.grants)
    (behind : StoredBehind { assertions } service (rulesOf assertions guards))
    {resource : Word} :
    (∃ role ∈ (Caller.of identity defaultRole).roles,
        service.AllowsRole identity resource none role) ↔
      ∃ guard ∈ guards, ∃ grant ∈ guard.grants,
        grant.LetsIn assertions identity defaultRole resource := by
  have allows : service.allows = rulesOf assertions guards := behind.allows
  have denies : service.denies = [] := behind.denies
  simp only [AllowsRole, allows, denies, mem_roles_of, rulesOf, List.mem_flatMap, List.mem_map]
  constructor
  · rintro ⟨role, counts, ⟨_, ⟨guard, mem, grant, mem', rfl⟩, applies⟩, -⟩
    obtain ⟨holds, about, agrees⟩ := (applies_stored_iff ((covers guard mem).single mem')).1 applies
    exact ⟨guard, mem, grant, mem', ⟨role, holds, counts⟩, about, agrees⟩
  · rintro ⟨guard, mem, grant, mem', ⟨role, holds, counts⟩, about, agrees⟩
    refine ⟨role, counts, ⟨_, ⟨guard, mem, grant, mem', rfl⟩, ?_⟩, by simp⟩
    exact (applies_stored_iff ((covers guard mem).single mem')).2 ⟨holds, about, agrees⟩

/-- **Asking a service of guards** decides whether one of their grants lets the caller in. -/
theorem decides_ofGuards (answer : assertions.Answer) (resourcesFrom : List Guard)
    {rulesFrom : List Guard} (covers : ∀ guard ∈ rulesFrom, assertions.Cover guard.grants)
    (resource : Word) :
    ((ofGuards assertions resourcesFrom rulesFrom).2.isAllowed (.of identity defaultRole)
        (.ofWord resource) .null).Decides
      (∃ guard ∈ rulesFrom, ∃ grant ∈ guard.grants,
        grant.LetsIn assertions identity defaultRole resource) := by
  obtain ⟨service, eq, behind⟩ := exists_ofGuards resourcesFrom covers
  have closed := closed_ofGuards assertions resourcesFrom rulesFrom
  rw [eq] at closed ⊢
  have decides : (service.isAllowed (.of identity defaultRole) (.ofWord resource)
      (.ofWord? none)).Decides _ := decides_isAllowed answer closed _
  exact decides.congr (exists_allowsRole_iff covers behind)

end Service

end GuardedDispatch
