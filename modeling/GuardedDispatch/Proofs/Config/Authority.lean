import GuardedDispatch.Proofs.Config.Clauses
import GuardedDispatch.Proofs.Web.Installing

/-! # The service of a configuration

A session builds the authorization service of what was installed from a document, and binds all its
guards to it, or none. What the service knows and decides is read off the clauses of the document:
those of its guards and the extra rules that allow, and the extra rules that deny
(`Blueprint.clauses`). Nothing depends on the order in which they stand.

* **`Blueprint.exists_enacted`**: building succeeds if the table has all assertions that clauses
  name, and the service stores what the clauses say (`Blueprint.EnactedBy`).
* **`Blueprint.Permits`**: what the clauses decide about a question; the service decides the same
  (`Blueprint.EnactedBy.decides`).
* **`Blueprint.Reordered`**: the same guards and rules in another order have clauses that differ in
  order only (`Blueprint.Reordered.perm_clauses`). -/

namespace GuardedDispatch

namespace Blueprint

/-- The **clauses** of a blueprint by kind: its guards only allow. -/
def clauses (blueprint : Blueprint) : RuleKind → List Value
  | .allow => blueprint.guards.flatMap Guard.positionalRules ++ blueprint.extraRules .allow
  | .deny => blueprint.extraRules .deny

/-- The rules that are stored are the clauses of both kinds. -/
theorem mem_storedRules {blueprint : Blueprint} {rule : Value} :
    rule ∈ blueprint.storedRules ↔ ∃ kind, rule ∈ blueprint.clauses kind := by
  unfold storedRules
  rw [← List.append_assoc, List.mem_append]
  constructor
  · rintro (mem | mem)
    · exact ⟨.allow, mem⟩
    · exact ⟨.deny, mem⟩
  · rintro ⟨kind, mem⟩
    cases kind with
    | allow => exact .inl mem
    | deny => exact .inr mem

/-- All clauses of a blueprint have the **right parts**: extra rules that are positional have texts
where they have to. -/
structure Wellformed (blueprint : Blueprint) : Prop where
  listed : blueprint.Listed
  clauses : ∀ kind, ∀ rule ∈ blueprint.extraRules kind, rule.IsClause

/-- Every rule that a well-formed blueprint stores is a clause. -/
theorem Wellformed.isClause {blueprint : Blueprint} (wellformed : blueprint.Wellformed)
    {rule : Value} (mem : rule ∈ blueprint.storedRules) : rule.IsClause := by
  unfold storedRules at mem
  rw [List.mem_append, List.mem_append, List.mem_flatMap] at mem
  rcases mem with ⟨guard, -, mem⟩ | mem | mem
  · exact Service.isClause_of_mem mem
  · exact wellformed.clauses .allow rule mem
  · exact wellformed.clauses .deny rule mem

/-- An accepted document whose extra rules have texts where they have to is well-formed. -/
theorem wellformed_of_ofDocument {settings : Settings} {registry : Registry} {document : Value}
    {blueprint : Blueprint} (read : ofDocument settings registry document = .ok blueprint)
    (texts : ∀ kind, ∀ rule ∈ blueprint.extraRules kind, rule.HasTexts) :
    blueprint.Wellformed := by
  have checked := checkExtraRules_of_ofDocument read
  refine ⟨listed_of_check checked, fun kind rule mem => ?_⟩
  exact ⟨texts kind rule mem, (exists_items_of_check checked kind).2 rule mem⟩

/-! ## Building -/

/-- A service that **enacts** a blueprint: it knows what the clauses are about, and stores what they
say. -/
structure EnactedBy (assertions : Assertions) (blueprint : Blueprint) (service : Service) :
    Prop where
  stored : ∀ kind,
    service.stored kind = (blueprint.clauses kind).map (Value.stored assertions)
  resources : ∀ resource,
    resource ∈ service.resources ↔ ∃ rule ∈ blueprint.storedRules, rule.part 1 = resource

/-- **A section** enacts its clauses; one that is not there has none. -/
theorem enacts_section {blueprint : Blueprint} (wellformed : blueprint.Wellformed)
    {assertions : Assertions} (has : ∀ rule ∈ blueprint.storedRules, ¬ assertions.Lacks rule)
    (kind : RuleKind) :
    Service.Enacts assertions
      (Service.storeSection kind ((Value.field? blueprint.rules kind.word).getD (.list [])))
      ((blueprint.extraRules kind).map (·.part 1))
      (Service.onlyOf kind ((blueprint.extraRules kind).map (Value.stored assertions))) := by
  unfold Service.storeSection
  rw [wellformed.listed kind]
  refine Service.enacts_clauses (wellformed.clauses kind) (fun rule mem => has rule ?_) kind
  refine mem_storedRules.2 ⟨kind, ?_⟩
  cases kind with
  | allow => exact List.mem_append_right _ mem
  | deny => exact mem

/-- **The steps of building** enact the clauses, on a table that has all their assertions. -/
theorem enacts_steps {blueprint : Blueprint} (wellformed : blueprint.Wellformed)
    {assertions : Assertions} (has : ∀ rule ∈ blueprint.storedRules, ¬ assertions.Lacks rule) :
    Service.Enacts assertions (do
        blueprint.guards.forM Service.addGuardResources
        blueprint.guards.forM Service.storeGuard
        Service.storeFields blueprint.rules)
      (blueprint.storedRules.map (·.part 1))
      (fun kind => (blueprint.clauses kind).map (Value.stored assertions)) := by
  have known : Service.Enacts assertions (blueprint.guards.forM Service.addGuardResources) _ _ :=
    Service.enacts_forM fun guard _ => Service.enacts_addGuardResources guard
  have hasGuard : ∀ guard ∈ blueprint.guards, ∀ rule ∈ guard.positionalRules,
      ¬ assertions.Lacks rule := by
    intro guard mem rule mem'
    exact has rule (List.mem_append_left _ (List.mem_flatMap.2 ⟨guard, mem, mem'⟩))
  have guards : Service.Enacts assertions (blueprint.guards.forM Service.storeGuard) _ _ :=
    Service.enacts_forM fun guard mem => Service.enacts_storeGuard (hasGuard guard mem)
  have all := Service.enacts_bind known <| Service.enacts_bind guards <|
    Service.enacts_bind (enacts_section wellformed has .allow) (enacts_section wellformed has .deny)
  refine all.congr (fun resource => ?_) (fun kind => ?_)
  · -- the resources that guards make known are those of their clauses
    unfold storedRules
    rw [List.mem_append, List.map_append, List.map_append, List.map_flatMap]
    constructor
    · rintro (mem | mem)
      · obtain ⟨guard, isGuard, mem⟩ := List.mem_flatMap.1 mem
        have mem := Service.mem_resources_iff.1 mem
        exact List.mem_append_left _ (List.mem_flatMap.2 ⟨guard, isGuard, mem⟩)
      · exact mem
    · exact .inr
  · -- guards store no rules that deny, and each section those of its kind
    have none : (blueprint.guards.flatMap fun _ => ([] : List StoredRule)) = [] :=
      List.flatMap_eq_nil_iff.2 fun _ _ => rfl
    cases kind with
    | allow => simp [clauses, Service.onlyOf, List.map_flatMap, none]
    | deny => simp [clauses, Service.onlyOf, none]

/-- **Building succeeds** on a table that has all assertions that clauses name. -/
theorem exists_enacted {blueprint : Blueprint} (wellformed : blueprint.Wellformed)
    {assertions : Assertions} (has : ∀ rule ∈ blueprint.storedRules, ¬ assertions.Lacks rule) :
    ∃ service, blueprint.buildService assertions = (.ok (), service) ∧
      EnactedBy assertions blueprint service := by
  obtain ⟨service, eq, grown⟩ := enacts_steps wellformed has { assertions } rfl
  refine ⟨service, eq, ?_, ?_⟩
  · intro kind
    rw [grown.stored]
    cases kind <;> rfl
  · intro resource
    rw [grown.resources, List.mem_map]
    simp only [List.not_mem_nil, false_or]

/-- **Building fails** iff the table lacks an assertion that a clause names, and by a fault of
configuration. -/
theorem exists_failure_iff {blueprint : Blueprint} (wellformed : blueprint.Wellformed)
    (assertions : Assertions) :
    (∃ failure, (blueprint.buildService assertions).1 = .error failure) ↔
      ∃ rule ∈ blueprint.storedRules, assertions.Lacks rule := by
  simp only [buildService_fst_of_listed wellformed.listed, resultOf_eq_error_iff]
  constructor
  · rintro ⟨failure, found⟩
    obtain ⟨rule, mem, fault⟩ := List.exists_of_findSome?_eq_some found
    have clause := wellformed.isClause mem
    exact ⟨rule, mem, (Service.exists_fault_iff clause).1 ⟨failure, fault⟩⟩
  · rintro ⟨rule, mem, lacks⟩
    have clause := wellformed.isClause mem
    obtain ⟨failure, fault⟩ := (Service.exists_fault_iff clause).2 lacks
    cases found : blueprint.storedRules.findSome? (Service.ruleFault? assertions) with
    | some first => exact ⟨first, rfl⟩
    | none =>
      rw [List.findSome?_eq_none_iff.1 found rule mem] at fault
      cases fault

/-- The failure is a fault of configuration. -/
theorem isConfiguration_of_failure {blueprint : Blueprint} (wellformed : blueprint.Wellformed)
    {assertions : Assertions} {failure : Failure}
    (failed : (blueprint.buildService assertions).1 = .error failure) :
    failure.IsConfiguration := by
  rw [buildService_fst_of_listed wellformed.listed, resultOf_eq_error_iff] at failed
  obtain ⟨rule, mem, fault⟩ := List.exists_of_findSome?_eq_some failed
  exact Service.isConfiguration_of_clause (wellformed.isClause mem) fault

/-! ## Deciding -/

/-- What the clauses of a blueprint **permit** to a role: one of those that allow applies, and none
of those that deny. -/
def Permits (assertions : Assertions) (blueprint : Blueprint) (identity : Option Identity)
    (resource privilege : Value) (role : Word) : Prop :=
  (∃ rule ∈ blueprint.clauses .allow,
      Value.Applies assertions identity resource privilege role rule) ∧
    ¬ ∃ rule ∈ blueprint.clauses .deny,
      Value.Applies assertions identity resource privilege role rule

section

variable {assertions : Assertions} {blueprint : Blueprint} {service : Service}

/-- Some stored rule of a kind applies iff a clause of that kind does. -/
theorem EnactedBy.exists_appliesTo_iff (enacted : EnactedBy assertions blueprint service)
    (has : ∀ rule ∈ blueprint.storedRules, ¬ assertions.Lacks rule) (kind : RuleKind)
    {identity : Option Identity} {resource privilege : Value} {role : Word} :
    (∃ rule ∈ service.stored kind, rule.AppliesTo identity resource privilege role) ↔
      ∃ rule ∈ blueprint.clauses kind,
        Value.Applies assertions identity resource privilege role rule := by
  rw [enacted.stored kind]
  constructor
  · rintro ⟨_, isStored, applies⟩
    obtain ⟨rule, mem, rfl⟩ := List.mem_map.1 isStored
    have has := has rule (mem_storedRules.2 ⟨kind, mem⟩)
    exact ⟨rule, mem, (Value.appliesTo_stored_iff has).1 applies⟩
  · rintro ⟨rule, mem, applies⟩
    have has := has rule (mem_storedRules.2 ⟨kind, mem⟩)
    exact ⟨_, List.mem_map_of_mem mem, (Value.appliesTo_stored_iff has).2 applies⟩

/-- What the service stores comes from clauses. -/
theorem EnactedBy.exists_clause (enacted : EnactedBy assertions blueprint service)
    {rule : StoredRule} (mem : rule ∈ service.allows ++ service.denies) :
    ∃ clause ∈ blueprint.storedRules, rule = clause.stored assertions := by
  have ofKind : ∃ kind, rule ∈ service.stored kind := by
    rcases List.mem_append.1 mem with mem | mem
    · exact ⟨.allow, mem⟩
    · exact ⟨.deny, mem⟩
  obtain ⟨kind, isStored⟩ := ofKind
  rw [enacted.stored kind] at isStored
  obtain ⟨clause, isClause, rfl⟩ := List.mem_map.1 isStored
  exact ⟨clause, mem_storedRules.2 ⟨kind, isClause⟩, rfl⟩

/-- **The service decides what the clauses decide**, if no assertion raises. -/
theorem EnactedBy.decides (enacted : EnactedBy assertions blueprint service)
    (has : ∀ rule ∈ blueprint.storedRules, ¬ assertions.Lacks rule) (answer : assertions.Answer)
    (caller : Caller) {resource : Value} (hashable : resource.unhashable? = none)
    (privilege : Value) :
    (service.isAllowed caller resource privilege).Decides
      (∃ role ∈ caller.roles,
        Permits assertions blueprint caller.identity resource privilege role) := by
  have draws : service.Draws assertions := by
    intro rule mem entry eq
    obtain ⟨clause, -, rfl⟩ := enacted.exists_clause mem
    exact List.mem_of_find?_eq_some eq
  have knows : ∀ rule ∈ service.allows, (resource == rule.resource) = true →
      service.knows resource = true := by
    intro rule mem about
    obtain ⟨clause, isClause, rfl⟩ := enacted.exists_clause (List.mem_append_left _ mem)
    have known := (enacted.resources _).2 ⟨clause, isClause, rfl⟩
    exact List.any_eq_true.2 ⟨_, known, about⟩
  have decides : (service.isAllowed caller resource privilege).Decides _ :=
    Service.decides_question answer draws hashable knows caller
  refine decides.congr (exists_congr fun role => and_congr_right fun _ => ?_)
  -- one of the rules of a kind applies iff one of the clauses does
  apply and_congr
  · exact enacted.exists_appliesTo_iff has .allow
  · exact not_congr (enacted.exists_appliesTo_iff has .deny)

end

/-! ## Order -/

/-- A section of extra rules with its rules **shuffled**, or no section in both places. -/
inductive Shuffled : Option Value → Option Value → Prop where
  /-- There is no section. -/
  | absent : Shuffled none none
  /-- The same rules in any order. -/
  | listed {rules others : Value} {items shuffled : List Value} (isList : rules.items? = some items)
    (isList' : others.items? = some shuffled) (perm : items.Perm shuffled) :
    Shuffled (some rules) (some others)

/-- The same guards and extra rules **in another order**: the guards among each other, the grants
within each guard, the rules within each section, and the sections among each other, as these are
looked up by name. -/
structure Reordered (blueprint other : Blueprint) : Prop where
  guards : ∃ guards, blueprint.guards.Perm guards ∧
    List.Forall₂ (fun guard moved : Guard => guard.grants.Perm moved.grants) guards other.guards
  rules : ∀ kind : RuleKind, Shuffled (Value.field? blueprint.rules kind.word)
    (Value.field? other.rules kind.word)

section

variable {blueprint other : Blueprint}

/-- Guards whose grants are in another order have clauses that are. -/
theorem perm_flatMap_positionalRules {guards others : List Guard}
    (moved : List.Forall₂ (fun guard other : Guard => guard.grants.Perm other.grants)
      guards others) :
    (guards.flatMap Guard.positionalRules).Perm (others.flatMap Guard.positionalRules) := by
  induction moved with
  | nil => exact .nil
  | cons perm _ ih => exact (perm.map _).append ih

/-- The extra rules of a kind differ in order only. -/
theorem Reordered.perm_extraRules (reordered : blueprint.Reordered other) (kind : RuleKind) :
    (blueprint.extraRules kind).Perm (other.extraRules kind) := by
  have shuffled := reordered.rules kind
  unfold extraRules
  generalize Value.field? blueprint.rules kind.word = rules at shuffled ⊢
  generalize Value.field? other.rules kind.word = others at shuffled ⊢
  cases shuffled with
  | absent => exact .nil
  | listed isList isList' perm => simpa [isList, isList'] using perm

/-- **The clauses of a kind** differ in order only. -/
theorem Reordered.perm_clauses (reordered : blueprint.Reordered other) (kind : RuleKind) :
    (blueprint.clauses kind).Perm (other.clauses kind) := by
  have extra := reordered.perm_extraRules kind
  obtain ⟨guards, perm, moved⟩ := reordered.guards
  cases kind with
  | allow =>
    have guards := (perm.flatMap_right _).trans (perm_flatMap_positionalRules moved)
    exact guards.append extra
  | deny => exact extra

/-- The same rules are stored. -/
theorem Reordered.mem_storedRules_iff (reordered : blueprint.Reordered other) {rule : Value} :
    rule ∈ other.storedRules ↔ rule ∈ blueprint.storedRules := by
  simp only [mem_storedRules, (reordered.perm_clauses _).mem_iff]

/-- The clauses permit the same. -/
theorem Reordered.permits_iff (reordered : blueprint.Reordered other) {assertions : Assertions}
    {identity : Option Identity} {resource privilege : Value} {role : Word} :
    Permits assertions other identity resource privilege role ↔
      Permits assertions blueprint identity resource privilege role := by
  simp only [Permits, (reordered.perm_clauses _).mem_iff]

/-- What is well-formed remains so in another order. -/
theorem Reordered.wellformed (reordered : blueprint.Reordered other)
    (wellformed : blueprint.Wellformed) : other.Wellformed := by
  refine ⟨fun kind => ?_, fun kind rule mem => ?_⟩
  · have shuffled := reordered.rules kind
    unfold extraRules
    generalize Value.field? blueprint.rules kind.word = rules at shuffled
    generalize Value.field? other.rules kind.word = others at shuffled ⊢
    cases shuffled with
    | absent => rfl
    | listed isList isList' perm => simp [isList', members?_of_items? isList']
  · have perm := reordered.perm_extraRules kind
    exact wellformed.clauses kind rule (perm.mem_iff.2 mem)

/-- **A service for another order** can be built where the first one can, and answers every question
like it, if no assertion raises. -/
theorem Reordered.exists_service (reordered : blueprint.Reordered other)
    (wellformed : blueprint.Wellformed) {assertions : Assertions}
    (has : ∀ rule ∈ blueprint.storedRules, ¬ assertions.Lacks rule) {service : Service}
    (enacted : EnactedBy assertions blueprint service) :
    ∃ moved, other.buildService assertions = (.ok (), moved) ∧
      (∀ resource, resource ∈ moved.resources ↔ resource ∈ service.resources) ∧
      (assertions.Answer → ∀ (caller : Caller) (resource privilege : Value),
        (moved.isAllowed caller resource privilege).outcome.1 =
          (service.isAllowed caller resource privilege).outcome.1) := by
  have has' : ∀ rule ∈ other.storedRules, ¬ assertions.Lacks rule := by
    intro rule mem
    exact has rule (reordered.mem_storedRules_iff.1 mem)
  obtain ⟨moved, built, enacted'⟩ := exists_enacted (reordered.wellformed wellformed) has'
  refine ⟨moved, built, fun resource => ?_, fun answer caller resource privilege => ?_⟩
  · simp only [enacted'.resources, enacted.resources, reordered.mem_storedRules_iff]
  · cases hashable : resource.unhashable? with
    | some kind =>
      -- neither can be asked about such a resource
      unfold Service.isAllowed
      rw [hashable]
      rfl
    | none =>
      obtain ⟨allowed, returns, iff⟩ := enacted.decides has answer caller hashable privilege
      obtain ⟨allowed', returns', iff'⟩ :=
        enacted'.decides has' answer caller hashable privilege
      simp only [reordered.permits_iff] at iff'
      rw [returns.outcome, returns'.outcome, Bool.eq_iff_iff.2 (iff'.trans iff.symm)]

end

end Blueprint

namespace Session

/-! ## Building and binding -/

/-- A blueprint is **installed** under a name: its guards are parts of the site, whatever they are
bound to, and its extra rules are kept. -/
structure Installed (session : Session) (name : String) (installation : Installation)
    (blueprint : Blueprint) : Prop where
  found : ∃ ref, installationNamed session.site name = .ok ref ∧
    session.installations.get ref = installation
  guards : guardsOf session.site installation = blueprint.guards
  rules : installation.rules = blueprint.rules

/-- Adding guards puts them behind those that were there, which stay as they are. -/
theorem guards_foldl_addGuard : ∀ (guards : List Guard) (refs : List GuardRef) (site : Site),
    (∀ ref ∈ refs, ref < site.guards.size) →
    let done := guards.foldl (fun (refs, site) guard =>
      let (ref, site) := site.addGuard guard none
      (refs ++ [ref], site)) (refs, site)
    done.1.map (fun ref => (done.2.guards.get ref).guard) =
      refs.map (fun ref => (site.guards.get ref).guard) ++ guards
  | [], refs, site, _ => by simp
  | guard :: rest, refs, site, below => by
    have bound : ∀ ref ∈ refs ++ [site.guards.size], ref < site.guards.size + 1 := by
      intro ref mem
      rcases List.mem_append.1 mem with mem | mem
      · exact Nat.lt_succ_of_lt (below ref mem)
      · rw [List.mem_singleton.1 mem]
        exact Nat.lt_succ_self _
    have later := guards_foldl_addGuard rest (refs ++ [site.guards.size])
      (site.addGuard guard none).2 bound
    refine later.trans ?_
    -- the number of the new guard is none of those given out before
    have kept : refs.map (fun ref => ((site.addGuard guard none).2.guards.get ref).guard) =
        refs.map fun ref => (site.guards.get ref).guard := by
      refine List.map_congr_left fun ref mem => ?_
      have ne : ref ≠ site.guards.size := Nat.ne_of_lt (below ref mem)
      simp [Site.addGuard, Arena.add, ne]
    have new : ((site.addGuard guard none).2.guards.get site.guards.size).guard = guard := by
      simp [Site.addGuard, Arena.add]
    rw [List.map_append, kept, List.map_singleton, new, List.append_assoc]
    rfl

/-- What a blueprint is made into has its guards and its extra rules. -/
theorem guardsOf_installInto (site : Site) (blueprint : Blueprint) :
    guardsOf (installInto site blueprint).2 (installInto site blueprint).1 = blueprint.guards ∧
      (installInto site blueprint).1.rules = blueprint.rules := by
  have added := guards_foldl_addGuard blueprint.guards [] site (by simp)
  unfold installInto guardsOf
  cases blueprint.strategy with
  | none => exact ⟨added, rfl⟩
  | some strategy => exact ⟨added, rfl⟩

/-- **Installing a blueprint** under a name installs it. -/
theorem installed_of_install (session : Session) (name : String) (blueprint : Blueprint) :
    ∃ installation, (session.after (install name blueprint)).1 = .ok installation ∧
      (session.after (install name blueprint)).2.Installed name installation blueprint := by
  obtain ⟨guards, rules⟩ := guardsOf_installInto session.site blueprint
  refine ⟨(installInto session.site blueprint).1, rfl, ⟨session.installations.size, ?_, ?_⟩, guards,
    rules⟩
  · -- the name has just been entered
    show installationNamed ((installInto session.site blueprint).2.enter name
      (.config session.installations.size)) name = _
    simp [installationNamed, Site.named, Site.enter]
  · exact Arena.get_add_self session.installations _

/-- Finding an installation changes nothing. -/
theorem Installed.settle_installation {session : Session} {name : String}
    {installation : Installation} {blueprint : Blueprint}
    (installed : session.Installed name installation blueprint) :
    settle (Session.installation name) session = (.ok installation, session) := by
  obtain ⟨ref, named, held⟩ := installed.found
  unfold Session.installation
  rw [settle_bind_of_ok (settle_get session), settle_bind, settle_liftM, named]
  show (Except.ok (session.installations.get ref), session) = _
  rw [held]

/-- **Building an authority** fails where building the service does, and otherwise adds it to the
site and binds all guards to it. -/
theorem Installed.buildAuthority_eq {session : Session} {name : String}
    {installation : Installation} {blueprint : Blueprint}
    (installed : session.Installed name installation blueprint) (provider : ProviderRef)
    (assertions : Assertions) :
    buildAuthority session.site installation provider assertions =
      match blueprint.buildService assertions with
      | (.error failure, _) => .error failure
      | (.ok _, service) =>
        let (ref, site) := session.site.addAuthority (.service provider service)
        .ok (ref, service, bindAll site installation ref) := by
  have same : ({ guards := guardsOf session.site installation, rules := installation.rules } :
      Blueprint).buildService assertions = blueprint.buildService assertions := by
    rw [installed.guards, installed.rules]
    rfl
  unfold buildAuthority
  dsimp only
  rw [same]
  obtain ⟨_ | _, service⟩ := blueprint.buildService assertions <;> rfl

/-- The session after an authority with a service was added under a name and bound to the guards of
an installation. -/
def binding (session : Session) (installation : Installation) (provider : ProviderRef)
    (service : Service) (name : String) : Session :=
  let (ref, site) := session.site.addAuthority (.service provider service)
  { session with site := (bindAll site installation ref).enter name (.authority ref) }

/-- **Adding an authority** changes nothing where its service cannot be built, and otherwise binds
all guards to it. -/
theorem Installed.settle_addAuthority {session : Session} {name : String}
    {installation : Installation} {blueprint : Blueprint}
    (installed : session.Installed name installation blueprint) {provider : String}
    {ref : ProviderRef} (provided : session.site.providerNamed provider = .ok ref)
    (assertions : Assertions) (authority : String) :
    settle (addAuthority authority name provider assertions) session =
      match blueprint.buildService assertions with
      | (.error failure, _) => (.error failure, session)
      | (.ok _, service) => ((service.resources.mapM Value.printWord).map sortWords,
          session.binding installation ref service authority) := by
  have found := installed.settle_installation
  have built := installed.buildAuthority_eq ref assertions
  have site : settle getSite session = (.ok session.site, session) := rfl
  unfold addAuthority
  rw [settle_bind_of_ok found, settle_bind_of_ok site, settle_bind, settle_liftM, provided]
  dsimp only
  rw [settle_bind, settle_liftM, built]
  obtain ⟨_ | _, service⟩ := blueprint.buildService assertions
  · rfl
  · have moved : settle (setSite (session.binding installation ref service authority).site)
        session = (.ok (), session.binding installation ref service authority) := rfl
    refine (settle_bind_of_ok moved _).trans ?_
    show _ = ((service.resources.mapM Value.printWord).map sortWords, _)
    rw [settle_bind, settle_liftM]
    cases service.resources.mapM Value.printWord <;> rfl

/-- All guards of the installation are bound to the authority that was added. -/
theorem binds_binding (session : Session) (installation : Installation) (provider : ProviderRef)
    (service : Service) (name : String) :
    let later := session.binding installation provider service name
    ∃ authority, later.site.authorityNamed name = .ok authority ∧
      later.site.authorities.get authority = .service provider service ∧
      ∀ guard ∈ installation.guards, (later.site.guards.get guard).authority = some authority := by
  intro later
  have binds := Web.foldl_bindGuard session.site.authorities.size installation.guards
    (session.site.addAuthority (.service provider service)).2
  have isLater : later.site = ({ (session.site.addAuthority (.service provider service)).2 with
      guards := Web.boundTo session.site.guards installation.guards
        session.site.authorities.size } : Site).enter name
          (.authority session.site.authorities.size) :=
    congrArg (fun site : Site => site.enter name (.authority session.site.authorities.size)) binds
  refine ⟨session.site.authorities.size, ?_, ?_, ?_⟩
  · rw [isLater]
    simp [Site.authorityNamed, Site.named, Site.enter]
  · rw [isLater]
    exact Arena.get_add_self session.site.authorities _
  · intro guard mem
    rw [isLater]
    show (if guard ∈ installation.guards then _ else _ : GuardPost).authority = _
    rw [if_pos mem]

/-- Texts can be listed in order. -/
theorem exists_mapM_printWord : ∀ {texts : List Value}, (∀ text ∈ texts, text.isText = true) →
    ∃ listing, texts.mapM Value.printWord = .ok listing
  | [], _ => ⟨[], rfl⟩
  | text :: rest, areTexts => by
    obtain ⟨word, rfl⟩ := Value.exists_eq_ofWord (areTexts text List.mem_cons_self)
    obtain ⟨listing, listed⟩ :=
      exists_mapM_printWord fun other mem => areTexts other (List.mem_cons_of_mem _ mem)
    refine ⟨word :: listing, ?_⟩
    rw [List.mapM_cons, Value.printWord_ofWord, listed]
    rfl

/-- **The service of a configuration.** Building the authority of an installed document fails iff
some rule of a guard or some extra rule names an assertion that the table lacks; the failure is a
fault of configuration, and leaves the session as it was, every guard with what it was bound to.
Otherwise all guards are bound to the one authority whose service knows just the resources that the
rules name, and allows what they permit, if no assertion raises: a role is permitted what a rule of
a guard or an extra rule that allows lets it in to, and no extra rule that denies keeps it out of.
The same guards and rules in any other order make for a service with the same resources and
answers. -/
theorem addAuthority_of_ofDocument {settings : Settings} {registry : Registry} {document : Value}
    {blueprint : Blueprint}
    (read : Blueprint.ofDocument settings registry document = .ok blueprint)
    (texts : ∀ kind, ∀ rule ∈ blueprint.extraRules kind, rule.HasTexts)
    {session : Session} {name : String} {installation : Installation}
    (installed : session.Installed name installation blueprint) {provider : String}
    {ref : ProviderRef} (provided : session.site.providerNamed provider = .ok ref)
    (assertions : Assertions) (authorityName : String) :
    let done := session.after (addAuthority authorityName name provider assertions)
    ((∃ failure, done.1 = .error failure) ↔
        ∃ rule ∈ blueprint.storedRules, assertions.Lacks rule) ∧
    (∀ failure, done.1 = .error failure → failure.IsConfiguration ∧ done.2 = session) ∧
    ((∃ listing, done.1 = .ok listing) → ∃ authority service,
      done.2.site.authorityNamed authorityName = .ok authority ∧
      done.2.site.authorities.get authority = .service ref service ∧
      (∀ guard ∈ installation.guards,
        (done.2.site.guards.get guard).authority = some authority) ∧
      (∀ resource, resource ∈ service.resources ↔
        ∃ rule ∈ blueprint.storedRules, rule.part 1 = resource) ∧
      (assertions.Answer → ∀ (caller : Caller) (resource privilege : Value),
        resource.unhashable? = none → ∃ allowed : Bool,
          (service.isAllowed caller resource privilege).outcome.1 = .ok allowed ∧
          (allowed = true ↔ ∃ role ∈ caller.roles,
            blueprint.Permits assertions caller.identity resource privilege role)) ∧
      ∀ other : Blueprint, blueprint.Reordered other →
        ∃ moved, other.buildService assertions = (.ok (), moved) ∧
          (∀ resource, resource ∈ moved.resources ↔ resource ∈ service.resources) ∧
          (assertions.Answer → ∀ (caller : Caller) (resource privilege : Value),
            (moved.isAllowed caller resource privilege).outcome.1 =
              (service.isAllowed caller resource privilege).outcome.1)) := by
  intro done
  have wellformed := Blueprint.wellformed_of_ofDocument read texts
  have failsIff := Blueprint.exists_failure_iff wellformed assertions
  have settled : done = _ := installed.settle_addAuthority provided assertions authorityName
  by_cases lacking : ∃ rule ∈ blueprint.storedRules, assertions.Lacks rule
  · obtain ⟨failure, failed⟩ := failsIff.2 lacking
    have configured := Blueprint.isConfiguration_of_failure wellformed failed
    generalize blueprint.buildService assertions = built at failed settled
    obtain ⟨result, partial'⟩ := built
    obtain rfl : result = .error failure := failed
    have settled : done = (.error failure, session) := settled
    refine ⟨⟨fun _ => lacking, fun _ => ⟨failure, by rw [settled]⟩⟩, ?_, ?_⟩
    · rw [settled]
      rintro _ ⟨⟩
      exact ⟨configured, rfl⟩
    · rw [settled]
      rintro ⟨listing, ⟨⟩⟩
  · have has : ∀ rule ∈ blueprint.storedRules, ¬ assertions.Lacks rule :=
      fun rule mem lacks => lacking ⟨rule, mem, lacks⟩
    obtain ⟨service, built, enacted⟩ := Blueprint.exists_enacted wellformed has
    have areTexts : ∀ resource ∈ service.resources, resource.isText = true := by
      intro resource mem
      obtain ⟨rule, isStored, rfl⟩ := (enacted.resources resource).1 mem
      exact (wellformed.isClause isStored).resource
    obtain ⟨listing, listed⟩ := exists_mapM_printWord areTexts
    have settled : done =
        (.ok (sortWords listing), session.binding installation ref service authorityName) := by
      rw [settled, built]
      dsimp only
      rw [listed]
      rfl
    refine ⟨⟨?_, fun lacks => absurd lacks lacking⟩, ?_, fun _ => ?_⟩
    · rw [settled]
      rintro ⟨failure, ⟨⟩⟩
    · rw [settled]
      rintro failure ⟨⟩
    · obtain ⟨authority, named, held, bound⟩ :=
        binds_binding session installation ref service authorityName
      rw [settled]
      refine ⟨authority, service, named, held, bound, enacted.resources, ?_, ?_⟩
      · intro answer caller resource privilege hashable
        obtain ⟨allowed, returns, iff⟩ := enacted.decides has answer caller hashable privilege
        exact ⟨allowed, returns.outcome, iff⟩
      · intro other reordered
        exact reordered.exists_service wellformed has enacted

/-- A document with a rule of a guard and an extra rule of each kind: its service is not built while
the table lacks the assertion for administrators, and is built once the table has it. -/
theorem addAuthority_of_ofDocument_pages :
    let pages : Value := .map [(.str "controller", .str "pages"), (.str "roles", .str "editor")]
    let admins : Value := .list [.list [.str "admin"], .str "users", .null, .str "owner"]
    let guests : Value := .list [.str "guest", .str "controller/pages"]
    let rules : Fields := [(.str "deny", .list [guests]), (.str "allow", .list [admins])]
    let document : Value := .map [
      (.str "guards", .map [(.str "controller", .list [pages])]),
      (.str "strategy", .bool false), (.str "rules", .map rules)]
    let owner : String × Assertion := ("owner", fun identity _ _ => .ok identity.isSome)
    let blueprint : Blueprint :=
      { guards := [⟨.controller, [⟨["editor"], "controller/pages", none⟩]⟩], rules }
    let session := ((({} : Session).after (addProvider "users" (.fixed none "guest"))).2.after
      (install "config" blueprint)).2
    Blueprint.ofDocument {} .standard document = .ok blueprint ∧
      (∀ kind, ∀ rule ∈ blueprint.extraRules kind, rule.HasTexts) ∧
      (∃ installation, session.Installed "config" installation blueprint) ∧
      session.site.providerNamed "users" = .ok 0 ∧
      (∃ failure, (session.after (addAuthority "service" "config" "users" [])).1 =
        .error failure) ∧
      ¬ ∃ failure, (session.after (addAuthority "service" "config" "users" [owner])).1 =
        .error failure := by
  intro pages admins guests rules document owner blueprint session
  have read : Blueprint.ofDocument {} .standard document = .ok blueprint := rfl
  have texts : ∀ kind, ∀ rule ∈ blueprint.extraRules kind, rule.HasTexts := by
    intro kind rule mem
    cases kind with
    | allow =>
      obtain rfl : rule = admins := List.mem_singleton.1 mem
      exact ⟨.inr ⟨[.str "admin"], rfl, by simp [Value.isText]⟩, rfl, .inr rfl⟩
    | deny =>
      obtain rfl : rule = guests := List.mem_singleton.1 mem
      exact ⟨.inl rfl, rfl, .inl rfl⟩
  obtain ⟨installation, -, installed⟩ := installed_of_install
    (({} : Session).after (addProvider "users" (.fixed none "guest"))).2 "config" blueprint
  have provided : session.site.providerNamed "users" = .ok 0 := rfl
  have stored : blueprint.storedRules =
      [.list [.ofWords ["editor"], .str "controller/pages"], admins, guests] := rfl
  have without := addAuthority_of_ofDocument read texts installed provided [] "service"
  have equipped := addAuthority_of_ofDocument read texts installed provided [owner] "service"
  refine ⟨read, texts, ⟨installation, installed⟩, provided, without.1.2 ?_, ?_⟩
  · -- the rule for administrators names an assertion that is not there
    refine ⟨admins, ?_, ?_, rfl⟩
    · rw [stored]
      exact List.mem_cons_of_mem _ List.mem_cons_self
    · rintro ⟨⟩
  · -- no other rule names one
    rintro failed
    obtain ⟨rule, mem, named, missing⟩ := equipped.1.1 failed
    rw [stored] at mem
    simp only [List.mem_cons, List.not_mem_nil, or_false] at mem
    rcases mem with rfl | rfl | rfl
    · exact named rfl
    · have found : Assertions.entryOf? [owner] (admins.part 3) = some owner := by
        simp [Assertions.entryOf?, admins, Value.part, owner]
      rw [found] at missing
      cases missing
    · exact named rfl

end Session

end GuardedDispatch
