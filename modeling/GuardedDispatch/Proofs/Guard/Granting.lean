import GuardedDispatch.Proofs.Access.Loading
import GuardedDispatch.Proofs.Dispatch.Outcomes
import GuardedDispatch.Proofs.Guard.Naming

/-! # What rules grant

A rule grants a resource to a caller iff it names one of the roles that count and a target of that
name, and its assertion agrees (`Rule.Grants`). Nothing else decides: between the rule and the
decision of a guard lie the grants that the rule is expanded to, their positional form, the rules
that a service stores for them, its loop over the roles, and the candidates that the guard asks for
(`outcome_of_rules`). -/

namespace GuardedDispatch

/-- A rule **grants** a resource to a caller. -/
structure Rule.Grants (assertions : Assertions) (identity : Option Identity) (defaultRole : Word)
    (rule : Rule) (resource : Word) : Prop where
  holds : ∃ role ∈ rule.roles, RoleCounts identity defaultRole role
  names : ∃ controller ∈ rule.controllers, ∃ action ∈ rule.actions,
    controllerResource controller action = resource
  agrees : ∀ name, rule.assertion = some name → assertions.Agree name identity resource

/-- A guard **stands** at a site, bound to a service that is asked for a caller. -/
structure Site.Stands (site : Site) (ref : GuardRef) (guard : Guard) (service : Service)
    (caller : Caller) : Prop where
  guard : (site.guards.get ref).guard = guard
  bound : ∃ authority provider, (site.guards.get ref).authority = some authority ∧
    site.authorities.get authority = .service provider service ∧ site.caller provider = caller

/-- A guard that stands at a site consults its service. -/
theorem Site.Stands.consults {site : Site} {ref : GuardRef} {guard : Guard} {service : Service}
    {caller : Caller} (stands : site.Stands ref guard service caller) :
    (site.guards.get ref).authority.map site.oracle = some (service.oracle caller) := by
  obtain ⟨authority, provider, bound, consulted, asks⟩ := stands.bound
  rw [bound, Option.map_some, oracle, consulted]
  dsimp only
  rw [asks]

/-- The **smallest site** of a guard: one service, one provider. -/
def Site.around (guard : Guard) (service : Service) (provider : Provider) : Site where
  guards := ⟨1, fun _ => { guard, authority := some 0 }⟩
  authorities := ⟨1, fun _ => .service 0 service⟩
  providers := ⟨1, fun _ => provider⟩

/-- A guard stands at its smallest site. -/
theorem Site.stands_around (guard : Guard) (service : Service) (provider : Provider) :
    (Site.around guard service provider).Stands 0 guard service (provider.caller {}) :=
  ⟨rfl, 0, 0, rfl, rfl, rfl⟩

/-- A **fresh event** of a request for a controller and perhaps an action. -/
def Event.fresh (controller : Word) (action : Option Word) (method : Word) : Event where
  request := some (.http { method := .ofWord method })
  routeMatch := some ⟨.null, [("controller", .ofWord controller), ("action", .ofWord? action)]⟩
  bus := some 0

/-- A fresh event still has to be judged. -/
theorem Event.undecided_fresh (controller : Word) (action : Option Word) (method : Word) :
    (Event.fresh controller action method).Undecided (.controller controller action method) 0 where
  aims := ⟨⟨_, rfl, rfl⟩, _, rfl, rfl, rfl⟩
  bound := rfl
  sound := rfl
  unchecked := rfl

namespace Guard

variable {assertions : Assertions} {identity : Option Identity} {defaultRole : Word}

/-! ## From rules to decisions -/

/-- **The grants of controller rules** let a caller in iff the rules do. -/
theorem exists_letsIn_iff {rules : List Rule} {resource : Word} :
    (∃ grant ∈ (ofRules .controller rules).grants,
        grant.LetsIn assertions identity defaultRole resource) ↔
      ∃ rule ∈ rules, rule.Grants assertions identity defaultRole resource := by
  simp only [ofRules_grants, List.mem_flatMap, GuardKind.grantsOf, GuardKind.resourcesOf,
    List.mem_map]
  constructor
  · rintro ⟨_, ⟨rule, mem, _, ⟨controller, listed, action, listed', rfl⟩, rfl⟩, lets⟩
    obtain ⟨holds, about, agrees⟩ := lets
    exact ⟨rule, mem, holds, ⟨controller, listed, action, listed', about⟩, agrees⟩
  · rintro ⟨rule, mem, holds, ⟨controller, listed, action, listed', rfl⟩, agrees⟩
    exact ⟨_, ⟨rule, mem, _, ⟨controller, listed, action, listed', rfl⟩, rfl⟩, holds, rfl, agrees⟩

/-- A compiled guard was compiled from rules that could be read. -/
theorem exists_rules_of_compile {kind : GuardKind} {raws : List Value} {guard : Guard}
    (compiled : compile kind raws = .ok guard) :
    ∃ rules, readRules kind 0 raws = .ok rules ∧ guard = ofRules kind rules := by
  unfold compile at compiled
  cases read : readRules kind 0 raws with
  | error fault => rw [read] at compiled; cases compiled
  | ok rules =>
    rw [read] at compiled
    cases compiled
    exact ⟨rules, rfl, rfl⟩

/-- **A guard over a service of its own grants** allows what its rules grant, and nothing else. -/
theorem outcome_of_rules {rules : List Rule} (answer : assertions.Answer)
    (covers : assertions.Cover (ofRules .controller rules).grants) (resourcesFrom : List Guard)
    {scene : Scene} {ref : GuardRef} {c method : Word} {action : Option Word} {bus : BusRef}
    (stands : scene.site.Stands ref (ofRules .controller rules)
      (Service.ofGuards assertions resourcesFrom [ofRules .controller rules]).2
      (.of identity defaultRole))
    (undecided : scene.event.Undecided (.controller c action method) bus) (depth : Nat) :
    let after := ((Run.guard (Run.trigger depth) ref).on scene).2
    let granted := ∃ rule ∈ rules, ∃ segment ∈ Aim.segments action method,
      rule.Grants assertions identity defaultRole (controllerResource c segment)
    (granted → after.event.outcome GuardKind.controller.id = .allowed) ∧
      (¬ granted → after.event.outcome GuardKind.controller.id = .errorTriggered) := by
  intro after granted
  have decides : ∀ resource : Word,
      ((Service.ofGuards assertions resourcesFrom [ofRules .controller rules]).2.isAllowed
        (.of identity defaultRole) (.ofWord resource) .null).Decides
      (∃ rule ∈ rules, rule.Grants assertions identity defaultRole resource) := by
    intro resource
    have covered : ∀ guard ∈ [ofRules .controller rules], assertions.Cover guard.grants :=
      List.forall_mem_singleton.2 covers
    refine (Service.decides_ofGuards answer resourcesFrom covered resource).congr ?_
    rw [← exists_letsIn_iff]
    simp
  have answers : ((Service.ofGuards assertions resourcesFrom
      [ofRules .controller rules]).2.oracle (.of identity defaultRole)).Answers _ _ :=
    ⟨decides, Asking.returns_pure _⟩
  have kind : (scene.site.guards.get ref).guard.kind = .controller := by rw [stands.guard]; rfl
  have short : (Value.ofIdentity? identity).holdsLong = false := by cases identity <;> rfl
  obtain ⟨yes, no⟩ := Run.outcome_guard kind stands.consults answers short undecided (by simp) depth
  -- the candidates of the guard are the names of the segments
  have accepted : granted ↔ (Aim.controller c action method).Accepted fun resource =>
      ∃ rule ∈ rules, rule.Grants assertions identity defaultRole resource := by
    constructor
    · rintro ⟨rule, mem, segment, mem', grants⟩
      exact .inl ⟨_, List.mem_map_of_mem mem', rule, mem, grants⟩
    · rintro (⟨_, candidate, rule, mem, grants⟩ | unnamed)
      · obtain ⟨segment, mem', rfl⟩ := List.mem_map.1 candidate
        exact ⟨rule, mem, segment, mem', grants⟩
      · cases unnamed
  exact ⟨fun grants => yes (accepted.1 grants), fun none => no (mt accepted.2 none)⟩

/-- **Rules mean what they grant.** Take a compiled guard over a service that was loaded with its
grants, whatever guards the resources are known from. Of an event that it still has to judge, it
ends in allowed iff one of its rules has a role that counts, lists a controller and an action whose
name is one of those that the event is judged by, and has no assertion or one that agrees about that
name. Otherwise it ends with an announced denial. -/
theorem allowed_iff_exists_rule {raws : List Value} {guard : Guard}
    (compiled : compile .controller raws = .ok guard) (answer : assertions.Answer)
    (covers : assertions.Cover guard.grants) (resourcesFrom : List Guard) :
    ∃ rules service, readRules .controller 0 raws = .ok rules ∧
      Service.ofGuards assertions resourcesFrom [guard] = (.ok (), service) ∧
      ∀ (scene : Scene) (ref : GuardRef) (identity : Option Identity) (defaultRole : Word)
        (c : Word) (action : Option Word) (method : Word) (bus : BusRef) (depth : Nat),
        scene.site.Stands ref guard service (.of identity defaultRole) →
        scene.event.Undecided (.controller c action method) bus →
        let outcome := ((Run.guard (Run.trigger depth) ref).on scene).2.event.outcome
          GuardKind.controller.id
        let granted := ∃ rule ∈ rules,
          (∃ role ∈ rule.roles, RoleCounts identity defaultRole role) ∧
          ∃ c' ∈ rule.controllers, ∃ a' ∈ rule.actions,
            (controllerResource c' a' = controllerResource c none ∨
              (∃ a, action = some a ∧ a ≠ .text "" ∧
                controllerResource c' a' = controllerResource c (some a)) ∨
              (method ≠ .text "" ∧ controllerResource c' a' = controllerResource c (some method))) ∧
            ∀ name, rule.assertion = some name →
              assertions.Agree name identity (controllerResource c' a')
        (outcome = .allowed ↔ granted) ∧ (¬ granted → outcome = .errorTriggered) := by
  obtain ⟨rules, read, rfl⟩ := exists_rules_of_compile compiled
  have covered : ∀ guard ∈ [ofRules .controller rules], assertions.Cover guard.grants :=
    List.forall_mem_singleton.2 covers
  obtain ⟨service, built, -⟩ := Service.exists_ofGuards resourcesFrom covered
  refine ⟨rules, service, read, built, ?_⟩
  intro scene ref identity defaultRole c action method bus depth stands undecided outcome granted
  have isService : service =
      (Service.ofGuards assertions resourcesFrom [ofRules .controller rules]).2 := by rw [built]
  rw [isService] at stands
  obtain ⟨yes, no⟩ := outcome_of_rules answer covers resourcesFrom stands undecided depth
  -- a rule grants by the name that it shares with one of the segments
  have iff : granted ↔ ∃ rule ∈ rules, ∃ segment ∈ Aim.segments action method,
      rule.Grants assertions identity defaultRole (controllerResource c segment) := by
    constructor
    · rintro ⟨rule, mem, holds, c', listed, a', listed', names, agrees⟩
      obtain ⟨segment, mem', eq⟩ : ∃ segment ∈ Aim.segments action method,
          controllerResource c' a' = controllerResource c segment := by
        simp only [Aim.mem_segments]
        rcases names with eq | ⟨a, rfl, ne, eq⟩ | ⟨ne, eq⟩
        · exact ⟨none, .inl rfl, eq⟩
        · exact ⟨some a, .inr (.inl ⟨a, rfl, ne, rfl⟩), eq⟩
        · exact ⟨some method, .inr (.inr ⟨ne, rfl⟩), eq⟩
      rw [eq] at agrees
      exact ⟨rule, mem, segment, mem', holds, ⟨c', listed, a', listed', eq⟩, agrees⟩
    · rintro ⟨rule, mem, segment, mem', holds, ⟨c', listed, a', listed', eq⟩, agrees⟩
      refine ⟨rule, mem, holds, c', listed, a', listed', ?_, by rwa [eq]⟩
      rcases Aim.mem_segments.1 mem' with rfl | ⟨a, isAction, ne, rfl⟩ | ⟨ne, rfl⟩
      · exact .inl eq
      · exact .inr (.inl ⟨a, isAction, ne, eq⟩)
      · exact .inr (.inr ⟨ne, eq⟩)
  refine ⟨⟨fun allowed => ?_, fun grants => yes (iff.1 grants)⟩, fun none => no (mt iff.2 none)⟩
  by_cases grants : granted
  · exact grants
  · have denied : outcome = .errorTriggered := no (mt iff.2 grants)
    exact absurd (allowed.symm.trans denied) (by decide)

/-- Editors with an identity may edit users, by any method. -/
theorem allowed_iff_exists_rule_edit :
    let table : Assertions := [("known", fun identity _ _ => .ok identity.isSome)]
    let rule : Rule := ⟨["users"], [some "Edit"], [], ["editor"], some "known"⟩
    let guard := ofRules .controller [rule]
    let service := (Service.ofGuards table [guard] [guard]).2
    let scene : Scene :=
      { site := .around guard service (.fixed (some ⟨"ada", ["editor"]⟩) "guest")
        event := .fresh "users" (some "edit") "POST" }
    compile .controller [.rule rule] = .ok guard ∧ table.Answer ∧ table.Cover guard.grants ∧
      ((Run.guard (Run.trigger 1) 0).on scene).2.event.outcome GuardKind.controller.id =
        .allowed := by
  intro table rule guard service scene
  have compiled : compile .controller [.rule rule] = .ok guard := rfl
  have answer : table.Answer := by
    intro entry mem identity resource privilege
    rw [List.mem_singleton.1 mem]
    exact ⟨identity.isSome, rfl⟩
  have covers : table.Cover guard.grants := by
    intro grant mem name named
    rw [List.mem_singleton.1 mem] at named
    cases named
    rfl
  refine ⟨compiled, answer, covers, ?_⟩
  obtain ⟨rules, loaded, read, built, decides⟩ :=
    allowed_iff_exists_rule compiled answer covers [guard]
  cases read
  have isService : loaded = service := by rw [show service = _ from congrArg Prod.snd built]
  subst isService
  have stands : scene.site.Stands 0 guard service (.of (some ⟨"ada", ["editor"]⟩) "guest") :=
    Site.stands_around guard service (.fixed (some ⟨"ada", ["editor"]⟩) "guest")
  have undecided : scene.event.Undecided (.controller "users" (some "edit") "POST") 0 :=
    Event.undecided_fresh "users" (some "edit") "POST"
  refine (decides scene 0 _ _ "users" (some "edit") "POST" 0 1 stands undecided).1.2 ?_
  refine ⟨rule, List.mem_singleton_self rule, ⟨"editor", by simp [rule], by simp [RoleCounts]⟩,
    "users", by simp [rule], some "Edit", by simp [rule], ?_, ?_⟩
  · exact .inr (.inl ⟨"edit", rfl, by decide, by decide⟩)
  · rintro name ⟨⟩
    exact ⟨_, rfl, rfl⟩

/-! ## Whose rules grant a controller -/

/-- What a service of controller rules allows is the name of a target that one of them lists. -/
theorem ensures_listed (assertions : Assertions) (resourcesFrom : List Guard) (rules : List Rule)
    (caller : Caller) (resource : Word) :
    Ensures ((Service.ofGuards assertions resourcesFrom [ofRules .controller rules]).2.isAllowed
        caller (.ofWord resource) .null)
      fun allowed => allowed = true → ∃ rule ∈ rules, ∃ c' ∈ rule.controllers,
        ∃ a' ∈ rule.actions, controllerResource c' a' = resource := by
  intro calls allowed after eq yes
  obtain ⟨stored, mem, same⟩ :=
    Service.ensures_isAllowed _ caller (.ofWord resource) .null calls allowed after eq yes
  obtain ⟨guard, only, grant, mem', about⟩ := Service.exists_grant_of_mem_allows mem
  rw [List.mem_singleton.1 only, ofRules_grants, List.mem_flatMap] at mem'
  obtain ⟨rule, isRule, isGrant⟩ := mem'
  obtain ⟨name, named, rfl⟩ := List.mem_map.1 isGrant
  obtain ⟨c', listed, named⟩ := List.mem_flatMap.1 named
  obtain ⟨a', listed', rfl⟩ := List.mem_map.1 named
  rw [about, Value.beq_ofWord, beq_iff_eq] at same
  exact ⟨rule, isRule, c', listed, a', listed', same.symm⟩

/-- **Whose rules grant a controller.** A guard over a service that was loaded with its grants lets
an event pass only if one of its rules lists the event's controller, with no action or with one that
is, up to letter case, the event's action or method; or if a target of the rules and one of the
event share a name although their controllers differ, since one overshadows the other. There is no
other way for targets to share a name. -/
theorem exists_rule_of_allowed {raws : List Value} {guard : Guard}
    (compiled : compile .controller raws = .ok guard) (assertions : Assertions)
    (resourcesFrom : List Guard) :
    ∃ rules, readRules .controller 0 raws = .ok rules ∧
      (∀ (scene : Scene) (ref : GuardRef) (caller : Caller) (c : Word) (action : Option Word)
        (method : Word) (depth : Nat),
        scene.site.Stands ref guard (Service.ofGuards assertions resourcesFrom [guard]).2 caller →
        scene.event.AimsAt (.controller c action method) →
        scene.event.outcome GuardKind.controller.id = .unchecked →
        ((Run.guard (Run.trigger depth) ref).on scene).2.event.outcome GuardKind.controller.id =
          .allowed →
        ∃ rule ∈ rules, ∃ c' ∈ rule.controllers, ∃ a' ∈ rule.actions,
          (c' = c ∧ ∀ x, a' = some x →
            (∃ a, action = some a ∧ x.lowercase = a.lowercase) ∨ x.lowercase = method.lowercase) ∨
          ∃ segment, (segment = none ∨ segment = action ∨ segment = some method) ∧
            (Overshadows c segment c' a' ∨ Overshadows c' a' c segment)) ∧
      ∀ (c c' : Word) (a a' : Option Word),
        controllerResource c a = controllerResource c' a' ↔
          (c = c' ∧ a.map Word.lowercase = a'.map Word.lowercase) ∨
            Overshadows c a c' a' ∨ Overshadows c' a' c a := by
  obtain ⟨rules, read, rfl⟩ := exists_rules_of_compile compiled
  refine ⟨rules, read, ?_, fun _ _ _ _ => controllerResource_eq_iff⟩
  intro scene ref caller c action method depth stands aims unchecked allowed
  have kind : (scene.site.guards.get ref).guard.kind = .controller := by rw [stands.guard]; rfl
  obtain ⟨resource, candidate, rule, mem, c', listed, a', listed', eq⟩ :=
    Run.exists_candidate_of_allowed kind stands.consults
      (ensures_listed assertions resourcesFrom rules caller) aims unchecked allowed
  obtain ⟨segment, mem', rfl⟩ := List.mem_map.1 candidate
  refine ⟨rule, mem, c', listed, a', listed', ?_⟩
  have isSegment : segment = none ∨ segment = action ∨ segment = some method := by
    rcases Aim.mem_segments.1 mem' with rfl | ⟨a, isAction, -, rfl⟩ | ⟨-, rfl⟩
    · exact .inl rfl
    · exact .inr (.inl isAction.symm)
    · exact .inr (.inr rfl)
  -- the shared name belongs to one target, or one overshadows the other
  rcases controllerResource_eq_iff.1 eq with ⟨same, lower⟩ | overshadows | overshadows
  · refine .inl ⟨same, ?_⟩
    rintro x rfl
    rcases isSegment with rfl | rfl | rfl
    · cases lower
    · obtain ⟨a, isAction, eq⟩ := Option.map_eq_some_iff.1 lower.symm
      exact .inl ⟨a, isAction, eq.symm⟩
    · exact .inr (Option.some.inj lower)
  · exact .inr ⟨segment, isSegment, .inr overshadows⟩
  · exact .inr ⟨segment, isSegment, .inl overshadows⟩

/-- A rule for all of a controller lets an event of that controller pass. -/
theorem exists_rule_of_allowed_users :
    let rule : Rule := ⟨["users"], [none], [], ["guest"], none⟩
    let guard := ofRules .controller [rule]
    let service := (Service.ofGuards [] [] [guard]).2
    let scene : Scene :=
      { site := .around guard service (.fixed none "guest"), event := .fresh "users" none "GET" }
    compile .controller [.rule rule] = .ok guard ∧
      ((Run.guard (Run.trigger 1) 0).on scene).2.event.outcome GuardKind.controller.id =
        .allowed ∧
      ∃ rules, readRules .controller 0 [.rule rule] = .ok rules ∧
        ∃ rule ∈ rules, ∃ c' ∈ rule.controllers, ∃ a' ∈ rule.actions,
          (c' = "users" ∧ ∀ x, a' = some x →
            (∃ a : Word, none = some a ∧ x.lowercase = a.lowercase) ∨
              x.lowercase = Word.lowercase "GET") ∨
          ∃ segment : Option Word,
            (segment = none ∨ segment = none ∨ segment = some (.text "GET")) ∧
            (Overshadows "users" segment c' a' ∨ Overshadows c' a' "users" segment) := by
  intro rule guard service scene
  have compiled : compile .controller [.rule rule] = .ok guard := rfl
  have undecided := Event.undecided_fresh "users" none "GET"
  have allowed : ((Run.guard (Run.trigger 1) 0).on scene).2.event.outcome
      GuardKind.controller.id = .allowed := by rfl
  obtain ⟨rules, read, grants, -⟩ := exists_rule_of_allowed compiled [] []
  exact ⟨compiled, allowed, rules, read, grants scene 0 _ "users" none "GET" 1
    (Site.stands_around guard service (.fixed none "guest")) undecided.aims undecided.unchecked
    allowed⟩

/-- **Not only a controller's own rules grant it**: one for the action of another controller does,
if the names run together at the colon. -/
theorem allowed_by_foreign_rule :
    let rule : Rule := ⟨["users"], [some "edit"], [], ["guest"], none⟩
    let guard := ofRules .controller [rule]
    let service := (Service.ofGuards [] [] [guard]).2
    let scene : Scene :=
      { site := .around guard service (.fixed none "guest")
        event := .fresh "users:edit" none "GET" }
    compile .controller [.rule rule] = .ok guard ∧
      readRules .controller 0 [.rule rule] = .ok [rule] ∧
      Service.ofGuards [] [] [guard] = (.ok (), service) ∧
      ((Run.guard (Run.trigger 1) 0).on scene).2.event.outcome GuardKind.controller.id =
        .allowed ∧
      (¬ ∃ rule' ∈ [rule], .text "users:edit" ∈ rule'.controllers) ∧
      controllerResource "users:edit" none = controllerResource "users" (some "edit") := by
  intro rule guard service scene
  refine ⟨rfl, rfl, rfl, rfl, ?_, rfl⟩
  simp [rule]

end Guard

end GuardedDispatch
