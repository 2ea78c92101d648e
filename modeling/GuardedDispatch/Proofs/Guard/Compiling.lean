import GuardedDispatch.Proofs.Access.Loading
import GuardedDispatch.Proofs.Guard.Admitting
import Mathlib.Algebra.GroupWithZero.Nat

/-! # What guards are compiled to

A rule names its resources at places (`GuardKind.NamesAt`), controllers first and then their
actions, and the grants of a guard are those of its rules one after the other.

* **`Guard.getElem?_grants_iff`**: which grant stands at a place, so that none is merged with
  another and none is left out.
* **`FirstOccurrences`**: the resources of a guard are those of its grants, each where it is named
  first.
* **`Grant.RecordedBy`**: what a service stores for a grant. Loading the positional rules of a guard
  stores one such rule for each grant (`Guard.stores_ruleMap`), although these come in two
  lengths. -/

namespace GuardedDispatch

/-! ## Blocks of a list -/

variable {α β : Type}

/-- **Blocks one after the other** hold what each of them holds, behind all that come before it. -/
theorem getElem?_flatMap_iff {block : α → List β} {items : List α} {place : Nat} {value : β} :
    (items.flatMap block)[place]? = some value ↔
      ∃ index item offset, items[index]? = some item ∧ (block item)[offset]? = some value ∧
        place = ((items.take index).map fun item => (block item).length).sum + offset := by
  induction items generalizing place with
  | nil => simp
  | cons first rest ih =>
    rw [List.flatMap_cons]
    constructor
    · intro found
      by_cases inside : place < (block first).length
      · rw [List.getElem?_append_left inside] at found
        exact ⟨0, first, place, rfl, found, by simp⟩
      · have behind : (block first).length ≤ place := Nat.le_of_not_lt inside
        rw [List.getElem?_append_right behind] at found
        obtain ⟨index, item, offset, isItem, inBlock, eq⟩ := ih.1 found
        refine ⟨index + 1, item, offset, isItem, inBlock, ?_⟩
        rw [List.take_succ_cons, List.map_cons, List.sum_cons]
        omega
    · rintro ⟨_ | index, item, offset, isItem, inBlock, rfl⟩
      · cases isItem
        obtain ⟨inside, -⟩ := List.getElem?_eq_some_iff.1 inBlock
        simpa [List.getElem?_append_left inside] using inBlock
      · rw [List.take_succ_cons, List.map_cons, List.sum_cons, Nat.add_assoc,
          List.getElem?_append_right (Nat.le_add_right _ _), Nat.add_sub_cancel_left]
        exact ih.2 ⟨index, item, offset, isItem, inBlock, rfl⟩

/-- A list **holds the first occurrences** of another: the same items, each once, in the order in
which they are found first. -/
structure FirstOccurrences [BEq α] (items firsts : List α) : Prop where
  mem_iff : ∀ item, item ∈ firsts ↔ item ∈ items
  ordered : firsts.Pairwise fun a b => items.idxOf a < items.idxOf b

/-- What passes a test is found in the same order without the test. -/
theorem idxOf_lt_of_filter [BEq α] [LawfulBEq α] {test : α → Bool} {items : List α} {a b : α}
    (passes : test a = true) (passes' : test b = true)
    (lt : (items.filter test).idxOf a < (items.filter test).idxOf b) :
    items.idxOf a < items.idxOf b := by
  induction items with
  | nil => simp at lt
  | cons first rest ih =>
    by_cases kept : test first = true
    · rw [List.filter_cons_of_pos kept] at lt
      by_cases isB : first = b
      · -- nothing is found before the first item
        rw [isB, List.idxOf_cons_self] at lt
        exact absurd lt (Nat.not_lt_zero _)
      · rw [List.idxOf_cons_ne _ isB] at lt ⊢
        by_cases isA : first = a
        · rw [isA, List.idxOf_cons_self]
          exact Nat.succ_pos _
        · rw [List.idxOf_cons_ne _ isA] at lt ⊢
          exact Nat.succ_lt_succ (ih (Nat.lt_of_succ_lt_succ lt))
    · -- an item that fails the test is neither of the two
      have isA : first ≠ a := by rintro rfl; exact kept passes
      have isB : first ≠ b := by rintro rfl; exact kept passes'
      rw [List.filter_cons_of_neg kept] at lt
      rw [List.idxOf_cons_ne _ isA, List.idxOf_cons_ne _ isB]
      exact Nat.succ_lt_succ (ih lt)

/-- **Dropping later duplicates** leaves the first occurrences. -/
theorem firstOccurrences_eraseDups [BEq α] [LawfulBEq α] :
    ∀ items : List α, FirstOccurrences items items.eraseDups
  | [] => ⟨by simp, by simp⟩
  | first :: rest => by
    have others := firstOccurrences_eraseDups (rest.filter fun b => !b == first)
    refine ⟨fun _ => List.mem_eraseDups, ?_⟩
    have differs : ∀ item ∈ (rest.filter fun b => !b == first).eraseDups, item ≠ first := by
      intro item mem
      have mem := List.mem_filter.1 (List.mem_eraseDups.1 mem)
      simpa using mem.2
    rw [List.eraseDups_cons, List.pairwise_cons]
    constructor
    · intro item mem
      rw [List.idxOf_cons_self, List.idxOf_cons_ne _ (differs item mem).symm]
      exact Nat.succ_pos _
    · refine others.ordered.imp_of_mem fun {a b} memA memB lt => ?_
      have neA := differs a memA
      have neB := differs b memB
      have lt : rest.idxOf a < rest.idxOf b :=
        idxOf_lt_of_filter (by simpa using neA) (by simpa using neB) lt
      rw [List.idxOf_cons_ne _ neA.symm, List.idxOf_cons_ne _ neB.symm]
      exact Nat.succ_lt_succ lt
termination_by items => items.length
decreasing_by exact Nat.lt_succ_of_le (List.length_filter_le _ _)

/-! ## The grants of rules -/

/-- How many resources a rule names, each as often as it is named. -/
def GuardKind.count (kind : GuardKind) (rule : Rule) : Nat :=
  match kind with
  | .controller => rule.controllers.length * rule.actions.length
  | .route => rule.routes.length

/-- A rule **names** a resource **at a place**. -/
inductive GuardKind.NamesAt : GuardKind → Rule → Nat → Word → Prop where
  /-- Actions follow each other, and all of them the controllers before theirs. -/
  | controller {rule : Rule} {i j : Nat} {controller : Word} {action : Option Word}
    (listed : rule.controllers[i]? = some controller) (listed' : rule.actions[j]? = some action) :
    NamesAt .controller rule (i * rule.actions.length + j) (controllerResource controller action)
  /-- Routes follow each other. -/
  | route {rule : Rule} {i : Nat} {route : Word} (listed : rule.routes[i]? = some route) :
    NamesAt .route rule i (routeResource route)

namespace GuardKind

variable {kind : GuardKind} {rule : Rule}

/-- The resources of a rule are those that it names, at their places. -/
theorem getElem?_resourcesOf_iff {place : Nat} {resource : Word} :
    (kind.resourcesOf rule)[place]? = some resource ↔ kind.NamesAt rule place resource := by
  cases kind with
  | controller =>
    simp only [resourcesOf, getElem?_flatMap_iff, List.getElem?_map, Option.map_eq_some_iff,
      List.length_map]
    -- all blocks before a controller are as long as there are actions
    have before : ∀ {i : Nat} {controller : Word}, rule.controllers[i]? = some controller →
        ((rule.controllers.take i).map fun _ => rule.actions.length).sum =
          i * rule.actions.length := by
      intro i controller listed
      obtain ⟨inside, -⟩ := List.getElem?_eq_some_iff.1 listed
      simp [Nat.min_eq_left (Nat.le_of_lt inside)]
    constructor
    · rintro ⟨i, controller, j, listed, ⟨action, listed', rfl⟩, rfl⟩
      rw [before listed]
      exact .controller listed listed'
    · rintro (@⟨_, i, j, controller, action, listed, listed'⟩)
      exact ⟨i, controller, j, listed, ⟨action, listed', rfl⟩, by rw [before listed]⟩
  | route =>
    simp only [resourcesOf, List.getElem?_map, Option.map_eq_some_iff]
    constructor
    · rintro ⟨route, listed, rfl⟩
      exact .route listed
    · rintro (_ | listed)
      exact ⟨_, listed, rfl⟩

/-- A rule is expanded to a grant for each resource that it names. -/
theorem length_grantsOf (kind : GuardKind) (rule : Rule) :
    (kind.grantsOf rule).length = kind.count rule := by
  cases kind <;> simp [grantsOf, resourcesOf, count, List.length_flatMap]

/-- **The grants of a rule** have its roles and its assertion, and the resources that it names. -/
theorem getElem?_grantsOf_iff {place : Nat} {grant : Grant} :
    (kind.grantsOf rule)[place]? = some grant ↔
      kind.NamesAt rule place grant.resource ∧ grant.roles = rule.roles ∧
        grant.assertion = rule.assertion := by
  rw [grantsOf, List.getElem?_map, Option.map_eq_some_iff]
  constructor
  · rintro ⟨resource, found, rfl⟩
    exact ⟨getElem?_resourcesOf_iff.1 found, rfl, rfl⟩
  · rintro ⟨names, roles, assertion⟩
    refine ⟨grant.resource, getElem?_resourcesOf_iff.2 names, ?_⟩
    rw [← roles, ← assertion]

end GuardKind

/-! ## The rules of a service -/

/-- A stored rule **records** a grant: it has the same roles, resource and name of an assertion,
whose entry is the one of the table, and no privilege. -/
structure Grant.RecordedBy (assertions : Assertions) (grant : Grant) (rule : StoredRule) :
    Prop where
  roles : rule.roles = grant.roles
  resource : rule.resource = .ofWord grant.resource
  privilege : rule.privilege = .null
  name : rule.assertion.map (.text ·.1) = grant.assertion
  entry : ∀ entry, rule.assertion = some entry → assertions.entry? (.text entry.1) = some entry

/-- The entry of a name is under that name. -/
theorem Assertions.fst_of_entry? {assertions : Assertions} {name : Word}
    {entry : String × Assertion} (found : assertions.entry? name = some entry) :
    .text entry.1 = name := by
  have same := List.find?_some found
  exact (beq_iff_eq.1 same).symm

/-- What is stored for a grant records it, if there is an entry for its assertion. -/
theorem Grant.recordedBy_stored {assertions : Assertions} {grant : Grant}
    (covers : assertions.Cover [grant]) :
    grant.RecordedBy assertions (grant.stored assertions) := by
  have entry : ∀ name, grant.assertion = some name → ∃ entry,
      assertions.entry? name = some entry ∧ .text entry.1 = name := by
    intro name named
    have isSome := covers grant (List.mem_singleton_self grant) name named
    obtain ⟨entry, found⟩ := Option.isSome_iff_exists.1 isSome
    exact ⟨entry, found, Assertions.fst_of_entry? found⟩
  refine ⟨rfl, rfl, rfl, ?_, ?_⟩
  · show (grant.assertion.bind assertions.entry?).map (.text ·.1) = grant.assertion
    cases named : grant.assertion with
    | none => rfl
    | some name =>
      obtain ⟨found, isEntry, same⟩ := entry name named
      rw [Option.bind_some, isEntry, Option.map_some, same]
  · intro found eq
    obtain ⟨name, named, isEntry⟩ := Option.bind_eq_some_iff.1 eq
    rwa [Assertions.fst_of_entry? isEntry]

namespace Guard

variable {kind : GuardKind}

/-- **The grants of rules** are those of each rule, behind all those of the rules before it. -/
theorem getElem?_grants_iff {rules : List Rule} {place : Nat} {grant : Grant} :
    (ofRules kind rules).grants[place]? = some grant ↔
      ∃ index rule offset, rules[index]? = some rule ∧
        kind.NamesAt rule offset grant.resource ∧ grant.roles = rule.roles ∧
        grant.assertion = rule.assertion ∧
        place = ((rules.take index).map kind.count).sum + offset := by
  simp only [ofRules_grants, getElem?_flatMap_iff, GuardKind.getElem?_grantsOf_iff,
    GuardKind.length_grantsOf, and_assoc]

/-- There are no other grants. -/
theorem length_grants (kind : GuardKind) (rules : List Rule) :
    (ofRules kind rules).grants.length = (rules.map kind.count).sum := by
  rw [ofRules_grants, List.length_flatMap]
  simp only [GuardKind.length_grantsOf]

/-- Rules that are read and have targets are compiled. -/
theorem compile_eq_ok {raws : List Value} {rules : List Rule}
    (mean : List.Forall₂ (fun raw rule => raw.Means rule ∧ kind.targetsOf rule ≠ []) raws rules) :
    compile kind raws = .ok (ofRules kind rules) := by
  have read : readRules kind 0 raws = .ok rules := by
    rw [readRules_eq_ok_iff]
    exact mean.imp fun _ _ both => readRule_eq_ok_iff.2 both
  rw [compile, read]
  rfl

/-- The positional rules of a guard as a **map of rules** to load. -/
def ruleMap (guard : Guard) : Value :=
  .map [(.str RuleKind.allow.word, .list guard.positionalRules)]

/-- Loading the map of a guard stores its positional rules. -/
theorem storeRules_ruleMap (guard : Guard) :
    Service.storeRules guard.ruleMap = Service.storeGuard guard := by
  show (do Service.storeGuard guard; Service.storeSection .deny (.list [])) = _
  exact bind_pure_unit

/-- **Loading the map of a guard** stores one rule for each grant, which records it, behind the
stored rules of a service that has the assertions. -/
theorem stores_ruleMap {guard : Guard} {service : Service}
    (covers : service.assertions.Cover guard.grants) :
    ∃ after stored, service.build (Service.storeRules guard.ruleMap) = (.ok (), after) ∧
      Service.StoredBehind service after stored ∧
      List.Forall₂ (Grant.RecordedBy service.assertions) guard.grants stored := by
  obtain ⟨after, done, behind⟩ := Service.stores_storeGuard covers service rfl
  refine ⟨after, guard.grants.map (Grant.stored service.assertions), ?_, behind, ?_⟩
  · rw [storeRules_ruleMap]
    exact done
  · rw [List.forall₂_map_right_iff, List.forall₂_same]
    exact fun grant mem => Grant.recordedBy_stored (covers.single mem)

/-- **What guards are compiled to.** Raw rules that mean rules with targets are compiled to a guard
that has a grant, with the roles and the assertion of its rule, for each resource that a rule names,
in the order of the rules and of the places in them, and no other; its resources are the first
occurrences of those of its grants. A service that has the assertions, whatever else it stores and
whoever asks it, stores for each grant one more rule that allows, which records it, and nothing
else. -/
theorem compile_and_load (kind : GuardKind) {raws : List Value} {rules : List Rule}
    (mean : List.Forall₂ (fun raw rule => raw.Means rule ∧ kind.targetsOf rule ≠ []) raws rules) :
    ∃ guard, compile kind raws = .ok guard ∧
      guard.grants.length = (rules.map kind.count).sum ∧
      (∀ place grant, guard.grants[place]? = some grant ↔
        ∃ index rule offset, rules[index]? = some rule ∧
          kind.NamesAt rule offset grant.resource ∧ grant.roles = rule.roles ∧
          grant.assertion = rule.assertion ∧
          place = ((rules.take index).map kind.count).sum + offset) ∧
      FirstOccurrences (guard.grants.map (·.resource)) guard.resources ∧
      ∀ service : Service, service.assertions.Cover guard.grants →
        ∃ after stored, service.build (Service.storeRules guard.ruleMap) = (.ok (), after) ∧
          after.assertions = service.assertions ∧ after.allows = service.allows ++ stored ∧
          after.denies = service.denies ∧
          List.Forall₂ (Grant.RecordedBy service.assertions) guard.grants stored := by
  refine ⟨ofRules kind rules, compile_eq_ok mean, length_grants kind rules, ?_, ?_, ?_⟩
  · intro place grant
    exact getElem?_grants_iff
  · exact firstOccurrences_eraseDups _
  · intro service covers
    obtain ⟨after, stored, done, ⟨table, allows, denies⟩, recorded⟩ := stores_ruleMap covers
    exact ⟨after, stored, done, table, allows, denies, recorded⟩

/-- Raw rules that name a controller twice, no action at all, and a resource of another rule: five
grants with two resources, of which four have an assertion without a name. -/
theorem compile_and_load_users :
    let raws : List Value := [
      .map [(.str "controller", .ofWords ["users", "users"]),
        (.str "action", .list [.str "Edit", .null]), (.str "roles", .str "admin"),
        (.str "assertion", .str "")],
      .map [(.str "controller", .str "posts"), (.str "action", .list []),
        (.str "roles", .str "admin")],
      .map [(.str "controllers", .str "users"), (.str "role", .str "guest")]]
    let rules : List Rule := [⟨["users", "users"], [some "Edit", none], [], ["admin"], some ""⟩,
      ⟨["posts"], [], [], ["admin"], none⟩, ⟨["users"], [none], [], ["guest"], none⟩]
    let service : Service := { assertions := [("", fun _ _ _ => .ok true)] }
    List.Forall₂ (fun raw rule => raw.Means rule ∧ GuardKind.controller.targetsOf rule ≠ [])
        raws rules ∧
      ∃ guard, compile .controller raws = .ok guard ∧ service.assertions.Cover guard.grants ∧
        guard.grants.length = 5 ∧
        guard.grants[4]? = some ⟨["guest"], "controller/users", none⟩ ∧
        guard.resources = [.text "controller/users:edit", .text "controller/users"] ∧
        ∃ after stored, service.build (Service.storeRules guard.ruleMap) = (.ok (), after) ∧
          after.allows = stored ∧
          List.Forall₂ (Grant.RecordedBy service.assertions) guard.grants stored := by
  intro raws rules service
  have mean : List.Forall₂ (fun raw rule => raw.Means rule ∧
      GuardKind.controller.targetsOf rule ≠ []) raws rules := by
    refine .cons ⟨Rule.ofRaw_eq_ok_iff.1 rfl, ?_⟩ (.cons ⟨Rule.ofRaw_eq_ok_iff.1 rfl, ?_⟩
      (.cons ⟨Rule.ofRaw_eq_ok_iff.1 rfl, ?_⟩ .nil)) <;> exact List.cons_ne_nil _ _
  obtain ⟨guard, compiled, counted, placed, -, loads⟩ := compile_and_load .controller mean
  have isGuard : guard = ofRules .controller rules :=
    Except.ok.inj (compiled.symm.trans (compile_eq_ok mean))
  have covers : service.assertions.Cover guard.grants := by
    intro grant mem name named
    -- the only name in use is the empty one
    have isEmpty : ∀ grant ∈ guard.grants,
        grant.assertion = some (.text "") ∨ grant.assertion = none := by
      rw [isGuard]
      decide
    rcases isEmpty grant mem with eq | eq
    · rw [eq] at named
      cases named
      rfl
    · rw [eq] at named
      cases named
  obtain ⟨after, stored, done, -, allows, -, recorded⟩ := loads service covers
  refine ⟨mean, guard, compiled, covers, counted, ?_, ?_, after, stored, done, allows, recorded⟩
  · let guests : Rule := ⟨["users"], [none], [], ["guest"], none⟩
    have names : GuardKind.controller.NamesAt guests 0 (controllerResource "users" none) :=
      @GuardKind.NamesAt.controller guests 0 0 "users" none rfl rfl
    exact (placed _ _).2 ⟨2, guests, 0, rfl, names, rfl, rfl, rfl⟩
  · rw [isGuard]
    rfl

end Guard

end GuardedDispatch
