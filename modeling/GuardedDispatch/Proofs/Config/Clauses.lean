import GuardedDispatch.Proofs.Config.Refusing

/-! # Clauses

A positional rule is read by its **parts** (`Value.part`): the roles, the resource, the privilege
and the assertion, of which the last two may be left out. A rule with parts of the right kinds is a
**clause** (`Value.IsClause`), and so is every grant of a guard in its positional form.

* **Storing a clause** makes its resource known and stores the rule that it says (`Value.stored`),
  unless the table of assertions lacks the one that it names (`Assertions.Lacks`,
  `Service.settle_clause`).
* **`Service.Enacts`**: steps that succeed on any service with a table, and add resources and rules
  of both kinds to it. -/

namespace GuardedDispatch

namespace Value

/-! ## Parts -/

/-- The **part** of a positional rule at a position; what is left out is absent. -/
def part (rule : Value) (position : Nat) : Value :=
  ((rule.items?.getD [])[position]?).getD .null

/-- A value **names** a role: it is the text of the role, or a list that holds it. -/
def NamesRole (roles : Value) (role : Word) : Prop :=
  roles = .ofWord role ∨ ∃ texts, roles.items? = some texts ∧ .ofWord role ∈ texts

/-- The texts among the roles that a value names. -/
def roleWords (roles : Value) : List Word :=
  roles.word?.toList ++ (roles.items?.getD []).filterMap word?

/-- The parts of a rule are **texts** where they have to be: the roles are a text or a list of
texts, the resource is a text, and so is the assertion unless it is absent. -/
structure HasTexts (rule : Value) : Prop where
  roles : (rule.part 0).isText = true ∨
    ∃ texts, (rule.part 0).items? = some texts ∧ ∀ text ∈ texts, text.isText = true
  resource : (rule.part 1).isText = true
  assertion : rule.part 3 = .null ∨ (rule.part 3).isText = true

/-- A **clause**: a list of two to four parts, which are texts where they have to be. -/
structure IsClause (rule : Value) : Prop extends HasTexts rule where
  positional : Blueprint.isPositional rule = true

/-- **The roles that a value names** are those among its texts. -/
theorem mem_roleWords {roles : Value} {role : Word} :
    role ∈ roles.roleWords ↔ roles.NamesRole role := by
  have listed (items : List Value) : role ∈ items.filterMap word? ↔ .ofWord role ∈ items := by
    simp only [List.mem_filterMap, word?_eq_some_iff, exists_eq_right]
  unfold roleWords NamesRole
  rw [List.mem_append, Option.mem_toList, word?_eq_some_iff, listed]
  cases roles.items? with
  | none => simp
  | some texts => simp

/-- Texts can be members of a set, all of them. -/
theorem unhashableItem?_of_texts {items : List Value} (texts : ∀ item ∈ items, item.isText = true) :
    unhashableItem? items = none := by
  induction items with
  | nil => rfl
  | cons item rest ih =>
    have first := unhashable?_text (texts item List.mem_cons_self)
    have others := ih fun other mem => texts other (List.mem_cons_of_mem item mem)
    rw [unhashableItem?, first, others]
    rfl

/-- A text can be printed. -/
theorem print_of_isText {v : Value} (isText : v.isText = true) : v.print = .ok v.text := by
  have short : v.holdsLong = false := by
    cases v with
    | str s => simp [holdsLong]
    | codes points halves => simp [holdsLong]
    | _ => cases isText
  exact print_of_short short

end Value

/-! ## Assertions -/

namespace Assertions

/-- The **entry** of a table for the name that a value is. -/
def entryOf? (assertions : Assertions) (name : Value) : Option (String × Assertion) :=
  assertions.find? fun entry => name == .str entry.1

/-- The table **lacks** the assertion that a rule names. -/
def Lacks (assertions : Assertions) (rule : Value) : Prop :=
  rule.part 3 ≠ .null ∧ assertions.entryOf? (rule.part 3) = none

/-- Nothing is not the name of an entry. -/
theorem entryOf?_null (assertions : Assertions) : assertions.entryOf? .null = none := by
  refine List.find?_eq_none.2 fun entry _ same => ?_
  cases Value.beq_str_iff.1 same

/-- A table that does not lack the assertion of a rule has its entry, or the rule names none. -/
theorem exists_entry_of_not_lacks {assertions : Assertions} {rule : Value}
    (has : ¬ assertions.Lacks rule) (named : rule.part 3 ≠ .null) :
    ∃ entry, assertions.entryOf? (rule.part 3) = some entry := by
  cases found : assertions.entryOf? (rule.part 3) with
  | none => exact absurd ⟨named, found⟩ has
  | some entry => exact ⟨entry, rfl⟩

end Assertions

/-- The rule that a clause **says**, with the assertion that a table has for it. -/
def Value.stored (assertions : Assertions) (rule : Value) : StoredRule :=
  ⟨(rule.part 0).roleWords, rule.part 1, rule.part 2, assertions.entryOf? (rule.part 3)⟩

/-- A clause **applies** to a role that asks for a resource and a privilege: it names the role and
the resource, demands no other privilege, and its assertion, if it names one, agrees. -/
structure Value.Applies (assertions : Assertions) (identity : Option Identity)
    (resource privilege : Value) (role : Word) (rule : Value) : Prop where
  holds : (rule.part 0).NamesRole role
  about : (resource == rule.part 1) = true
  demands : rule.part 2 = .null ∨ (rule.part 2 == privilege) = true
  agrees : rule.part 3 = .null ∨ ∃ entry, assertions.entryOf? (rule.part 3) = some entry ∧
    entry.2 identity resource privilege = .ok true

/-- **What a clause says applies** where the clause does. -/
theorem Value.appliesTo_stored_iff {assertions : Assertions} {rule : Value}
    (has : ¬ assertions.Lacks rule) {identity : Option Identity} {resource privilege : Value}
    {role : Word} :
    (rule.stored assertions).AppliesTo identity resource privilege role ↔
      Value.Applies assertions identity resource privilege role rule := by
  have covers : (rule.stored assertions).covers role resource privilege = true ↔
      (rule.part 0).NamesRole role ∧ (resource == rule.part 1) = true ∧
        (rule.part 2 = .null ∨ (rule.part 2 == privilege) = true) := by
    simp only [StoredRule.covers, stored, Bool.and_eq_true, Bool.or_eq_true,
      List.contains_iff_mem, mem_roleWords, isNull_iff, and_assoc]
  constructor
  · rintro ⟨covered, agrees⟩
    obtain ⟨holds, about, demands⟩ := covers.1 covered
    refine ⟨holds, about, demands, ?_⟩
    by_cases unnamed : rule.part 3 = .null
    · exact .inl unnamed
    · obtain ⟨entry, found⟩ := Assertions.exists_entry_of_not_lacks has unnamed
      exact .inr ⟨entry, found, agrees entry found⟩
  · rintro ⟨holds, about, demands, agrees⟩
    refine ⟨covers.2 ⟨holds, about, demands⟩, fun entry found => ?_⟩
    have found : assertions.entryOf? (rule.part 3) = some entry := found
    rcases agrees with unnamed | ⟨other, found', ok⟩
    · -- a clause without an assertion has no entry
      rw [unnamed, Assertions.entryOf?_null] at found
      cases found
    · rw [found] at found'
      cases found'
      exact ok

namespace Service

variable {assertions : Assertions}

/-! ## Storing a clause -/

/-- **A positional rule is stored by its parts.** -/
theorem storePositional_eq {rule : Value} (positional : Blueprint.isPositional rule = true)
    (kind : RuleKind) :
    storePositional kind rule =
      storeRule kind (rule.part 0) (rule.part 1) (rule.part 2) (rule.part 3) := by
  obtain ⟨parts, isList, bounds⟩ := (Option.any_eq_true _ _).1 positional
  simp only [Bool.and_eq_true, decide_eq_true_eq] at bounds
  unfold storePositional Value.part
  rw [Blueprint.members?_of_items? isList, isList]
  match parts, bounds with
  | [_, _], _ | [_, _, _], _ | [_, _, _, _], _ => rfl
  | _ :: _ :: _ :: _ :: _ :: _, bounds =>
    have few := bounds.2
    simp only [List.length_cons] at few
    omega

/-- So its fault is that of its parts. -/
theorem ruleFault?_eq {rule : Value} (positional : Blueprint.isPositional rule = true) :
    ruleFault? assertions rule =
      storeFault? assertions (rule.part 0) (rule.part 1) (rule.part 3) := by
  obtain ⟨parts, isList, bounds⟩ := (Option.any_eq_true _ _).1 positional
  simp only [Bool.and_eq_true, decide_eq_true_eq] at bounds
  unfold ruleFault? Value.part
  rw [Blueprint.members?_of_items? isList, isList]
  match parts, bounds with
  | [_, _], _ | [_, _, _], _ | [_, _, _, _], _ => rfl
  | _ :: _ :: _ :: _ :: _ :: _, bounds =>
    have few := bounds.2
    simp only [List.length_cons] at few
    omega

/-- The roles of a clause can be read. -/
theorem readRoles_of_texts {roles : Value} (texts : roles.isText = true ∨
    ∃ texts, roles.items? = some texts ∧ ∀ text ∈ texts, text.isText = true) :
    readRoles roles = .ok roles.roleWords := by
  rcases texts with isText | ⟨texts, isList, areTexts⟩
  · cases roles with
    | str role => rfl
    | codes points halves => rfl
    | _ => cases isText
  · have members := Blueprint.members?_of_items? isList
    have hashable := Value.unhashableItem?_of_texts areTexts
    have notText : roles.word? = none := by
      cases roles with
      | str role => cases isList
      | codes points halves => cases isList
      | _ => rfl
    have read : Value.roleWords roles = texts.filterMap Value.word? := by
      rw [Value.roleWords, notText, isList]
      rfl
    unfold readRoles
    split
    · cases isList
    · cases isList
    · rw [members]
      dsimp only
      rw [hashable, read]

/-- An assertion that a table does not lack is found, or none is named. -/
theorem findAssertion_of_not_lacks {rule : Value} (clause : rule.IsClause)
    (has : ¬ assertions.Lacks rule) (resource : Value) :
    findAssertion { assertions } resource (rule.part 3) =
      .ok (assertions.entryOf? (rule.part 3)) := by
  rcases clause.assertion with unnamed | isText
  · rw [unnamed, findAssertion_null, Assertions.entryOf?_null]
  · have named : rule.part 3 ≠ .null := by
      intro unnamed
      rw [unnamed] at isText
      cases isText
    obtain ⟨entry, found⟩ := Assertions.exists_entry_of_not_lacks has named
    have search : assertions.find? (fun entry => rule.part 3 == .str entry.1) = some entry := found
    have hashable := Value.unhashable?_text isText
    rw [found]
    unfold findAssertion
    split
    · rename_i unnamed
      exact absurd unnamed named
    · rw [hashable, search]
      rfl

/-- **Storing a clause** makes its resource known and stores what it says, if the table has its
assertion. -/
theorem settle_clause {rule : Value} (clause : rule.IsClause) (has : ¬ assertions.Lacks rule)
    (kind : RuleKind) {service : Service} (table : service.assertions = assertions) :
    settle (storePositional kind rule) service =
      (.ok (), (service.learn (rule.part 1)).push kind (rule.stored assertions)) := by
  have found := findAssertion_of_not_lacks clause has (rule.part 1)
  have hashable := Value.unhashable?_text clause.resource
  have roles := readRoles_of_texts clause.roles
  rw [storePositional_eq clause.positional, settle_storeRule, findAssertion_congr table, found,
    hashable, roles]
  rfl

/-- An assertion that a table lacks is **unknown**, which is a fault of configuration. -/
theorem findAssertion_of_lacks {rule : Value} (clause : rule.IsClause)
    (lacks : assertions.Lacks rule) :
    findAssertion { assertions } (rule.part 1) (rule.part 3) =
      .error (.configuration (.unknownAssertion (rule.part 3).text (rule.part 1).text)) := by
  obtain ⟨named, missing⟩ := lacks
  have isText := clause.assertion.resolve_left named
  have hashable := Value.unhashable?_text isText
  have search : assertions.find? (fun entry => rule.part 3 == .str entry.1) = none := missing
  unfold findAssertion
  split
  · rename_i unnamed
    exact absurd unnamed named
  · rw [hashable, search, Value.print_of_isText isText, Value.print_of_isText clause.resource]
    rfl

/-- **A clause has a fault** iff the table lacks its assertion, and the fault is one of
configuration. -/
theorem exists_fault_iff {rule : Value} (clause : rule.IsClause) :
    (∃ failure, ruleFault? assertions rule = some failure) ↔ assertions.Lacks rule := by
  have hashable := Value.unhashable?_text clause.resource
  have roles := readRoles_of_texts clause.roles
  rw [ruleFault?_eq clause.positional, storeFault?, hashable, roles]
  by_cases lacks : assertions.Lacks rule
  · rw [findAssertion_of_lacks clause lacks]
    exact ⟨fun _ => lacks, fun _ => ⟨_, rfl⟩⟩
  · rw [findAssertion_of_not_lacks clause lacks]
    simp [lacks]

/-- The fault of a clause is one of configuration. -/
theorem isConfiguration_of_clause {rule : Value} (clause : rule.IsClause) {failure : Failure}
    (fault : ruleFault? assertions rule = some failure) : failure.IsConfiguration := by
  have lacks := (exists_fault_iff clause).1 ⟨failure, fault⟩
  rw [ruleFault?_eq clause.positional, storeFault?, findAssertion_of_lacks clause lacks] at fault
  cases fault
  exact ⟨_, rfl⟩

/-! ## What steps enact -/

/-- The stored rules of a kind. -/
def stored (service : Service) : RuleKind → List StoredRule
  | .allow => service.allows
  | .deny => service.denies

/-- A service **after** another one to which resources and rules of both kinds were added. -/
structure GrownBy (before after : Service) (resources : List Value)
    (rules : RuleKind → List StoredRule) : Prop where
  table : after.assertions = before.assertions
  stored : ∀ kind, after.stored kind = before.stored kind ++ rules kind
  resources : ∀ resource,
    resource ∈ after.resources ↔ resource ∈ before.resources ∨ resource ∈ resources

/-- Steps that **enact** rules: whatever service with the table they are taken on, they succeed and
add some resources and rules to it. -/
def Enacts (assertions : Assertions) (steps : Building Unit) (resources : List Value)
    (rules : RuleKind → List StoredRule) : Prop :=
  ∀ before : Service, before.assertions = assertions →
    ∃ after, settle steps before = (.ok (), after) ∧ GrownBy before after resources rules

/-- Rules of one kind, and none of the other. -/
def onlyOf (kind : RuleKind) (rules : List StoredRule) (other : RuleKind) : List StoredRule :=
  if other = kind then rules else []

theorem enacts_pure : Enacts assertions (pure ()) [] (fun _ => []) := by
  intro before _
  exact ⟨before, rfl, rfl, by simp, by simp⟩

/-- Steps enact their rules one after the other. -/
theorem enacts_bind {first second : Building Unit} {resources further : List Value}
    {rules more : RuleKind → List StoredRule} (enacts : Enacts assertions first resources rules)
    (enacts' : Enacts assertions second further more) :
    Enacts assertions (first >>= fun _ => second) (resources ++ further)
      (fun kind => rules kind ++ more kind) := by
  intro before table
  obtain ⟨middle, eq, grown⟩ := enacts before table
  obtain ⟨after, eq', grown'⟩ := enacts' middle (grown.table.trans table)
  refine ⟨after, by rw [settle_bind_of_ok eq, eq'], grown'.table.trans grown.table, ?_, ?_⟩
  · intro kind
    rw [grown'.stored, grown.stored, List.append_assoc]
  · intro resource
    rw [grown'.resources, grown.resources, List.mem_append, or_assoc]

/-- What steps enact may be said in other ways. -/
theorem Enacts.congr {steps : Building Unit} {resources others : List Value}
    {rules same : RuleKind → List StoredRule} (enacts : Enacts assertions steps resources rules)
    (mem : ∀ resource, resource ∈ resources ↔ resource ∈ others)
    (eq : ∀ kind, rules kind = same kind) : Enacts assertions steps others same := by
  obtain rfl : rules = same := funext eq
  intro before table
  obtain ⟨after, settled, grown⟩ := enacts before table
  refine ⟨after, settled, grown.table, grown.stored, fun resource => ?_⟩
  rw [grown.resources, mem]

/-- **Going through a list** enacts what each item enacts. -/
theorem enacts_forM {α : Type} {steps : α → Building Unit} {resources : α → List Value}
    {rules : α → RuleKind → List StoredRule} :
    ∀ {items : List α}, (∀ item ∈ items,
        Enacts assertions (steps item) (resources item) (rules item)) →
      Enacts assertions (items.forM steps) (items.flatMap resources)
        (fun kind => items.flatMap fun item => rules item kind)
  | [], _ => enacts_pure
  | item :: rest, each => by
    have others := enacts_forM fun other mem => each other (List.mem_cons_of_mem item mem)
    have both := enacts_bind (each item List.mem_cons_self) others
    simp only [List.flatMap_cons]
    exact both

/-- A text that is learned is one of the resources, and all others are as before. -/
theorem mem_resources_learn {text : Value} (isText : text.isText = true) (service : Service)
    (resource : Value) : resource ∈ (service.learn text).resources ↔
      resource ∈ service.resources ∨ resource ∈ [text] := by
  unfold learn
  split
  · rename_i known
    obtain ⟨other, mem, same⟩ := List.any_eq_true.1 known
    obtain rfl := (Value.text_beq_iff isText).1 same
    constructor
    · exact .inl
    · rintro (mem' | mem')
      · exact mem'
      · rw [List.mem_singleton.1 mem']
        exact mem
  · exact List.mem_append

/-- **Making a text known** adds it to the resources. -/
theorem enacts_addResource {text : Value} (isText : text.isText = true) :
    Enacts assertions (addResource text) [text] (fun _ => []) := by
  intro before _
  refine ⟨before.learn text, ?_, learn_assertions _ _, ?_, mem_resources_learn isText before⟩
  · rw [settle_addResource, Value.unhashable?_text isText]
  · intro kind
    cases kind <;> simp [stored]

/-- **Storing a clause** adds its resource and what it says. -/
theorem enacts_clause {rule : Value} (clause : rule.IsClause) (has : ¬ assertions.Lacks rule)
    (kind : RuleKind) :
    Enacts assertions (storePositional kind rule) [rule.part 1]
      (onlyOf kind [rule.stored assertions]) := by
  intro before table
  refine ⟨_, settle_clause clause has kind table, ?_, ?_, ?_⟩
  · rw [push_assertions, learn_assertions]
  · intro other
    cases kind <;> cases other <;> simp [stored, push, onlyOf]
  · intro resource
    have learned := mem_resources_learn clause.resource before resource
    cases kind <;> exact learned

/-- **Storing clauses** one by one adds what they say, in order. -/
theorem enacts_clauses {rules : List Value} (clauses : ∀ rule ∈ rules, rule.IsClause)
    (has : ∀ rule ∈ rules, ¬ assertions.Lacks rule) (kind : RuleKind) :
    Enacts assertions (rules.forM (storePositional kind)) (rules.map (·.part 1))
      (onlyOf kind (rules.map (Value.stored assertions))) := by
  have all := enacts_forM fun rule mem => enacts_clause (clauses rule mem) (has rule mem) kind
  have single : (fun other => rules.flatMap fun rule =>
      onlyOf kind [rule.stored assertions] other) =
        onlyOf kind (rules.map (Value.stored assertions)) := by
    funext other
    unfold onlyOf
    by_cases same : other = kind
    · simp only [if_pos same, List.map_eq_flatMap]
    · simp only [if_neg same, List.flatMap_eq_nil_iff.2 fun _ _ => rfl]
  rwa [← List.map_eq_flatMap, single] at all

/-! ## Guards -/

/-- **Every grant of a guard** is a clause in its positional form. -/
theorem isClause_of_mem {guard : Guard} {rule : Value} (mem : rule ∈ guard.positionalRules) :
    rule.IsClause := by
  obtain ⟨⟨roles, resource, assertion⟩, -, rfl⟩ := List.mem_map.1 mem
  have words : ∀ text ∈ roles.map Value.ofWord, text.isText = true := by
    intro text mem
    obtain ⟨role, -, rfl⟩ := List.mem_map.1 mem
    exact Value.isText_ofWord role
  have about := Value.isText_ofWord resource
  cases assertion with
  | none => exact ⟨⟨.inr ⟨_, rfl, words⟩, about, .inl rfl⟩, rfl⟩
  | some name =>
    exact ⟨⟨.inr ⟨_, rfl, words⟩, about, .inr (Value.isText_ofWord name)⟩, rfl⟩

/-- The resources of a guard are those of its rules. -/
theorem mem_resources_iff {guard : Guard} {resource : Value} :
    resource ∈ guard.resources.map Value.ofWord ↔
      resource ∈ guard.positionalRules.map (·.part 1) := by
  have about (grant : Grant) : (Value.list grant.positional).part 1 = .ofWord grant.resource := rfl
  unfold Guard.resources Guard.positionalRules
  simp only [List.mem_map, List.mem_eraseDups]
  constructor
  · rintro ⟨_, ⟨grant, mem, rfl⟩, rfl⟩
    exact ⟨_, ⟨grant, mem, rfl⟩, about grant⟩
  · rintro ⟨_, ⟨grant, mem, rfl⟩, rfl⟩
    exact ⟨_, ⟨grant, mem, rfl⟩, (about grant).symm⟩

/-- **Storing a guard** adds what its grants say. -/
theorem enacts_storeGuard {guard : Guard}
    (has : ∀ rule ∈ guard.positionalRules, ¬ assertions.Lacks rule) :
    Enacts assertions (storeGuard guard) (guard.positionalRules.map (·.part 1))
      (onlyOf .allow (guard.positionalRules.map (Value.stored assertions))) :=
  enacts_clauses (fun _ mem => isClause_of_mem mem) has .allow

/-- **Making the resources of a guard known** adds these. -/
theorem enacts_addGuardResources (guard : Guard) :
    Enacts assertions (addGuardResources guard) (guard.resources.map .ofWord) (fun _ => []) := by
  have each : ∀ resource ∈ guard.resources,
      Enacts assertions (addResource (.ofWord resource)) [.ofWord resource] (fun _ => []) := by
    intro resource _
    exact enacts_addResource (Value.isText_ofWord resource)
  have all := enacts_forM each
  have none : (guard.resources.flatMap fun _ => ([] : List StoredRule)) = [] :=
    List.flatMap_eq_nil_iff.2 fun _ _ => rfl
  rwa [← List.map_eq_flatMap, none] at all

end Service

end GuardedDispatch
