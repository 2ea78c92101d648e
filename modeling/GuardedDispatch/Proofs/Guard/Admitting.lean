import GuardedDispatch.Guard.Basic
import GuardedDispatch.Proofs.Stepwise
import Mathlib.Data.List.Forall2

/-! # Which raw rules are admitted

A raw rule may be spelled in many ways. What it says is told here without its reader.

* **Items** (`Value.Lists`): a text and octets are one item, nothing is none, and everything with
  members stands for these.
* **Fields** (`Fields.Describes`): each field of the rule is found under the first of its names and
  spelled by its items (`Value.Spells`).
* **Raw rules** (`Value.Means`): a rule that was read before, or whatever converts to such fields
  (`Value.ConvertsTo`).

The reader finds a rule iff the raw rule means it (`Rule.ofRaw_eq_ok_iff`). So a guard is compiled
iff each of its raw rules means a rule with targets of the guard's kind (`GuardKind.Admits`), and
otherwise the first that does not is named (`Guard.compiles_iff_admits`). -/

namespace GuardedDispatch

namespace Value

/-! ## Words and items -/

/-- A value **spells** a word: it is the word, or its octets in UTF-8. -/
inductive Spells : Value → Word → Prop where
  /-- The word itself. -/
  | word (word : Word) : Spells (.ofWord word) word
  /-- Its octets. -/
  | octets {octets : List UInt8} {s : String} (utf8 : Text.Utf8.decode? octets = some s) :
    Spells (.bytes octets) s

/-- A value spells a word, or **is absent** where there is none. -/
def SpellsOptional (v : Value) : Option Word → Prop
  | none => v = .null
  | some word => v.Spells word

/-- Whether a value is **single**: a text of any kind or octets, which are never taken apart. -/
def isSingle : Value → Bool
  | .str _ | .codes .. | .bytes _ => true
  | _ => false

/-- The **items** that a value lists where a list is wanted. -/
inductive Lists : Value → List Value → Prop where
  /-- What is absent lists nothing. -/
  | nothing : Lists .null []
  /-- What is single lists itself. -/
  | single {v : Value} (single : v.isSingle = true) : Lists v [v]
  /-- Anything else lists its members. -/
  | several {v : Value} {items : List Value} (several : v.isSingle = false)
    (members : v.members? = some items) : Lists v items

/-- A word is read iff it is spelled. -/
theorem readText_eq_ok_iff {v : Value} {word : Word} : readText v = .ok word ↔ v.Spells word := by
  constructor
  · intro read
    unfold readText at read
    split at read
    · rw [← Except.ok.inj read]
      exact .word (.text _)
    · rw [← Except.ok.inj read]
      exact .word (.codes ..)
    · split at read
      · rename_i utf8
        cases read
        exact .octets utf8
      · cases read
    · cases read
  · rintro (_ | utf8)
    · exact readText_ofWord word
    · simp only [readText, utf8]

/-- Nothing is spelled by what is absent. -/
theorem not_spells_null (word : Word) : ¬ Spells .null word := by
  rw [← readText_eq_ok_iff]
  rintro ⟨⟩

/-- An optional word is read iff it is spelled or absent. -/
theorem readText?_eq_ok_iff {v : Value} {word : Option Word} :
    readText? v = .ok word ↔ v.SpellsOptional word := by
  by_cases absent : v = .null
  · subst absent
    cases word with
    | none => exact ⟨fun _ => rfl, fun _ => rfl⟩
    | some word =>
      constructor
      · rintro ⟨⟩
      · exact fun spells => absurd spells (not_spells_null word)
  · have present : readText? v = (readText v).map some := by
      cases v with
      | null => exact absurd rfl absent
      | _ => rfl
    rw [present]
    cases word with
    | none =>
      constructor
      · intro read
        cases found : readText v <;> rw [found] at read <;> cases read
      · exact fun missing => absurd missing absent
    | some word =>
      rw [SpellsOptional, ← readText_eq_ok_iff]
      cases readText v <;> simp [Except.map]

/-- Only what is single or absent is not taken apart. -/
theorem itemsOf_of_several {v : Value} (several : v.isSingle = false) (present : v ≠ .null) :
    itemsOf v = match v.members? with
      | some items => .ok items
      | none => .error (.notIterable v.kindName) := by
  cases v with
  | null => exact absurd rfl present
  | str s => cases several
  | codes points halves => cases several
  | bytes octets => cases several
  | _ => rfl

/-- **Items are found** iff the value lists them. -/
theorem itemsOf_eq_ok_iff {v : Value} {items : List Value} :
    itemsOf v = .ok items ↔ v.Lists items := by
  by_cases absent : v = .null
  · subst absent
    constructor
    · rintro ⟨⟩
      exact .nothing
    · rintro (_ | single | ⟨several, members⟩)
      · rfl
      · cases single
      · cases members
  · cases kind : v.isSingle with
    | true =>
      have alone : itemsOf v = .ok [v] := by
        cases v with
        | str s => rfl
        | codes points halves => rfl
        | bytes octets => rfl
        | _ => cases kind
      rw [alone]
      constructor
      · rintro ⟨⟩
        exact .single kind
      · rintro (_ | single | ⟨several, members⟩)
        · exact absurd rfl absent
        · rfl
        · rw [kind] at several
          cases several
    | false =>
      rw [itemsOf_of_several kind absent]
      constructor
      · intro found
        split at found
        · rename_i members
          cases found
          exact .several kind members
        · cases found
      · rintro (_ | single | ⟨several, members⟩)
        · exact absurd rfl absent
        · rw [kind] at single
          cases single
        · rw [members]

end Value

/-- **Items are read** iff each of them is. -/
theorem readItems_eq_ok_iff {α : Type} {read : Value → Except Lack α} {key : String}
    {position : Nat} {items : List Value} {values : List α} :
    readItems read key position items = .ok values ↔
      List.Forall₂ (fun item value => read item = .ok value) items values := by
  induction items generalizing position values with
  | nil =>
    constructor
    · rintro ⟨⟩
      exact .nil
    · rintro ⟨⟩
      rfl
  | cons item rest ih =>
    constructor
    · intro done
      unfold readItems at done
      split at done
      · rename_i value others first behind
        cases done
        exact .cons first (ih.1 behind)
      · cases done
      · cases done
      · cases done
    · rintro (_ | ⟨first, behind⟩)
      rw [readItems, first, ih.2 behind]

/-! ## Fields -/

/-- The value of a field under the **first of its two names** that is present; a field that is not
there is absent. -/
def Fields.under (fields : Fields) (first second : String) : Value :=
  ((Value.field? fields first).or (Value.field? fields second)).getD .null

/-- Fields **describe** a rule: there are roles; targets and roles are listed by items that spell
them; an action may be absent, and is where no actions are given; and so may the assertion. -/
structure Fields.Describes (fields : Fields) (rule : Rule) : Prop where
  controllers : ∃ items, (fields.under "controller" "controllers").Lists items ∧
    List.Forall₂ Value.Spells items rule.controllers
  noActions : fields.under "action" "actions" = .null → rule.actions = [none]
  actions : fields.under "action" "actions" ≠ .null →
    ∃ items, (fields.under "action" "actions").Lists items ∧
      List.Forall₂ Value.SpellsOptional items rule.actions
  routes : ∃ items, (fields.under "route" "routes").Lists items ∧
    List.Forall₂ Value.Spells items rule.routes
  roles : ∃ items, (fields.under "roles" "role").Lists items ∧ items ≠ [] ∧
    List.Forall₂ Value.Spells items rule.roles
  assertion : ((Value.field? fields "assertion").getD .null).SpellsOptional rule.assertion

/-- Of two names, the first that is present is looked up. -/
theorem firstPresent?_pair (fields : Fields) (first second : String) :
    firstPresent? fields [first, second] =
      match Value.field? fields first, Value.field? fields second with
      | some v, _ => some (first, v)
      | none, some v => some (second, v)
      | none, none => none := by
  unfold firstPresent?
  cases here : Value.field? fields first with
  | some v => simp [here]
  | none => cases there : Value.field? fields second <;> simp [here, there]

/-- What a field reads depends on the value found for it, and on the name for its issues only. -/
theorem firstPresent?_cases (fields : Fields) (first second : String) :
    (firstPresent? fields [first, second] = none ∧ fields.under first second = .null) ∨
      ∃ key, firstPresent? fields [first, second] = some (key, fields.under first second) := by
  rw [firstPresent?_pair, Fields.under]
  cases Value.field? fields first with
  | some v => exact .inr ⟨first, rfl⟩
  | none =>
    cases Value.field? fields second with
    | some v => exact .inr ⟨second, rfl⟩
    | none => exact .inl ⟨rfl, rfl⟩

/-- A list that is found is read iff the items of the value are. -/
theorem itemsOf_map_eq_ok_iff {α : Type} {v : Value}
    {read : List Value → Except (List Issue) α} {value : α} :
    (itemsOf v).map read = .ok (.ok value) ↔ ∃ items, v.Lists items ∧ read items = .ok value := by
  simp only [← Value.itemsOf_eq_ok_iff]
  cases itemsOf v <;> simp [Except.map]

/-- **Targets are read** iff items spell them. -/
theorem readTargets_eq_ok_iff {fields : Fields} {first second : String} {words : List Word} :
    readTargets fields [first, second] = .ok (.ok words) ↔
      ∃ items, (fields.under first second).Lists items ∧
        List.Forall₂ Value.Spells items words := by
  unfold readTargets
  rcases firstPresent?_cases fields first second with ⟨missing, absent⟩ | ⟨key, found⟩
  · rw [missing, absent]
    -- a field that is not there reads as one without items
    constructor
    · rintro ⟨⟩
      exact ⟨[], .nothing, .nil⟩
    · rintro ⟨items, lists, spelled⟩
      obtain rfl : [] = items := Except.ok.inj (Value.itemsOf_eq_ok_iff.2 lists)
      cases spelled
      rfl
  · rw [found]
    simp only [itemsOf_map_eq_ok_iff, readItems_eq_ok_iff, Value.readText_eq_ok_iff]

/-- **Actions are read** iff items spell them; absent ones stand for the one absent action. -/
theorem readActions_eq_ok_iff {fields : Fields} {actions : List (Option Word)} :
    readActions fields = .ok (.ok actions) ↔
      (fields.under "action" "actions" = .null → actions = [none]) ∧
      (fields.under "action" "actions" ≠ .null →
        ∃ items, (fields.under "action" "actions").Lists items ∧
          List.Forall₂ Value.SpellsOptional items actions) := by
  unfold readActions
  rcases firstPresent?_cases fields "action" "actions" with ⟨missing, absent⟩ | ⟨key, found⟩
  · rw [missing, absent]
    simp [eq_comm]
  · rw [found]
    by_cases absent : fields.under "action" "actions" = .null
    · rw [absent]
      simp [eq_comm]
    · simp only [absent, false_implies, true_and, ne_eq, not_false_eq_true, true_implies]
      simp only [itemsOf_map_eq_ok_iff, readItems_eq_ok_iff, Value.readText?_eq_ok_iff]

/-- **Roles are read** iff items spell them and there is one. -/
theorem readRoles_eq_ok_iff {fields : Fields} {roles : List Word} :
    readRoles fields = .ok (.ok roles) ↔
      ∃ items, (fields.under "roles" "role").Lists items ∧ items ≠ [] ∧
        List.Forall₂ Value.Spells items roles := by
  unfold readRoles
  rcases firstPresent?_cases fields "roles" "role" with ⟨missing, absent⟩ | ⟨key, found⟩
  · rw [missing, absent]
    constructor
    · rintro ⟨⟩
    · rintro ⟨items, lists, some, -⟩
      obtain rfl : [] = items := Except.ok.inj (Value.itemsOf_eq_ok_iff.2 lists)
      exact absurd rfl some
  · rw [found]
    refine itemsOf_map_eq_ok_iff.trans (exists_congr fun items => and_congr_right fun _ => ?_)
    cases items with
    | nil => simp
    | cons item rest => simp [readItems_eq_ok_iff, Value.readText_eq_ok_iff]

/-- **The assertion is read** iff it is spelled or absent. -/
theorem readAssertion_eq_ok_iff {fields : Fields} {assertion : Option Word} :
    readAssertion fields = .ok assertion ↔
      ((Value.field? fields "assertion").getD .null).SpellsOptional assertion := by
  unfold readAssertion
  cases Value.field? fields "assertion" with
  | none =>
    rw [Option.getD_none, ← Value.readText?_eq_ok_iff]
    simp [readText?]
  | some v =>
    rw [Option.getD_some, ← Value.readText?_eq_ok_iff]
    exact mapError_eq_ok_iff

/-- **A rule is read from fields** iff they describe it. -/
theorem Rule.ofFields_eq_ok_iff {fields : Fields} {rule : Rule} :
    Rule.ofFields fields = .ok rule ↔ fields.Describes rule := by
  have parts : Rule.ofFields fields = .ok rule ↔
      readTargets fields ["controller", "controllers"] = .ok (.ok rule.controllers) ∧
      readActions fields = .ok (.ok rule.actions) ∧
      readTargets fields ["route", "routes"] = .ok (.ok rule.routes) ∧
      readRoles fields = .ok (.ok rule.roles) ∧
      readAssertion fields = .ok rule.assertion := by
    unfold Rule.ofFields GuardKind.targetKeys
    simp only [mapError_bind_eq_ok_iff]
    constructor
    · rintro ⟨controllers, isControllers, actions, isActions, routes, isRoutes, roles, isRoles,
        read⟩
      split at read
      · rename_i isAssertion
        cases read
        exact ⟨isControllers, isActions, isRoutes, isRoles, isAssertion⟩
      · cases read
    · rintro ⟨isControllers, isActions, isRoutes, isRoles, isAssertion⟩
      refine ⟨_, isControllers, _, isActions, _, isRoutes, _, isRoles, ?_⟩
      rw [isAssertion]
      rfl
  rw [parts, readTargets_eq_ok_iff, readActions_eq_ok_iff, readTargets_eq_ok_iff,
    readRoles_eq_ok_iff, readAssertion_eq_ok_iff]
  constructor
  · rintro ⟨controllers, ⟨noActions, actions⟩, routes, roles, assertion⟩
    exact ⟨controllers, noActions, actions, routes, roles, assertion⟩
  · rintro ⟨controllers, noActions, actions, routes, roles, assertion⟩
    exact ⟨controllers, ⟨noActions, actions⟩, routes, roles, assertion⟩

/-! ## Raw rules -/

/-- A value **is a pair** of a key and a value: its members are the two, and the key cannot
change. -/
def Value.IsPair (item : Value) (pair : Value × Value) : Prop :=
  item.members? = some [pair.1, pair.2] ∧ pair.1.unhashable? = none

/-- The fields that a value **converts to**: a map has its own, and pairs are written one after the
other. -/
inductive Value.ConvertsTo : Value → Fields → Prop where
  /-- A map. -/
  | map {v : Value} {fields : Fields} (isMap : v.fields? = some fields) : ConvertsTo v fields
  /-- Members that are pairs. -/
  | pairs {v : Value} {items : List Value} {pairs : Fields} (noMap : v.fields? = none)
    (members : v.members? = some items) (paired : List.Forall₂ IsPair items pairs) :
    ConvertsTo v (pairs.foldl (fun fields pair => putField pair.1 pair.2 fields) [])

/-- A raw rule **means** a rule: it is the rule, read before, or converts to fields that describe
it. -/
inductive Value.Means : Value → Rule → Prop where
  /-- A rule that was read before. -/
  | rule (r : Rule) : Means (.rule r) r
  /-- Anything else. -/
  | fields {raw : Value} {fields : Fields} {r : Rule} (unread : ∀ other, raw ≠ .rule other)
    (converts : raw.ConvertsTo fields) (describes : fields.Describes r) : Means raw r

/-- A pair is written iff the item is one. -/
theorem Fields.putPair_eq_ok_iff {fields after : Fields} {index : Nat} {item : Value} :
    fields.putPair index item = .ok after ↔
      ∃ pair, item.IsPair pair ∧ after = putField pair.1 pair.2 fields := by
  unfold Fields.putPair Value.IsPair
  constructor
  · intro written
    split at written
    · cases written
    · rename_i key value members
      split at written
      · cases written
      · rename_i fixed
        cases written
        exact ⟨(key, value), ⟨members, fixed⟩, rfl⟩
    · cases written
  · rintro ⟨pair, ⟨members, fixed⟩, rfl⟩
    rw [members]
    dsimp only
    rw [fixed]

/-- **Pairs are written** iff the items are pairs. -/
theorem Fields.putPairs_eq_ok_iff {fields after : Fields} {index : Nat} {items : List Value} :
    fields.putPairs index items = .ok after ↔
      ∃ pairs, List.Forall₂ Value.IsPair items pairs ∧
        after = pairs.foldl (fun fields pair => putField pair.1 pair.2 fields) fields := by
  induction items generalizing fields index with
  | nil =>
    constructor
    · rintro ⟨⟩
      exact ⟨[], .nil, rfl⟩
    · rintro ⟨pairs, ⟨⟩, rfl⟩
      rfl
  | cons item rest ih =>
    constructor
    · intro written
      obtain ⟨middle, first, behind⟩ := exists_ok_of_bind written
      obtain ⟨pair, isPair, rfl⟩ := putPair_eq_ok_iff.1 first
      obtain ⟨pairs, arePairs, rfl⟩ := ih.1 behind
      exact ⟨pair :: pairs, .cons isPair arePairs, rfl⟩
    · rintro ⟨_, _ | ⟨isPair, arePairs⟩, rfl⟩
      rw [putPairs, putPair_eq_ok_iff.2 ⟨_, isPair, rfl⟩]
      exact ih.2 ⟨_, arePairs, rfl⟩

/-- **A value has fields** iff it converts to them. -/
theorem Fields.ofValue_eq_ok_iff {v : Value} {fields : Fields} :
    Fields.ofValue v = .ok fields ↔ v.ConvertsTo fields := by
  unfold Fields.ofValue
  constructor
  · intro found
    split at found
    · rename_i isMap
      cases found
      exact .map isMap
    · rename_i noMap members
      obtain ⟨pairs, paired, rfl⟩ := putPairs_eq_ok_iff.1 found
      exact .pairs noMap members paired
    · cases found
  · rintro (isMap | ⟨noMap, members, paired⟩)
    · rw [isMap]
    · rw [noMap, members]
      exact putPairs_eq_ok_iff.2 ⟨_, paired, rfl⟩

/-- **A raw rule is read** iff it means the rule. -/
theorem Rule.ofRaw_eq_ok_iff {raw : Value} {rule : Rule} :
    Rule.ofRaw raw = .ok rule ↔ raw.Means rule := by
  by_cases read : ∃ other, raw = .rule other
  · obtain ⟨other, rfl⟩ := read
    rw [Rule.ofRaw_rule]
    constructor
    · rintro ⟨⟩
      exact .rule rule
    · rintro (_ | ⟨unread, converts, describes⟩)
      · rfl
      · exact absurd rfl (unread other)
  · have unread : ∀ other, raw ≠ .rule other := fun other eq => read ⟨other, eq⟩
    have both : Rule.ofRaw raw = (do Rule.ofFields (← Fields.ofValue raw)) := by
      cases raw with
      | rule other => exact absurd rfl (unread other)
      | _ => rfl
    rw [both]
    constructor
    · intro done
      obtain ⟨fields, found, described⟩ := exists_ok_of_bind done
      exact .fields unread (Fields.ofValue_eq_ok_iff.1 found) (Rule.ofFields_eq_ok_iff.1 described)
    · rintro (_ | ⟨unread, converts, describes⟩)
      · exact absurd rfl (unread rule)
      · rw [Fields.ofValue_eq_ok_iff.2 converts]
        exact Rule.ofFields_eq_ok_iff.2 describes

/-- A kind of guard **admits** a raw rule that means a rule with targets of the kind. -/
def GuardKind.Admits (kind : GuardKind) (raw : Value) : Prop :=
  ∃ rule, raw.Means rule ∧ kind.targetsOf rule ≠ []

namespace Guard

/-- A guard reads the rules that raw rules mean, if they have targets. -/
theorem readRule_eq_ok_iff {kind : GuardKind} {raw : Value} {rule : Rule} :
    readRule kind raw = .ok rule ↔ raw.Means rule ∧ kind.targetsOf rule ≠ [] := by
  rw [← Rule.ofRaw_eq_ok_iff]
  unfold readRule
  constructor
  · intro read
    obtain ⟨found, isFound, read⟩ := exists_ok_of_bind read
    by_cases none : (kind.targetsOf found).isEmpty = true
    · rw [if_pos none] at read
      cases read
    · rw [if_neg none] at read
      cases read
      exact ⟨isFound, mt List.isEmpty_iff.2 none⟩
  · rintro ⟨isFound, some⟩
    have some : ¬ (kind.targetsOf rule).isEmpty = true := mt List.isEmpty_iff.1 some
    rw [isFound]
    show (if (kind.targetsOf rule).isEmpty = true then _ else _ : Except RuleFault Rule) = _
    rw [if_neg some]
    rfl

/-- So a raw rule is admitted iff the guard reads it. -/
theorem admits_iff {kind : GuardKind} {raw : Value} :
    kind.Admits raw ↔ ∃ rule, readRule kind raw = .ok rule :=
  exists_congr fun _ => readRule_eq_ok_iff.symm

/-- **Raw rules are read** iff each of them is. -/
theorem readRules_eq_ok_iff {kind : GuardKind} {index : Nat} {raws : List Value}
    {rules : List Rule} :
    readRules kind index raws = .ok rules ↔
      List.Forall₂ (fun raw rule => readRule kind raw = .ok rule) raws rules := by
  induction raws generalizing index rules with
  | nil =>
    constructor
    · rintro ⟨⟩
      exact .nil
    · rintro ⟨⟩
      rfl
  | cons raw rest ih =>
    unfold readRules
    rw [mapError_bind_eq_ok_iff]
    constructor
    · rintro ⟨rule, first, done⟩
      obtain ⟨others, behind, done⟩ := exists_ok_of_bind done
      cases done
      exact .cons first (ih.1 behind)
    · rintro (_ | ⟨first, behind⟩)
      refine ⟨_, first, ?_⟩
      rw [ih.2 behind]
      rfl

/-- Of raw rules that are read, every single one is. -/
theorem exists_readRule_of_mem {kind : GuardKind} {raws : List Value} {rules : List Rule}
    (read : List.Forall₂ (fun raw rule => readRule kind raw = .ok rule) raws rules) {raw : Value}
    (mem : raw ∈ raws) : ∃ rule, readRule kind raw = .ok rule := by
  induction read with
  | nil => cases mem
  | cons first _ ih =>
    rcases List.mem_cons.1 mem with rfl | mem
    · exact ⟨_, first⟩
    · exact ih mem

/-- **The first raw rule that is not read** is the fault. -/
theorem exists_of_readRules_error {kind : GuardKind} {index : Nat} {raws : List Value}
    {failure : ConfigFault} (failed : readRules kind index raws = .error failure) :
    ∃ before raw after fault, raws = before ++ raw :: after ∧
      (∀ earlier ∈ before, ∃ rule, readRule kind earlier = .ok rule) ∧
      readRule kind raw = .error fault ∧ failure = .rule kind (index + before.length) fault := by
  induction raws generalizing index with
  | nil => cases failed
  | cons raw rest ih =>
    unfold readRules at failed
    cases read : readRule kind raw with
    | error fault =>
      rw [read] at failed
      cases failed
      exact ⟨[], raw, rest, fault, rfl, by simp, read, rfl⟩
    | ok rule =>
      rw [read] at failed
      cases behind : readRules kind (index + 1) rest with
      | ok others =>
        have failed : (do return rule :: (← readRules kind (index + 1) rest)) = .error failure :=
          failed
        rw [behind] at failed
        cases failed
      | error other =>
        have failed : (do return rule :: (← readRules kind (index + 1) rest)) = .error failure :=
          failed
        rw [behind] at failed
        cases failed
        obtain ⟨before, found, after, fault, rfl, earlier, refused, rfl⟩ := ih behind
        refine ⟨raw :: before, found, after, fault, rfl, ?_, refused, ?_⟩
        · exact List.forall_mem_cons.2 ⟨⟨rule, read⟩, earlier⟩
        · rw [List.length_cons, Nat.add_assoc, Nat.add_comm 1]

/-- **Which raw rules are admitted.** A guard is compiled from a list of raw rules iff each of them
means a rule that has targets of the guard's kind. Otherwise this is a fault of configuration, and
nothing else: it names the position of the first raw rule that does not.

Raw rules are plain values, which documents and callers give. A mapping that computes when it is
read (and may raise a key error of its own, as a section of an INI file does) is none of them. -/
theorem compiles_iff_admits (kind : GuardKind) (raws : List Value) :
    ((∃ guard, compileValue kind (.list raws) = .ok guard) ↔ ∀ raw ∈ raws, kind.Admits raw) ∧
    ∀ failure, compileValue kind (.list raws) = .error failure →
      ∃ index raw fault, raws[index]? = some raw ∧ ¬ kind.Admits raw ∧
        (∀ earlier ∈ raws.take index, kind.Admits earlier) ∧
        failure = .configuration (.rule kind index fault) ∧
        failure.message = "Invalid " ++ kind.id ++ " guard rule #" ++ toString index ++ ": " ++
          fault.message := by
  have compiled : compileValue kind (.list raws) =
      ((readRules kind 0 raws).map (ofRules kind)).mapError .configuration := rfl
  rw [compiled]
  simp only [admits_iff]
  cases read : readRules kind 0 raws with
  | ok rules =>
    refine ⟨⟨fun _ raw mem => ?_, fun _ => ⟨_, rfl⟩⟩, by rintro failure ⟨⟩⟩
    exact exists_readRule_of_mem (readRules_eq_ok_iff.1 read) mem
  | error failure =>
    obtain ⟨before, raw, after, fault, rfl, earlier, refused, rfl⟩ :=
      exists_of_readRules_error read
    have never : ¬ ∃ rule, readRule kind raw = .ok rule := by
      rintro ⟨rule, found⟩
      rw [refused] at found
      cases found
    refine ⟨⟨?_, fun all => absurd (all raw (by simp)) never⟩, ?_⟩
    · rintro ⟨guard, ⟨⟩⟩
    · rintro _ ⟨⟩
      refine ⟨before.length, raw, fault, by simp, never, ?_, by rw [Nat.zero_add], ?_⟩
      · rw [List.take_left]
        exact earlier
      · rw [Nat.zero_add]
        rfl

end Guard

end GuardedDispatch
