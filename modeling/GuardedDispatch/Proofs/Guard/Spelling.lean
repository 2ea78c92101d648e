import GuardedDispatch.Proofs.Guard.Compiling
import GuardedDispatch.Proofs.Lookup
import Mathlib.Logic.Relation

/-! # Rules that are spelled differently

A rule may write a text where it could write a list of one, leave its actions out, and call a field
by either of two names.

* **One rewriting** (`Fields.Rewrites`) changes one of these, and concerns one field
  (`Fields.Rewrites.concerns`): what that field lists stays the same.
* **Interchangeable** raw rules (`Value.Interchangeable`) come from each other by rewritings, there
  and back. They are read as the same rule or not at all (`Value.Interchangeable.ofRaw_iff`).
* **A rule that was read before** is read as itself, so that reading is stable
  (`Guard.readRules_rules`).

So guards that are compiled from interchangeable raw rules are the same
(`Guard.compile_of_interchangeable`). -/

namespace GuardedDispatch

/-! ## What a field lists -/

/-- The fields of a rule that **list** something. -/
inductive RuleField where
  /-- Controllers. -/
  | controllers
  /-- Actions. -/
  | actions
  /-- Routes. -/
  | routes
  /-- Roles. -/
  | roles
  deriving DecidableEq, Repr

namespace RuleField

/-- The name of a field that is looked up first. -/
def first : RuleField → String
  | controllers => "controller"
  | actions => "action"
  | routes => "route"
  | roles => "roles"

/-- Its other name. -/
def second : RuleField → String
  | controllers => "controllers"
  | actions => "actions"
  | routes => "routes"
  | roles => "role"

/-- Both names of a field. -/
def names (field : RuleField) : List String := [field.first, field.second]

/-- A field goes by two names. -/
theorem mem_names_iff {field : RuleField} {name : String} :
    name ∈ field.names ↔ name = field.first ∨ name = field.second := by
  simp only [names, List.mem_cons, List.not_mem_nil, or_false]

theorem first_mem_names (field : RuleField) : field.first ∈ field.names :=
  mem_names_iff.2 (.inl rfl)

theorem second_mem_names (field : RuleField) : field.second ∈ field.names :=
  mem_names_iff.2 (.inr rfl)

/-- The two names of a field differ. -/
theorem first_ne_second (field : RuleField) : field.first ≠ field.second := by
  cases field <;> decide

/-- The items that a value of a field **lists**: an absent value lists the absent action where
actions are wanted, and nothing elsewhere. -/
def Lists (field : RuleField) (v : Value) (items : List Value) : Prop :=
  if field = actions ∧ v.isNull = true then items = [.null] else v.Lists items

/-- What is not absent lists the same in every field. -/
theorem lists_of_present {field : RuleField} {v : Value} (present : v.isNull = false)
    {items : List Value} : field.Lists v items ↔ v.Lists items := by
  rw [Lists, if_neg]
  rintro ⟨-, absent⟩
  rw [present] at absent
  cases absent

/-- Only among actions does what is absent list anything. -/
theorem lists_of_ne_actions {field : RuleField} (other : field ≠ actions) {v : Value}
    {items : List Value} : field.Lists v items ↔ v.Lists items := by
  rw [Lists, if_neg fun both => other both.1]

/-- A field that goes by two names goes by no third. -/
theorem eq_or_eq {field : RuleField} {name other third : String} (isName : name ∈ field.names)
    (isOther : other ∈ field.names) (differ : name ≠ other) (mem : third ∈ field.names) :
    third = name ∨ third = other := by
  rw [mem_names_iff] at isName isOther mem
  grind

/-- No name belongs to two fields. -/
theorem eq_of_mem_names {field other : RuleField} {name : String} (mem : name ∈ field.names)
    (mem' : name ∈ other.names) : field = other := by
  cases field <;> cases other <;> simp [names, first, second] at mem mem' ⊢ <;> grind

/-- The assertion has a name of its own. -/
theorem assertion_notMem_names (field : RuleField) : "assertion" ∉ field.names := by
  cases field <;> decide

end RuleField

/-- The value that fields have for a field of a rule. -/
abbrev Fields.valueOf (fields : Fields) (field : RuleField) : Value :=
  fields.under field.first field.second

namespace Value

/-- A list lists its items. -/
theorem lists_list_iff {items others : List Value} :
    (Value.list items).Lists others ↔ others = items := by
  rw [← itemsOf_eq_ok_iff, itemsOf_list, Except.ok.injEq, eq_comm]

/-- What is single lists itself alone. -/
theorem lists_single_iff {v : Value} (single : v.isSingle = true) {items : List Value} :
    v.Lists items ↔ items = [v] := by
  rw [← itemsOf_eq_ok_iff, itemsOf_eq_ok_iff.2 (.single single), Except.ok.injEq, eq_comm]

end Value

namespace RuleField

/-- **What is single may stand in a list**, whatever the field. -/
theorem lists_list_single_iff {field : RuleField} {v : Value} (single : v.isSingle = true)
    {items : List Value} : field.Lists (.list [v]) items ↔ field.Lists v items := by
  have present : v.isNull = false := by
    cases v with
    | null => cases single
    | _ => rfl
  rw [lists_of_present present, lists_of_present rfl, Value.lists_list_iff,
    Value.lists_single_iff single]

/-- **No action may stand in a list.** -/
theorem lists_list_null_iff {items : List Value} :
    actions.Lists (.list [.null]) items ↔ actions.Lists .null items := by
  rw [lists_of_present rfl, Value.lists_list_iff]
  rfl

end RuleField

/-! ## One rewriting -/

/-- Fields are **rewritten**, in whatever order they stand. -/
inductive Fields.Rewrites (fields after : Fields) : Prop where
  /-- What is single is put in a list. -/
  | enlist (field : RuleField) {name : String} {v : Value} (isName : name ∈ field.names)
    (found : Value.field? fields name = some v) (single : v.isSingle = true)
    (written : Value.field? after =
      Function.update (Value.field? fields) name (some (.list [v])))
  /-- Where no action is given, the absent one is put in a list. -/
  | listAbsent {name : String} (isName : name ∈ RuleField.actions.names)
    (absent : Value.field? fields name = some .null ∨
      ∀ other ∈ RuleField.actions.names, Value.field? fields other = none)
    (written : Value.field? after =
      Function.update (Value.field? fields) name (some (.list [.null])))
  /-- The only name that a field goes by is exchanged for the other. -/
  | rename (field : RuleField) {name other : String} {v : Value} (isName : name ∈ field.names)
    (isOther : other ∈ field.names) (found : Value.field? fields name = some v)
    (missing : Value.field? fields other = none)
    (written : Value.field? after =
      Function.update (Function.update (Value.field? fields) name none) other (some v))

namespace Fields.Rewrites

variable {fields : Fields} {v : Value}

/-- What is single can be put in a list where it stands. -/
theorem enlisted (field : RuleField) (name : String) (isName : name ∈ field.names)
    (found : Value.field? fields name = some v) (single : v.isSingle = true) :
    fields.Rewrites (putField (.str name) (.list [v]) fields) :=
  .enlist field isName found single (Value.field?_putText _ _ _)

/-- Where no action is given, the list of the absent one can be. -/
theorem listedAbsent (name : String) (isName : name ∈ RuleField.actions.names)
    (absent : Value.field? fields name = some .null ∨
      ∀ other ∈ RuleField.actions.names, Value.field? fields other = none) :
    fields.Rewrites (putField (.str name) (.list [.null]) fields) :=
  .listAbsent isName absent (Value.field?_putText _ _ _)

/-- The only name of a field can be exchanged for the other. -/
theorem renamed (field : RuleField) (name other : String) (isName : name ∈ field.names)
    (isOther : other ∈ field.names) (found : Value.field? fields name = some v)
    (missing : Value.field? fields other = none) :
    fields.Rewrites (putField (.str other) v (dropField (.str name) fields)) := by
  refine .rename field isName isOther found missing ?_
  rw [Value.field?_putText, Value.field?_dropText]

end Fields.Rewrites

/-- Fields that **differ in one field** of a rule at most, which lists the same. -/
structure Fields.DifferIn (field : RuleField) (fields after : Fields) : Prop where
  lists : ∀ items,
    field.Lists (after.valueOf field) items ↔ field.Lists (fields.valueOf field) items
  others : ∀ name, name ∉ field.names → Value.field? after name = Value.field? fields name

namespace Fields

variable {fields after : Fields} {field : RuleField} {name : String}

/-- Writing what lists the same under a name that was there leaves what the field lists, whether
the name counts or is overridden by the other. -/
theorem lists_of_update {v w : Value} (isName : name ∈ field.names)
    (found : Value.field? fields name = some v)
    (same : ∀ items, field.Lists w items ↔ field.Lists v items)
    (written : Value.field? after = Function.update (Value.field? fields) name (some w))
    (items : List Value) :
    field.Lists (after.valueOf field) items ↔ field.Lists (fields.valueOf field) items := by
  unfold valueOf under
  rw [written]
  rcases RuleField.mem_names_iff.1 isName with rfl | rfl
  · rw [Function.update_self, found]
    exact same items
  · rw [Function.update_self, Function.update_of_ne field.first_ne_second, found]
    -- the second name counts only where the first is missing
    cases Value.field? fields field.first with
    | none => exact same items
    | some first => rfl

/-- The value under the only name that a field goes by is its value. -/
theorem valueOf_of_alone {v : Value} (isName : name ∈ field.names)
    (found : Value.field? fields name = some v)
    (alone : ∀ other ∈ field.names, other ≠ name → Value.field? fields other = none) :
    fields.valueOf field = v := by
  unfold valueOf under
  rcases RuleField.mem_names_iff.1 isName with rfl | rfl
  · rw [found]
    rfl
  · rw [found, alone field.first field.first_mem_names field.first_ne_second]
    rfl

/-- A field whose names are both missing is absent. -/
theorem valueOf_of_missing (missing : ∀ other ∈ field.names, Value.field? fields other = none) :
    fields.valueOf field = .null := by
  unfold valueOf under
  rw [missing field.first field.first_mem_names, missing field.second field.second_mem_names]
  rfl

/-- **A rewriting concerns one field**, and leaves what it lists. -/
theorem Rewrites.concerns (rewrites : fields.Rewrites after) :
    ∃ field, fields.DifferIn field after := by
  cases rewrites with
  | enlist field isName found single written =>
    refine ⟨field, ?_, fun other notName => ?_⟩
    · exact lists_of_update isName found
        (fun _ => RuleField.lists_list_single_iff single) written
    · rw [written, Function.update_of_ne]
      rintro rfl
      exact notName isName
  | @listAbsent name isName absent written =>
    have others : ∀ other, other ≠ name → Value.field? after other = Value.field? fields other := by
      intro other ne
      rw [written, Function.update_of_ne ne]
    refine ⟨.actions, fun items => ?_, fun other notName => others other ?_⟩
    · rcases absent with found | missing
      · exact lists_of_update isName found (fun _ => RuleField.lists_list_null_iff) written items
      · -- the list is all that there is behind, where nothing was before
        have listed : after.valueOf .actions = .list [.null] := by
          refine valueOf_of_alone isName (by rw [written, Function.update_self]) ?_
          intro other isOther ne
          rw [others other ne, missing other isOther]
        rw [listed, valueOf_of_missing missing]
        exact RuleField.lists_list_null_iff
    · rintro rfl
      exact notName isName
  | @rename field name other v isName isOther found missing written =>
    have differ : name ≠ other := by
      rintro rfl
      rw [missing] at found
      cases found
    refine ⟨field, fun items => ?_, fun third notName => ?_⟩
    · have before : fields.valueOf field = v := by
        refine valueOf_of_alone isName found fun third isThird ne => ?_
        obtain rfl := (RuleField.eq_or_eq isName isOther differ isThird).resolve_left ne
        exact missing
      have behind : after.valueOf field = v := by
        refine valueOf_of_alone isOther (by rw [written, Function.update_self]) ?_
        intro third isThird ne
        obtain rfl := (RuleField.eq_or_eq isName isOther differ isThird).resolve_right ne
        rw [written, Function.update_of_ne ne, Function.update_self]
      rw [before, behind]
    · rw [written, Function.update_of_ne, Function.update_of_ne]
      · rintro rfl
        exact notName isName
      · rintro rfl
        exact notName isOther

/-! ## What is read -/

/-- The one action of a list of the absent one is absent. -/
theorem forall₂_spellsOptional_null_iff {actions : List (Option Word)} :
    List.Forall₂ Value.SpellsOptional [.null] actions ↔ actions = [none] := by
  constructor
  · rintro (_ | ⟨spells, ⟨⟩⟩)
    rename_i action
    cases action with
    | none => rfl
    | some word => exact absurd spells (Value.not_spells_null word)
  · rintro rfl
    exact .cons rfl .nil

/-- Actions are described by the items that they list. -/
theorem exists_lists_actions_iff {v : Value} {actions : List (Option Word)} :
    (∃ items, RuleField.actions.Lists v items ∧
        List.Forall₂ Value.SpellsOptional items actions) ↔
      (v = .null → actions = [none]) ∧
      (v ≠ .null → ∃ items, v.Lists items ∧ List.Forall₂ Value.SpellsOptional items actions) := by
  by_cases absent : v = .null
  · subst absent
    simp only [RuleField.Lists, Value.isNull, and_self, if_true, exists_eq_left,
      forall₂_spellsOptional_null_iff]
    simp
  · have present : v.isNull = false := Bool.eq_false_iff.2 (mt Value.isNull_iff.1 absent)
    simp only [RuleField.lists_of_present present, absent, false_implies, true_and, ne_eq,
      not_false_eq_true, true_implies]

/-- **What fields describe**, by what each of them lists. -/
theorem describes_iff {rule : Rule} : fields.Describes rule ↔
    (∃ items, RuleField.controllers.Lists (fields.valueOf .controllers) items ∧
      List.Forall₂ Value.Spells items rule.controllers) ∧
    (∃ items, RuleField.actions.Lists (fields.valueOf .actions) items ∧
      List.Forall₂ Value.SpellsOptional items rule.actions) ∧
    (∃ items, RuleField.routes.Lists (fields.valueOf .routes) items ∧
      List.Forall₂ Value.Spells items rule.routes) ∧
    (∃ items, RuleField.roles.Lists (fields.valueOf .roles) items ∧ items ≠ [] ∧
      List.Forall₂ Value.Spells items rule.roles) ∧
    ((Value.field? fields "assertion").getD .null).SpellsOptional rule.assertion := by
  have controllers : RuleField.controllers ≠ .actions := by decide
  have routes : RuleField.routes ≠ .actions := by decide
  have roles : RuleField.roles ≠ .actions := by decide
  simp only [RuleField.lists_of_ne_actions controllers, RuleField.lists_of_ne_actions routes,
    RuleField.lists_of_ne_actions roles, exists_lists_actions_iff]
  constructor
  · intro describes
    exact ⟨describes.controllers, ⟨describes.noActions, describes.actions⟩, describes.routes,
      describes.roles, describes.assertion⟩
  · rintro ⟨controllers, ⟨noActions, actions⟩, routes, roles, assertion⟩
    exact ⟨controllers, noActions, actions, routes, roles, assertion⟩

/-- Where fields differ in one that lists the same, **every field** lists the same. -/
theorem DifferIn.lists_iff (differ : fields.DifferIn field after) (other : RuleField)
    (items : List Value) :
    other.Lists (after.valueOf other) items ↔ other.Lists (fields.valueOf other) items := by
  by_cases same : other = field
  · subst same
    exact differ.lists items
  · have unchanged : ∀ name ∈ other.names,
        Value.field? after name = Value.field? fields name := fun name isName =>
      differ.others name fun mem => same (RuleField.eq_of_mem_names isName mem)
    unfold valueOf under
    rw [unchanged other.first other.first_mem_names, unchanged other.second other.second_mem_names]

/-- **A rewriting leaves the rule** that fields describe. -/
theorem Rewrites.describes_iff (rewrites : fields.Rewrites after) {rule : Rule} :
    after.Describes rule ↔ fields.Describes rule := by
  obtain ⟨field, differ⟩ := rewrites.concerns
  have assertion : Value.field? after "assertion" = Value.field? fields "assertion" :=
    differ.others _ (RuleField.assertion_notMem_names field)
  simp only [Fields.describes_iff, differ.lists_iff, assertion]

end Fields

/-! ## Raw rules -/

/-- A raw rule that is a map is **rewritten** to another. -/
inductive Value.Rewrites : Value → Value → Prop where
  /-- Its fields are. -/
  | map {raw other : Value} {fields after : Fields} (isMap : raw.fields? = some fields)
    (isMap' : other.fields? = some after) (rewrites : fields.Rewrites after) :
    Rewrites raw other

/-- Raw rules are **interchangeable** if rewritings lead from one to the other, there or back. -/
def Value.Interchangeable : Value → Value → Prop := Relation.EqvGen Value.Rewrites

/-- A rewriting of fields makes their maps interchangeable. -/
theorem Value.Interchangeable.of_rewrites {fields after : Fields}
    (rewrites : fields.Rewrites after) : (Value.map fields).Interchangeable (.map after) :=
  .rel _ _ (.map rfl rfl rewrites)

/-- A map is read by its fields. -/
theorem Rule.ofRaw_of_fields {raw : Value} {fields : Fields} (isMap : raw.fields? = some fields) :
    Rule.ofRaw raw = Rule.ofFields fields := by
  have converts : Fields.ofValue raw = .ok fields := Fields.ofValue_eq_ok_iff.2 (.map isMap)
  cases raw with
  | rule r => cases isMap
  | _ => exact congrArg (fun converted => converted >>= Rule.ofFields) converts

/-- **Interchangeable raw rules are read as the same rule**, or none of them is read. -/
theorem Value.Interchangeable.ofRaw_iff {raw other : Value} (same : raw.Interchangeable other)
    (rule : Rule) : Rule.ofRaw other = .ok rule ↔ Rule.ofRaw raw = .ok rule := by
  induction same with
  | rel raw other rewrites =>
    obtain ⟨isMap, isMap', rewrites⟩ := rewrites
    rw [Rule.ofRaw_of_fields isMap, Rule.ofRaw_of_fields isMap', Rule.ofFields_eq_ok_iff,
      Rule.ofFields_eq_ok_iff]
    exact rewrites.describes_iff
  | refl raw => rfl
  | symm raw other _ ih => exact ih.symm
  | trans raw middle other _ _ first second => exact second.trans first

namespace Guard

variable {kind : GuardKind}

/-- Of raw rules that are read as the same rule, a guard takes both or none. -/
theorem readRule_iff (kind : GuardKind) {raw other : Value}
    (same : ∀ rule, Rule.ofRaw other = .ok rule ↔ Rule.ofRaw raw = .ok rule) (rule : Rule) :
    readRule kind other = .ok rule ↔ readRule kind raw = .ok rule := by
  rw [readRule_eq_ok_iff, readRule_eq_ok_iff, ← Rule.ofRaw_eq_ok_iff, ← Rule.ofRaw_eq_ok_iff, same]

/-- Raw rules that are read as the same rules **succeed and fail together**, and fail at the same
position. -/
theorem readRules_alike (kind : GuardKind) {raws others : List Value}
    (same : List.Forall₂ (fun raw other => ∀ rule, Rule.ofRaw other = .ok rule ↔
      Rule.ofRaw raw = .ok rule) raws others) (index : Nat) :
    (∃ rules, readRules kind index raws = .ok rules ∧ readRules kind index others = .ok rules) ∨
      ∃ place fault fault', readRules kind index raws = .error (.rule kind place fault) ∧
        readRules kind index others = .error (.rule kind place fault') := by
  induction same generalizing index with
  | nil => exact .inl ⟨[], rfl, rfl⟩
  | @cons raw other raws others first _ ih =>
    have first := readRule_iff kind first
    unfold readRules
    cases read : readRule kind raw with
    | error fault =>
      cases read' : readRule kind other with
      | error fault' => exact .inr ⟨index, fault, fault', rfl, rfl⟩
      | ok rule =>
        have found := (first rule).1 read'
        rw [read] at found
        cases found
    | ok rule =>
      rw [(first rule).2 read]
      rcases ih (index + 1) with ⟨rules, done, done'⟩ | ⟨place, fault, fault', failed, failed'⟩
      · rw [done, done']
        exact .inl ⟨rule :: rules, rfl, rfl⟩
      · rw [failed, failed']
        exact .inr ⟨place, fault, fault', rfl, rfl⟩

/-- **Rules that were read before** are read as the raw rules were. -/
theorem readRules_rules {raws : List Value} {rules : List Rule}
    (read : List.Forall₂ (fun raw rule => Rule.ofRaw raw = .ok rule) raws rules) (index : Nat) :
    readRules kind index (rules.map .rule) = readRules kind index raws := by
  induction read generalizing index with
  | nil => rfl
  | @cons raw rule raws rules first _ ih =>
    have same : readRule kind (.rule rule) = readRule kind raw := by
      unfold readRule
      rw [Rule.ofRaw_rule, first]
    rw [List.map_cons, readRules, readRules, same, ih]

/-- **How a rule is spelled does not matter.** Raw rules that can be rewritten into each other (a
text or a list of it alone, no action or a list of the absent one, a field by one of its names or by
the other) are read as the same rule, if any. Either both are compiled to the same guard, or both
are refused at the same position; so the grants and the resources are the same, and so is what a
service decides that is loaded with them, whatever it stored before. And rules that were read from
raw ones are compiled exactly as these are. -/
theorem compile_of_interchangeable (kind : GuardKind) {raws others : List Value}
    (same : List.Forall₂ Value.Interchangeable raws others) :
    List.Forall₂ (fun raw other => ∀ rule, Rule.ofRaw other = .ok rule ↔
      Rule.ofRaw raw = .ok rule) raws others ∧
    ((∃ guard, compile kind raws = .ok guard ∧ compile kind others = .ok guard) ∨
      ∃ place fault fault', compile kind raws = .error (.rule kind place fault) ∧
        compile kind others = .error (.rule kind place fault')) ∧
    (∀ guard guard', compile kind raws = .ok guard → compile kind others = .ok guard' →
      guard'.grants = guard.grants ∧ guard'.resources = guard.resources ∧
      ∀ (service : Service) (caller : Caller) (resource privilege : Value),
        (service.build (Service.storeRules guard'.ruleMap)).2.isAllowed caller resource privilege =
          (service.build (Service.storeRules guard.ruleMap)).2.isAllowed caller resource
            privilege) ∧
    ∀ rules, List.Forall₂ (fun raw rule => Rule.ofRaw raw = .ok rule) raws rules →
      compile kind (rules.map .rule) = compile kind raws := by
  have alike := same.imp fun raw other interchangeable => interchangeable.ofRaw_iff
  have together : (∃ guard, compile kind raws = .ok guard ∧ compile kind others = .ok guard) ∨
      ∃ place fault fault', compile kind raws = .error (.rule kind place fault) ∧
        compile kind others = .error (.rule kind place fault') := by
    unfold compile
    rcases readRules_alike kind alike 0 with
      ⟨rules, done, done'⟩ | ⟨place, fault, fault', failed, failed'⟩
    · rw [done, done']
      exact .inl ⟨ofRules kind rules, rfl, rfl⟩
    · rw [failed, failed']
      exact .inr ⟨place, fault, fault', rfl, rfl⟩
  refine ⟨alike, together, fun guard guard' done done' => ?_, fun rules read => ?_⟩
  · obtain rfl : guard' = guard := by
      rcases together with ⟨both, first, second⟩ | ⟨place, fault, fault', failed, failed'⟩
      · rw [done] at first
        rw [done'] at second
        exact (Except.ok.inj second).trans (Except.ok.inj first).symm
      · rw [done] at failed
        cases failed
    exact ⟨rfl, rfl, fun _ _ _ _ => rfl⟩
  · rw [compile, compile, readRules_rules read]

/-- A rule with a controller and a role that are listed, called by their other names, and given the
absent action. -/
theorem compile_of_interchangeable_users :
    let raw : Value := .map [(.str "controller", .str "users"), (.str "roles", .str "admin")]
    let other : Value := .map [(.str "controllers", .list [.str "users"]),
      (.str "actions", .list [.null]), (.str "role", .list [.str "admin"])]
    let rule : Rule := ⟨["users"], [none], [], ["admin"], none⟩
    raw.Interchangeable other ∧ Rule.ofRaw raw = .ok rule ∧
      ∃ guard, compile .controller [raw] = .ok guard ∧ compile .controller [other] = .ok guard ∧
        compile .controller [.rule rule] = .ok guard ∧
        guard.grants = [⟨["admin"], "controller/users", none⟩] := by
  intro raw other rule
  have interchangeable : raw.Interchangeable other := by
    let users : Value := .list [.str "users"]
    let listed : Fields := [(.str "controller", users), (.str "roles", .str "admin")]
    let renamed : Fields := [(.str "roles", .str "admin"), (.str "controllers", users)]
    let acting : Fields := renamed ++ [(.str "actions", .list [.null])]
    let granting : Fields := [(.str "roles", .list [.str "admin"]), (.str "controllers", users),
      (.str "actions", .list [.null])]
    have first : raw.Interchangeable (.map listed) :=
      .of_rewrites (.enlisted .controllers "controller" (by decide) rfl rfl)
    have second : (Value.map listed).Interchangeable (.map renamed) :=
      .of_rewrites (.renamed .controllers "controller" "controllers" (by decide) (by decide)
        rfl rfl)
    have third : (Value.map renamed).Interchangeable (.map acting) := by
      refine .of_rewrites (.listedAbsent "actions" (by decide) (.inr ?_))
      rintro name mem
      rcases List.mem_pair.1 mem with rfl | rfl <;> rfl
    have fourth : (Value.map acting).Interchangeable (.map granting) :=
      .of_rewrites (.enlisted .roles "roles" (by decide) rfl rfl)
    have fifth : (Value.map granting).Interchangeable other :=
      .of_rewrites (.renamed .roles "roles" "role" (by decide) (by decide) rfl rfl)
    exact .trans _ _ _ first (.trans _ _ _ second (.trans _ _ _ third (.trans _ _ _ fourth fifth)))
  have read : Rule.ofRaw raw = .ok rule := rfl
  obtain ⟨-, together, -, stable⟩ :=
    compile_of_interchangeable .controller (.cons interchangeable .nil)
  have compiled : compile .controller [raw] = .ok (ofRules .controller [rule]) := rfl
  refine ⟨interchangeable, read, ofRules .controller [rule], compiled, ?_, ?_, rfl⟩
  · rcases together with ⟨guard, done, done'⟩ | ⟨place, fault, fault', failed, failed'⟩
    · rw [compiled] at done
      rw [done', done]
    · rw [compiled] at failed
      cases failed
  · exact (stable [rule] (.cons read .nil)).trans compiled

end Guard

end GuardedDispatch
