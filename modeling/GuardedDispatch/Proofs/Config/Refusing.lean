import GuardedDispatch.Config.Blueprint
import GuardedDispatch.Proofs.Access.Faults

/-! # How documents are refused

A document that cannot be read is refused by a fault of configuration. So is a blueprint whose
service cannot be built, because a rule names an assertion that does not exist. Apart from that,
three kinds of malformed value are let through to where they are used, and fail there in their own
way:

* a **strategy type** that can change, as it cannot be looked up (`ofDocument_eq_type_iff`);
* the parts of an **extra rule** that are misshapen: reading a document only counts them
  (`buildService_fst`);
* numbers of **too many digits** wherever they are to be printed (`ofDocument_error`). -/

namespace GuardedDispatch

/-! ## Results that fail in few ways -/

/-- A result that **fails only** as described. -/
def FailsOnly {α : Type} (P : Failure → Prop) (result : Except Failure α) : Prop :=
  ∀ failure, result = .error failure → P failure

section

variable {α β : Type} {P Q : Failure → Prop}

theorem failsOnly_ok (value : α) : FailsOnly P (.ok value) := by
  rintro failure ⟨⟩

theorem failsOnly_error {failure : Failure} (holds : P failure) :
    FailsOnly P (.error failure : Except Failure α) := by
  rintro _ ⟨⟩
  exact holds

/-- A result behind another fails as one of the two does. -/
theorem failsOnly_bind {first : Except Failure α} {next : α → Except Failure β}
    (fails : FailsOnly P first) (fails' : ∀ value, first = .ok value → FailsOnly P (next value)) :
    FailsOnly P (first >>= next) := by
  cases first with
  | error failure => exact failsOnly_error (fails failure rfl)
  | ok value => exact fails' value rfl

theorem FailsOnly.mono {result : Except Failure α} (fails : FailsOnly P result)
    (implies : ∀ failure, P failure → Q failure) : FailsOnly Q result :=
  fun failure eq => implies failure (fails failure eq)

/-- A fault of configuration is what a configuration fails with. -/
theorem failsOnly_configured {result : Except ConfigFault α}
    (configured : ∀ failure : Failure, failure.IsConfiguration → P failure) :
    FailsOnly P (result.mapError Failure.configuration) := by
  cases result with
  | error fault => exact failsOnly_error (configured _ ⟨fault, rfl⟩)
  | ok value => exact failsOnly_ok value

end

/-- Fields **hold a long** number: some key or value of theirs cannot be printed. -/
abbrev Fields.HoldLong (fields : Fields) : Prop := Value.holdsLongField fields = true

/-- The failures that fields can cause when their keys and values are printed. -/
def Fields.Refuses (fields : Fields) (failure : Failure) : Prop :=
  failure.IsConfiguration ∨ failure = .value (.tooManyDigits none) ∧ fields.HoldLong

theorem Fields.holdLong_cons (field : Value × Value) (rest : Fields) :
    Fields.HoldLong (field :: rest) ↔
      (field.1.holdsLong = true ∨ field.2.holdsLong = true) ∨ rest.HoldLong := by
  simp [Fields.HoldLong, Value.holdsLongField]

/-- Fields hold a long number if one of them does. -/
theorem Fields.holdLong_of_mem {fields : Fields} {field : Value × Value} (mem : field ∈ fields)
    (long : field.1.holdsLong = true ∨ field.2.holdsLong = true) : fields.HoldLong := by
  induction fields with
  | nil => cases mem
  | cons other rest ih =>
    rw [holdLong_cons]
    rcases List.mem_cons.1 mem with rfl | mem
    · exact .inl long
    · exact .inr (ih mem)

/-- What refuses some of the fields refuses all of them. -/
theorem Fields.Refuses.cons {fields : Fields} {failure : Failure} (refuses : fields.Refuses failure)
    (field : Value × Value) : Fields.Refuses (field :: fields) failure :=
  refuses.imp_right fun ⟨eq, long⟩ => ⟨eq, (Fields.holdLong_cons _ _).2 (.inr long)⟩

/-- Writing something of a key or a value fails only if it is long. -/
theorem Fields.failsOnly_unlessLong {α : Type} {fields : Fields} {v : Value}
    (long : v.holdsLong = true → fields.HoldLong) (written : α) :
    FailsOnly fields.Refuses (v.unlessLong written) := by
  intro failure failed
  obtain ⟨isLong, rfl⟩ := Value.unlessLong_eq_error_iff.1 failed
  exact .inr ⟨rfl, long isLong⟩

/-- Printing a key or a value fails only if it is long. -/
theorem Fields.failsOnly_print {fields : Fields} {v : Value}
    (long : v.holdsLong = true → fields.HoldLong) : FailsOnly fields.Refuses v.print :=
  failsOnly_unlessLong long v.text

theorem Fields.refuses_configuration {fields : Fields} (fault : ConfigFault) :
    fields.Refuses (.configuration fault) := .inl ⟨fault, rfl⟩

/-! ## Options -/

/-- A field that is found is one of the fields. -/
theorem exists_mem_of_field? {fields : Fields} {key : String} {v : Value}
    (found : Value.field? fields key = some v) : ∃ k, (k, v) ∈ fields := by
  obtain ⟨⟨k, other⟩, isField, rfl⟩ := Option.map_eq_some_iff.1 found
  exact ⟨k, List.mem_of_find?_eq_some isField⟩

/-- Writing a field adds no value but its own. -/
theorem mem_of_mem_putField {key value : Value} {field : Value × Value} {fields : Fields}
    (mem : field ∈ putField key value fields) : field.2 = value ∨ field ∈ fields := by
  induction fields with
  | nil => exact .inl (by rw [List.mem_singleton.1 mem])
  | cons other rest ih =>
    unfold putField at mem
    split at mem
    · rcases List.mem_cons.1 mem with rfl | mem
      · exact .inl rfl
      · exact .inr (List.mem_cons_of_mem _ mem)
    · rcases List.mem_cons.1 mem with rfl | mem
      · exact .inr List.mem_cons_self
      · exact (ih mem).imp_right (List.mem_cons_of_mem _)

/-- Merged fields have no values but those of the two. -/
theorem exists_mem_of_mem_mergeFields {field : Value × Value} {second : Fields} :
    ∀ {first : Fields}, field ∈ mergeFields first second →
      field ∈ first ∨ ∃ k, (k, field.2) ∈ second := by
  induction second with
  | nil => exact fun mem => .inl mem
  | cons other rest ih =>
    intro first mem
    have mem : field ∈ mergeFields (putField other.1 other.2 first) rest := mem
    rcases ih mem with mem | ⟨k, mem⟩
    · rcases mem_of_mem_putField mem with eq | mem
      · exact .inr ⟨other.1, by rw [eq]; exact List.mem_cons_self⟩
      · exact .inl mem
    · exact .inr ⟨k, List.mem_cons_of_mem other mem⟩

/-- Settings give words, which can always be printed. -/
theorem Settings.holdsLong_strategyOptions {settings : Settings} {id : Value}
    {field : Value × Value} (mem : field ∈ settings.strategyOptions id) :
    field.2.holdsLong = false := by
  have uri : (Value.ofWord? settings.redirectUri).holdsLong = false := by
    cases settings.redirectUri <;> simp [Value.holdsLong]
  unfold strategyOptions at mem
  split at mem
  · rw [List.mem_singleton.1 mem]
    simp
  · split at mem
    · rcases List.mem_cons.1 mem with rfl | mem
      · simp
      · rw [List.mem_singleton.1 mem]
        exact uri
    · cases mem

/-- An option that is long comes from the section. -/
theorem Settings.holdLong_of_option (settings : Settings) (options : Fields) (id : Value)
    (key : String) {standard : Value} (short : standard.holdsLong = false)
    (long : ((Value.field? (mergeFields (settings.strategyOptions id)
      (dropField (.str "type") options)) key).getD standard).holdsLong = true) :
    options.HoldLong := by
  cases found : Value.field? (mergeFields (settings.strategyOptions id)
      (dropField (.str "type") options)) key with
  | none =>
    rw [found, Option.getD_none, short] at long
    cases long
  | some other =>
    rw [found, Option.getD_some] at long
    obtain ⟨k, mem⟩ := exists_mem_of_field? found
    rcases exists_mem_of_mem_mergeFields mem with mem | ⟨k', mem⟩
    · rw [settings.holdsLong_strategyOptions mem] at long
      cases long
    · exact Fields.holdLong_of_mem (List.mem_filter.1 mem).1 (.inr long)

namespace Blueprint

variable {settings : Settings} {registry : Registry} {document : Value}

/-! ## Guards -/

/-- A guard is refused by a fault of configuration, unless its id is long. -/
theorem failsOnly_buildGuard (registry : Registry) (id rules : Value) :
    FailsOnly (Fields.Refuses [(id, rules)]) (buildGuard registry id rules) := by
  unfold buildGuard
  split
  · refine failsOnly_bind (Fields.failsOnly_print fun long => ?_) fun text _ =>
      failsOnly_error (Fields.refuses_configuration _)
    exact Fields.holdLong_of_mem List.mem_cons_self (.inl long)
  · split
    · exact failsOnly_configured fun _ configured => .inl configured
    · exact failsOnly_error (Fields.refuses_configuration _)

/-- **Guards** are refused by a fault of configuration, unless one of their ids is long. -/
theorem failsOnly_buildGuards (registry : Registry) :
    ∀ sections : Fields, FailsOnly sections.Refuses (buildGuards registry sections)
  | [] => failsOnly_ok _
  | (id, rules) :: rest => by
    refine failsOnly_bind ?_ fun guard _ => failsOnly_bind ?_ fun guards _ => failsOnly_ok _
    · refine (failsOnly_buildGuard registry id rules).mono fun failure => Or.imp_right ?_
      rintro ⟨rfl, long⟩
      refine ⟨rfl, (Fields.holdLong_cons _ _).2 (((Fields.holdLong_cons _ _).1 long).imp_right ?_)⟩
      rintro ⟨⟩
    · exact (failsOnly_buildGuards registry rest).mono fun failure refuses => refuses.cons _

/-! ## Strategies -/

/-- The strategy's id is a word from the settings, or one of the section's values. -/
theorem holdLong_of_strategyId {options : Fields}
    (long : (strategyId settings options).holdsLong = true) : options.HoldLong := by
  unfold strategyId sectionOr at long
  cases found : Value.field? options "type" with
  | none => rw [found] at long; simp at long
  | some v =>
    rw [found] at long
    dsimp only at long
    split at long
    · obtain ⟨k, mem⟩ := exists_mem_of_field? found
      exact Fields.holdLong_of_mem mem (.inr long)
    · simp at long

/-- A strategy whose id can be looked up is refused by a fault of configuration, unless it has a
long option. -/
theorem failsOnly_buildStrategyOf {options : Fields}
    (fixed : (strategyId settings options).unhashable? = none) :
    FailsOnly options.Refuses (buildStrategyOf settings registry options) := by
  unfold buildStrategyOf
  dsimp only
  rw [fixed]
  dsimp only
  split
  · exact failsOnly_bind (Fields.failsOnly_print holdLong_of_strategyId) fun text _ =>
      failsOnly_error (Fields.refuses_configuration _)
  · split
    · exact failsOnly_error (Fields.refuses_configuration _)
    · rename_i kind _ _ _
      -- what the strategy is made of is printed first
      have prints (key : String) (standard : Value) (short : standard.holdsLong = false) :
          FailsOnly options.Refuses (((Value.field? (mergeFields
            (settings.strategyOptions (strategyId settings options))
            (dropField (.str "type") options)) key).getD standard).printed) :=
        Fields.failsOnly_unlessLong
          (settings.holdLong_of_option options (strategyId settings options) key short) _
      cases kind with
      | redirect =>
        refine failsOnly_bind (prints _ _ (by simp [Value.holdsLong])) fun route _ =>
          failsOnly_bind ?_ fun uri _ => failsOnly_ok _
        unfold Strategy.readUri
        split
        · exact prints _ _ (by simp [Value.holdsLong])
        · exact failsOnly_ok _
      | unauthorized =>
        show FailsOnly _ ((Strategy.readTemplate _).map Strategy.unauthorized)
        unfold Strategy.readTemplate
        split
        · have printed := prints "template" .null (by simp [Value.holdsLong])
          intro failure failed
          cases text : Value.printed _ with
          | ok text => rw [text] at failed; cases failed
          | error other => rw [text] at failed; cases failed; exact printed _ text
        · exact failsOnly_error (Fields.refuses_configuration _)

/-- **A strategy** is refused by a fault of configuration, unless its id cannot be looked up or it
has a long option. -/
theorem failsOnly_buildStrategy (part : Value) :
    FailsOnly (fun failure => failure.IsConfiguration ∨
        ∃ options, strategyFields part = .ok (some options) ∧
          (options.Refuses failure ∨ ∃ kind,
            (strategyId settings options).unhashable? = some kind ∧
              failure = .type (.unhashable kind)))
      (buildStrategy settings registry part) := by
  unfold buildStrategy
  refine failsOnly_bind (failsOnly_configured fun _ configured => .inl configured)
    fun found isSection => ?_
  cases found with
  | none => exact failsOnly_ok _
  | some options =>
    have isSection : strategyFields part = .ok (some options) := mapError_eq_ok_iff.1 isSection
    refine failsOnly_bind ?_ fun strategy _ => failsOnly_ok _
    cases fixed : (strategyId settings options).unhashable? with
    | some kind =>
      rw [buildStrategyOf, fixed]
      exact failsOnly_error (.inr ⟨options, isSection, .inr ⟨kind, fixed, rfl⟩⟩)
    | none =>
      refine (failsOnly_buildStrategyOf fixed).mono fun failure refuses => .inr ?_
      exact ⟨options, isSection, .inl refuses⟩

/-! ## Extra rules -/

/-- **Extra rules** are refused by a fault of configuration, unless one of their kinds is long. -/
theorem failsOnly_checkExtraRules : ∀ sections : Fields,
    FailsOnly sections.Refuses (checkExtraRules sections)
  | [] => failsOnly_ok _
  | (kind, rules) :: rest => by
    unfold checkExtraRules
    split
    · refine failsOnly_bind (Fields.failsOnly_print fun long => ?_) fun text _ =>
        failsOnly_error (Fields.refuses_configuration _)
      exact Fields.holdLong_of_mem List.mem_cons_self (.inl long)
    · split
      · exact failsOnly_error (Fields.refuses_configuration _)
      · exact (failsOnly_checkExtraRules rest).mono fun failure refuses => refuses.cons _

/-- Extra rules that are accepted are lists of positional rules. -/
theorem arePositional_of_check {sections : Fields} (accepted : checkExtraRules sections = .ok ()) :
    ∀ field ∈ sections, arePositional field.2 = true := by
  induction sections with
  | nil => simp
  | cons field rest ih =>
    obtain ⟨kind, rules⟩ := field
    unfold checkExtraRules at accepted
    split at accepted
    · cases text : kind.print <;> rw [text] at accepted <;> cases accepted
    · split at accepted
      · cases accepted
      · rename_i positional
        refine List.forall_mem_cons.2 ⟨by simpa using positional, ih accepted⟩

/-! ## Documents -/

/-- The part of a document that describes its **guards**. -/
def guardPart (fields : Fields) : Value := sectionOr (.map []) (Value.field? fields "guards")

/-- The part of a document that describes its **strategy**. -/
def strategyPart (fields : Fields) : Value := (Value.field? fields "strategy").getD .null

/-- The part of a document that holds its **extra rules**. -/
def rulePart (fields : Fields) : Value := sectionOr (.map []) (Value.field? fields "rules")

/-- The **sections** of a document, by their fields. -/
inductive Section (fields : Fields) : Fields → Prop where
  /-- The guards by id. -/
  | guards {sections : Fields} (eq : (guardPart fields).fields? = some sections) :
    Section fields sections
  /-- The options of the strategy. -/
  | strategy {options : Fields} (eq : strategyFields (strategyPart fields) = .ok (some options)) :
    Section fields options
  /-- The extra rules by kind. -/
  | rules {rules : Fields} (eq : (rulePart fields).fields? = some rules) : Section fields rules

/-- The strategy that a document asks for **cannot be looked up**: its id is of a kind that can
change. -/
def Unlookable (settings : Settings) (fields : Fields) (kind : String) : Prop :=
  ∃ options, strategyFields (strategyPart fields) = .ok (some options) ∧
    (strategyId settings options).unhashable? = some kind

/-- How a document that has fields may be **refused**. -/
def Refuses (settings : Settings) (fields : Fields) (failure : Failure) : Prop :=
  failure.IsConfiguration ∨
    (∃ kind, Unlookable settings fields kind ∧ failure = .type (.unhashable kind)) ∨
    (failure = .value (.tooManyDigits none) ∧ ∃ part, Section fields part ∧ part.HoldLong)

/-- What a section refuses its document refuses. -/
theorem refuses_of_section {fields part : Fields} (isSection : Section fields part)
    {failure : Failure} (refuses : part.Refuses failure) : Refuses settings fields failure :=
  refuses.imp_right fun ⟨eq, long⟩ => .inr ⟨eq, part, isSection, long⟩

/-- The blueprint of a document with fields. -/
theorem ofDocument_of_fields {fields : Fields} (isMap : document.fields? = some fields) :
    ofDocument settings registry document = (do
      let sections ← guardSections (guardPart fields)
      let guards ← buildGuards registry sections
      let strategy ← buildStrategy settings registry (strategyPart fields)
      let rules ← readExtraRules (rulePart fields)
      return { guards, strategy, rules }) := by
  rw [ofDocument, isMap]
  rfl

/-- **How documents are refused**: by a fault of configuration; because the strategy's id cannot be
looked up; or because a section holds a long number. -/
theorem ofDocument_error {failure : Failure}
    (refused : ofDocument settings registry document = .error failure) :
    failure.IsConfiguration ∨
      ∃ fields, document.fields? = some fields ∧ Refuses settings fields failure := by
  cases isMap : document.fields? with
  | none =>
    rw [ofDocument, isMap] at refused
    cases refused
    exact .inl ⟨_, rfl⟩
  | some fields =>
    refine .inr ⟨fields, rfl, ?_⟩
    rw [ofDocument_of_fields isMap] at refused
    revert failure
    show FailsOnly _ _
    refine failsOnly_bind ?_ fun sections isSection => ?_
    · unfold guardSections
      split
      · exact failsOnly_ok _
      · exact failsOnly_error (.inl ⟨_, rfl⟩)
    · have isSection : (guardPart fields).fields? = some sections := by
        unfold guardSections at isSection
        split at isSection
        · cases isSection; assumption
        · cases isSection
      refine failsOnly_bind ((failsOnly_buildGuards registry sections).mono fun failure refuses =>
        refuses_of_section (.guards isSection) refuses) fun guards _ => ?_
      refine failsOnly_bind ((failsOnly_buildStrategy _).mono ?_) fun strategy _ => ?_
      · rintro failure (configured | ⟨options, isOptions, refuses | ⟨kind, changes, rfl⟩⟩)
        · exact .inl configured
        · exact refuses_of_section (.strategy isOptions) refuses
        · exact .inr (.inl ⟨kind, ⟨options, isOptions, changes⟩, rfl⟩)
      · refine failsOnly_bind ?_ fun rules _ => failsOnly_ok _
        unfold readExtraRules
        split
        · rename_i rules isRules
          refine failsOnly_bind ((failsOnly_checkExtraRules rules).mono fun failure refuses =>
            refuses_of_section (.rules isRules) refuses) fun _ _ => failsOnly_ok _
        · exact failsOnly_error (.inl ⟨_, rfl⟩)

/-- **A strategy that cannot be looked up** is refused for just that, once the guards are built. -/
theorem ofDocument_of_unlookable {fields sections : Fields} {guards : List Guard} {kind : String}
    (isMap : document.fields? = some fields)
    (isSection : (guardPart fields).fields? = some sections)
    (built : buildGuards registry sections = .ok guards)
    (unlookable : Unlookable settings fields kind) :
    ofDocument settings registry document = .error (.type (.unhashable kind)) := by
  obtain ⟨options, isOptions, changes⟩ := unlookable
  have strategy : buildStrategy settings registry (strategyPart fields) =
      .error (.type (.unhashable kind)) := by
    rw [buildStrategy, isOptions]
    show (buildStrategyOf settings registry options >>= _) = _
    rw [buildStrategyOf, changes]
    rfl
  rw [ofDocument_of_fields isMap, guardSections, isSection]
  show (buildGuards registry sections >>= _) = _
  rw [built]
  show (buildStrategy settings registry (strategyPart fields) >>= _) = _
  rw [strategy]
  rfl

/-! ## Services -/

/-- The extra rules of one kind. -/
def extraRules (blueprint : Blueprint) (kind : RuleKind) : List Value :=
  ((Value.field? blueprint.rules kind.word).bind Value.items?).getD []

/-- The positional rules that a service of the blueprint stores, in the order of storing. -/
def storedRules (blueprint : Blueprint) : List Value :=
  blueprint.guards.flatMap Guard.positionalRules ++
    (blueprint.extraRules .allow ++ blueprint.extraRules .deny)

/-- The lists that the items of a list stand for are searched one after the other. -/
theorem findSome?_flatMap {α β γ : Type} (lists : α → List β) (find : β → Option γ) :
    ∀ items : List α, (items.flatMap lists).findSome? find =
      items.findSome? fun item => (lists item).findSome? find
  | [] => rfl
  | item :: rest => by
    rw [List.flatMap_cons, List.findSome?_append, List.findSome?_cons,
      findSome?_flatMap lists find rest]
    cases (lists item).findSome? find <;> rfl

/-- What is a list has its items for members. -/
theorem members?_of_items? {v : Value} {items : List Value} (isList : v.items? = some items) :
    v.members? = some items := by
  unfold Value.items? at isList
  unfold Value.members?
  split at isList
  · rename_i eq
    rw [eq]
    exact isList
  · cases isList

/-- The rules of an accepted document were checked. -/
theorem checkExtraRules_of_ofDocument {blueprint : Blueprint}
    (read : ofDocument settings registry document = .ok blueprint) :
    checkExtraRules blueprint.rules = .ok () := by
  cases isMap : document.fields? with
  | none => rw [ofDocument, isMap] at read; cases read
  | some fields =>
    rw [ofDocument_of_fields isMap] at read
    obtain ⟨sections, -, read⟩ := exists_ok_of_bind read
    obtain ⟨guards, -, read⟩ := exists_ok_of_bind read
    obtain ⟨strategy, -, read⟩ := exists_ok_of_bind read
    obtain ⟨rules, accepted, read⟩ := exists_ok_of_bind read
    cases read
    unfold readExtraRules at accepted
    split at accepted
    · obtain ⟨_, checked, accepted⟩ := exists_ok_of_bind accepted
      cases accepted
      exact checked
    · cases accepted

/-- An accepted section of extra rules is a list of positional rules, or is not there. -/
theorem exists_items_of_check {blueprint : Blueprint}
    (checked : checkExtraRules blueprint.rules = .ok ()) (kind : RuleKind) :
    ((Value.field? blueprint.rules kind.word).getD (.list [])).members? =
        some (blueprint.extraRules kind) ∧
      ∀ rule ∈ blueprint.extraRules kind, isPositional rule = true := by
  unfold extraRules
  cases found : Value.field? blueprint.rules kind.word with
  | none => exact ⟨rfl, by simp⟩
  | some rules =>
    obtain ⟨k, mem⟩ := exists_mem_of_field? found
    obtain ⟨items, isList, positional⟩ :=
      (Option.any_eq_true _ _).1 (arePositional_of_check checked _ mem)
    rw [Option.bind_some, isList]
    exact ⟨members?_of_items? isList, List.all_eq_true.1 positional⟩

/-- The extra rules of a blueprint are **listed**: a section that is there is a list of rules. -/
def Listed (blueprint : Blueprint) : Prop :=
  ∀ kind : RuleKind, ((Value.field? blueprint.rules kind.word).getD (.list [])).members? =
    some (blueprint.extraRules kind)

/-- **Building a service fails with the first fault of a rule**, in the order of storing, and
succeeds if no rule has one. -/
theorem buildService_fst_of_listed {blueprint : Blueprint} (listed : blueprint.Listed)
    (assertions : Assertions) :
    (blueprint.buildService assertions).1 =
      resultOf (blueprint.storedRules.findSome? (Service.ruleFault? assertions)) := by
  have resources : Service.Fails assertions (blueprint.guards.forM Service.addGuardResources)
      none := by
    have all : Service.Fails assertions (blueprint.guards.forM Service.addGuardResources) _ :=
      Service.fails_forM fun guard _ => Service.fails_addGuardResources guard
    rwa [List.findSome?_eq_none_iff.2 fun _ _ => rfl] at all
  have guards : Service.Fails assertions (blueprint.guards.forM Service.storeGuard) _ :=
    Service.fails_forM fun guard _ => Service.fails_storeGuard guard
  have extra (kind : RuleKind) : Service.Fails assertions
      (Service.storeSection kind ((Value.field? blueprint.rules kind.word).getD (.list [])))
      ((blueprint.extraRules kind).findSome? (Service.ruleFault? assertions)) := by
    have fails : Service.Fails assertions _ _ := Service.fails_storeSection kind
      ((Value.field? blueprint.rules kind.word).getD (.list []))
    rwa [Service.sectionFault?, listed kind] at fails
  have all := Service.fails_bind resources <| Service.fails_bind guards <|
    Service.fails_bind (extra .allow) (extra .deny)
  obtain ⟨after, eq, -⟩ := all ({ assertions } : Service) rfl
  show (settle _ ({ assertions } : Service)).1 = _
  rw [storedRules, List.findSome?_append, findSome?_flatMap, List.findSome?_append]
  exact congrArg Prod.fst eq

/-- The extra rules of an accepted document are listed. -/
theorem listed_of_check {blueprint : Blueprint}
    (checked : checkExtraRules blueprint.rules = .ok ()) : blueprint.Listed :=
  fun kind => (exists_items_of_check checked kind).1

/-- So the service of an accepted document fails with the first fault of a rule. -/
theorem buildService_fst {blueprint : Blueprint}
    (checked : checkExtraRules blueprint.rules = .ok ()) (assertions : Assertions) :
    (blueprint.buildService assertions).1 =
      resultOf (blueprint.storedRules.findSome? (Service.ruleFault? assertions)) :=
  buildService_fst_of_listed (listed_of_check checked) assertions

/-- **A rule that cannot be stored** names an assertion that does not exist, unless it is an extra
rule that is misshapen. -/
theorem isConfiguration_or_misshapen {blueprint : Blueprint}
    (checked : checkExtraRules blueprint.rules = .ok ()) {assertions : Assertions} {rule : Value}
    (mem : rule ∈ blueprint.storedRules) {failure : Failure}
    (fault : Service.ruleFault? assertions rule = some failure) :
    failure.IsConfiguration ∨ ∃ kind, rule ∈ blueprint.extraRules kind ∧
      ∃ roles resource rest, rule.items? = some (roles :: resource :: rest) ∧
        Value.IsMisshapen roles resource (rest[1]?.getD .null) failure := by
  rw [storedRules, List.mem_append, List.mem_append, List.mem_flatMap] at mem
  rcases mem with ⟨guard, -, mem⟩ | mem
  · exact .inl (Service.isConfiguration_of_grant mem fault)
  · obtain ⟨kind, mem⟩ : ∃ kind, rule ∈ blueprint.extraRules kind :=
      mem.elim (fun mem => ⟨_, mem⟩) fun mem => ⟨_, mem⟩
    obtain ⟨parts, isList, bounds⟩ :=
      (Option.any_eq_true _ _).1 ((exists_items_of_check checked kind).2 rule mem)
    rw [Service.ruleFault?, members?_of_items? isList] at fault
    change Service.partsFault? assertions parts = some failure at fault
    simp only [Bool.and_eq_true, decide_eq_true_eq] at bounds
    match parts, bounds with
    | roles :: resource :: rest, bounds =>
      have few : rest.length ≤ 2 := by
        have := bounds.2
        simp only [List.length_cons] at this
        omega
      rw [Service.partsFault?_of_length_le few] at fault
      exact (Service.isConfiguration_of_fault fault).imp_right fun misshapen =>
        ⟨kind, mem, roles, resource, rest, isList, misshapen⟩

/-- **How configuration fails.** A document is refused by a fault of configuration, or because the
id of its strategy cannot be looked up, which is always a failure once the guards are built, or
because a section holds a number too long to be printed. Building the service of an accepted
document fails with the first fault of its rules; and that is a fault of configuration, or an extra
rule is misshapen. -/
theorem failures_of_documents (settings : Settings) (document : Value) :
    (∀ failure, ofDocument settings .standard document = .error failure →
      failure.IsConfiguration ∨
        ∃ fields, document.fields? = some fields ∧ Refuses settings fields failure) ∧
    (∀ fields sections guards kind, document.fields? = some fields →
      (guardPart fields).fields? = some sections →
      buildGuards .standard sections = .ok guards → Unlookable settings fields kind →
      ofDocument settings .standard document = .error (.type (.unhashable kind))) ∧
    ∀ blueprint assertions, ofDocument settings .standard document = .ok blueprint →
      (blueprint.buildService assertions).1 =
        resultOf (blueprint.storedRules.findSome? (Service.ruleFault? assertions)) ∧
      ∀ failure, (blueprint.buildService assertions).1 = .error failure →
        failure.IsConfiguration ∨ ∃ kind, ∃ rule ∈ blueprint.extraRules kind,
          Service.ruleFault? assertions rule = some failure ∧
          ∃ roles resource rest, rule.items? = some (roles :: resource :: rest) ∧
            Value.IsMisshapen roles resource (rest[1]?.getD .null) failure := by
  refine ⟨fun failure => ofDocument_error, fun fields sections guards kind isMap isSection built =>
    ofDocument_of_unlookable isMap isSection built, fun blueprint assertions read => ?_⟩
  have checked := checkExtraRules_of_ofDocument read
  have first := buildService_fst checked assertions
  refine ⟨first, fun failure failed => ?_⟩
  rw [first, resultOf_eq_error_iff] at failed
  obtain ⟨rule, mem, fault⟩ := List.exists_of_findSome?_eq_some failed
  refine (isConfiguration_or_misshapen checked mem fault).imp_right ?_
  rintro ⟨kind, mem, roles, resource, rest, isList, misshapen⟩
  exact ⟨kind, rule, mem, fault, roles, resource, rest, isList, misshapen⟩

/-- A list for a strategy's type, and a number for a rule's roles, do not fail as configuration: the
one when the document is read, the other when its service is built. -/
theorem fails_by_list_type_and_number_roles :
    let listType : Value := .map [(.str "strategy", .map [(.str "type", .list [.str "redirect"])])]
    let numberRoles : Value :=
      .map [(.str "rules", .map [(.str "allow", .list [.list [.int 5, .str "home"]])])]
    (∃ failure, ofDocument {} .standard listType = .error failure ∧ ¬ failure.IsConfiguration) ∧
      ∃ blueprint failure, ofDocument {} .standard numberRoles = .ok blueprint ∧
        (blueprint.buildService []).1 = .error failure ∧ ¬ failure.IsConfiguration := by
  refine ⟨⟨.type (.unhashable "list"), rfl, ?_⟩, ?_⟩
  · rintro ⟨fault, ⟨⟩⟩
  · refine ⟨_, .type (.notIterable "int"), rfl, rfl, ?_⟩
    rintro ⟨fault, ⟨⟩⟩

end Blueprint

end GuardedDispatch
