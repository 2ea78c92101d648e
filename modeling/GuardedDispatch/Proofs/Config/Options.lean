import GuardedDispatch.Proofs.Config.Clauses
import GuardedDispatch.Proofs.Lookup

/-! # How the options of a strategy are resolved

A strategy is built from three sources: the section of the document, the settings, and what its kind
takes for options that nobody gives. Here they are resolved one option at a time.

* **Fields** (`Value.field?_mergeFields`): under a text key, merged fields have what the second ones
  have there, and else what the first ones have.
* **The id** (`Settings.Chooses`): the section's type, or the settings' if it is absent or empty.
* **The value in effect** (`Settings.inEffect`): the section's wherever it has the key, even if it
  is absent there, and else the setting. The strategy is its kind filled with these values
  (`StrategyKind.filled`).
* **Refusal** (`Blueprint.StrategyRefused`): there are three ways to be refused, and no other
  (`Blueprint.buildStrategy_of_section`). -/

namespace GuardedDispatch

/-! ## Fields under text keys -/

/-- Fields have **distinct** keys: no two of them are the same, as in every map. -/
def Fields.Distinct (fields : Fields) : Prop := fields.Pairwise fun a b => (a.1 == b.1) = false

namespace Value

variable {fields first second : Fields} {name : String}

/-- Distinct keys stay so when one is dropped. -/
theorem distinct_dropField {key : Value} (distinct : fields.Distinct) :
    Fields.Distinct (dropField key fields) := List.Pairwise.filter _ distinct

/-- **Merged fields** have what the second ones have, and else what the first ones have. -/
theorem field?_mergeFields (distinct : second.Distinct) (first : Fields) (name : String) :
    field? (mergeFields first second) name = (field? second name).or (field? first name) := by
  induction second generalizing first with
  | nil => rfl
  | cons field rest ih =>
    obtain ⟨key, value⟩ := field
    obtain ⟨others, distinct⟩ := List.pairwise_cons.1 distinct
    show field? (mergeFields (putField key value first) rest) name = _
    rw [ih distinct, field?_putField, field?_cons]
    by_cases named : (key == .str name) = true
    · -- the key does not come again behind
      have missing : field? rest name = none := by
        refine field?_eq_none_iff.2 fun field mem same => ?_
        have differs := others field mem
        rw [same, named] at differs
        cases differs
      rw [if_pos named, if_pos named, missing]
      rfl
    · rw [if_neg named, if_neg named]

/-- What is not true is not long. -/
theorem holdsLong_of_falsy {v : Value} (falsy : v.truthy = false) : v.holdsLong = false := by
  cases v with
  | int i =>
    have zero : i = 0 := by simpa [truthy] using falsy
    have positive (n : Nat) : 0 < Decimal.tenTo n := Nat.pow_pos (by decide)
    rw [zero, holdsLong, Decimal.isLong, decide_eq_false_iff_not, Int.natAbs_zero]
    exact Nat.not_le.2 (positive _)
  | list items | tuple items | set items =>
    cases items with
    | nil => simp [holdsLong, holdsLongItem]
    | cons item rest => simp [truthy] at falsy
  | map fields =>
    cases fields with
    | nil => simp [holdsLong, holdsLongField]
    | cons field rest => simp [truthy] at falsy
  | http status headers content => cases falsy
  | knot label body => cases falsy
  | _ => simp [holdsLong]

end Value

/-! ## Options -/

namespace StrategyKind

variable {kind : StrategyKind} {options : Fields} {value : String → Value}

/-- Each kind has an id of its own. -/
theorem id_injective {kind other : StrategyKind} (same : kind.id = other.id) : kind = other := by
  revert same
  cases kind <;> cases other <;> decide

/-- A key **is an option** of a kind of strategy. -/
def HasOption (kind : StrategyKind) (key : Value) : Prop :=
  ∃ option ∈ kind.options, key = .str option

/-- Options that the kind has are options after writing one iff the written one is, too. -/
theorem forall_hasOption_putField {key written : Value} {fields : Fields} :
    (∀ field ∈ putField key written fields, kind.HasOption field.1) ↔
      kind.HasOption key ∧ ∀ field ∈ fields, kind.HasOption field.1 := by
  induction fields with
  | nil => simp [putField]
  | cons field rest ih =>
    obtain ⟨k, v⟩ := field
    by_cases same : (k == key) = true
    · -- the field keeps its key, and if that is an option it is the written one
      have option : kind.HasOption k → kind.HasOption key := by
        rintro ⟨option, mem, rfl⟩
        exact ⟨option, mem, Value.str_beq_iff.1 same⟩
      rw [putField, if_pos same, List.forall_mem_cons, List.forall_mem_cons]
      constructor
      · rintro ⟨here, others⟩
        exact ⟨option here, here, others⟩
      · rintro ⟨-, here, others⟩
        exact ⟨here, others⟩
    · rw [putField, if_neg same, List.forall_mem_cons, List.forall_mem_cons, ih]
      exact and_left_comm

/-- **Merged options** are options iff those of both are. -/
theorem forall_hasOption_mergeFields {first second : Fields} :
    (∀ field ∈ mergeFields first second, kind.HasOption field.1) ↔
      (∀ field ∈ first, kind.HasOption field.1) ∧ ∀ field ∈ second, kind.HasOption field.1 := by
  induction second generalizing first with
  | nil => simp [mergeFields]
  | cons field rest ih =>
    rw [mergeFields, List.foldl_cons, ← mergeFields, ih, forall_hasOption_putField,
      List.forall_mem_cons, and_assoc, and_left_comm]

/-- No option is refused iff all are options of the kind. -/
theorem refusedOption?_eq_none_iff :
    kind.refusedOption? options = none ↔ ∀ field ∈ options, kind.HasOption field.1 := by
  induction options with
  | nil => simp [refusedOption?]
  | cons field rest ih =>
    obtain ⟨key, v⟩ := field
    rw [List.forall_mem_cons, ← ih]
    cases key with
    | str name =>
      have isOption : kind.HasOption (.str name) ↔ name ∈ kind.options := by simp [HasOption]
      rw [refusedOption?, isOption]
      by_cases self : name = "self"
      · have never : "self" ∉ kind.options := by cases kind <;> decide
        simp [self, never]
      · by_cases mem : name ∈ kind.options <;> simp [self, mem]
    | _ => simp [refusedOption?, HasOption]

/-- **Options are taken** iff all are options of the kind, provided that none is missing. -/
theorem optionFault?_eq_none_iff
    (given : ∀ option ∈ kind.options, (Value.field? options option).isSome = true) :
    kind.optionFault? options = none ↔ ∀ field ∈ options, kind.HasOption field.1 := by
  rw [← refusedOption?_eq_none_iff]
  constructor
  · intro taken
    unfold optionFault? at taken
    split at taken
    · cases taken
    · cases refused : kind.refusedOption? options with
      | none => rfl
      | some fault => rw [refused] at taken; cases taken
  · intro taken
    have named : optionsNamed options = true := by
      refine List.all_eq_true.2 fun field mem => ?_
      obtain ⟨option, -, eq⟩ := refusedOption?_eq_none_iff.1 taken field mem
      rw [eq]
      rfl
    unfold optionFault?
    rw [named, taken]
    cases kind with
    | redirect => rfl
    | unauthorized =>
      have isSome := given "template" (List.mem_singleton_self _)
      rw [Option.isSome_iff_ne_none] at isSome
      simp [isSome]

/-- A kind of strategy **filled** with values for its options, as texts. -/
def filled (kind : StrategyKind) (value : String → Value) : Strategy :=
  match kind with
  | redirect =>
    .redirect (value "redirect_route").asText
      (if (value "redirect_uri").truthy then (value "redirect_uri").asText else .null)
  | unauthorized => .unauthorized (value "template").asText

/-- The value of some option of a kind is **long**. -/
def IsLong (kind : StrategyKind) (value : String → Value) : Prop :=
  ∃ option ∈ kind.options, (value option).holdsLong = true

/-- **A strategy is built** from the values of its options: it is filled with them, unless one of
them is long or the template is empty. -/
theorem ofOptions_eq
    (given : ∀ option ∈ kind.options, Value.field? options option = some (value option)) :
    (kind = .unauthorized → (value "template").truthy = false →
      kind.ofOptions options = .error (.configuration .noTemplate)) ∧
    ((kind = .unauthorized → (value "template").truthy = true) →
      (kind.IsLong value → kind.ofOptions options = .error (.value (.tooManyDigits none))) ∧
      (¬ kind.IsLong value → kind.ofOptions options = .ok (kind.filled value))) := by
  cases kind with
  | redirect =>
    have route := given "redirect_route" (by simp [StrategyKind.options])
    have uri := given "redirect_uri" (by simp [StrategyKind.options])
    have long : redirect.IsLong value ↔ (value "redirect_route").holdsLong = true ∨
        (value "redirect_uri").holdsLong = true := by simp [IsLong, StrategyKind.options]
    refine ⟨by rintro ⟨⟩, fun _ => ?_⟩
    simp only [ofOptions, route, uri, Option.getD_some, Strategy.readRoute, Strategy.readUri]
    rw [long]
    cases isLong : (value "redirect_route").holdsLong with
    | true =>
      rw [Value.printed, Value.unlessLong_of_long isLong]
      exact ⟨fun _ => rfl, by simp⟩
    | false =>
      rw [Value.printed, Value.unlessLong_of_short isLong]
      cases isSome : (value "redirect_uri").truthy with
      | false =>
        -- an address that counts as none is not long
        have short := Value.holdsLong_of_falsy isSome
        refine ⟨by simp [short], fun _ => ?_⟩
        simp only [filled, isSome]
        rfl
      | true =>
        cases isLong' : (value "redirect_uri").holdsLong with
        | true =>
          rw [Value.printed, Value.unlessLong_of_long isLong']
          exact ⟨fun _ => rfl, by simp⟩
        | false =>
          refine ⟨by simp, fun _ => ?_⟩
          rw [Value.printed, Value.unlessLong_of_short isLong']
          simp only [filled, isSome]
          rfl
  | unauthorized =>
    have template := given "template" (by simp [StrategyKind.options])
    have long : unauthorized.IsLong value ↔ (value "template").holdsLong = true := by
      simp [IsLong, StrategyKind.options]
    simp only [ofOptions, template, Option.getD_some, Strategy.readTemplate]
    refine ⟨fun _ empty => by rw [empty]; rfl, fun full => ?_⟩
    have full := full trivial
    rw [long, full]
    cases isLong : (value "template").holdsLong with
    | true =>
      rw [Value.printed, Value.unlessLong_of_long isLong]
      exact ⟨fun _ => rfl, by simp⟩
    | false =>
      refine ⟨by simp, fun _ => ?_⟩
      rw [Value.printed, Value.unlessLong_of_short isLong]
      rfl

end StrategyKind

/-! ## What the settings give -/

namespace Settings

variable {settings : Settings} {kind : StrategyKind} {fields : Fields} {id : Value}

/-- The **setting** for an option. -/
def option (settings : Settings) (option : String) : Value :=
  if option = "template" then .ofWord settings.template
  else if option = "redirect_route" then .ofWord settings.redirectRoute
  else if option = "redirect_uri" then .ofWord? settings.redirectUri
  else .null

/-- The value of an option **in effect**: the section's if it has the key, else the setting. -/
def inEffect (settings : Settings) (fields : Fields) (option : String) : Value :=
  (Value.field? fields option).getD (settings.option option)

/-- The id that a section and the settings **choose**: the section's type, or, if it leaves that
free, the settings' strategy. -/
inductive Chooses (settings : Settings) (fields : Fields) : Value → Prop where
  /-- A type that is not empty. -/
  | ofSection {id : Value} (found : Value.field? fields "type" = some id)
    (isText : id.isText = true) (full : id ≠ .str "") : Chooses settings fields id
  /-- No type, or one that is absent or empty. -/
  | ofSettings (free : ∀ id, Value.field? fields "type" = some id → id = .null ∨ id = .str "") :
    Chooses settings fields (.ofWord settings.unauthorizedStrategy)

/-- The settings give all options of a kind. -/
theorem field?_strategyOptions (settings : Settings) {option : String}
    (mem : option ∈ kind.options) :
    Value.field? (settings.strategyOptions (.str kind.id)) option =
      some (settings.option option) := by
  cases kind with
  | redirect =>
    rcases List.mem_cons.1 mem with rfl | mem
    · rfl
    · rw [List.mem_singleton.1 mem]
      rfl
  | unauthorized =>
    rw [List.mem_singleton.1 mem]
    rfl

/-- They give nothing else. -/
theorem hasOption_of_strategyOptions (settings : Settings) :
    ∀ field ∈ settings.strategyOptions (.str kind.id), kind.HasOption field.1 := by
  cases kind with
  | redirect =>
    intro field mem
    rcases List.mem_cons.1 mem with rfl | mem
    · exact ⟨"redirect_route", List.mem_cons_self, rfl⟩
    · rw [List.mem_singleton.1 mem]
      exact ⟨"redirect_uri", List.mem_cons_of_mem _ (List.mem_singleton_self _), rfl⟩
  | unauthorized =>
    intro field mem
    rw [List.mem_singleton.1 mem]
    exact ⟨"template", List.mem_singleton_self _, rfl⟩

/-- The type is not an option. -/
theorem ne_type_of_mem {option : String} (mem : option ∈ kind.options) : option ≠ "type" := by
  rintro rfl
  revert mem
  cases kind <;> decide

/-- The options of a section **merged** into those of the settings. -/
def merged (settings : Settings) (kind : StrategyKind) (fields : Fields) : Fields :=
  mergeFields (settings.strategyOptions (.str kind.id)) (dropField (.str "type") fields)

/-- **Merged options have the values in effect.** -/
theorem field?_merged (distinct : fields.Distinct) {option : String}
    (mem : option ∈ kind.options) :
    Value.field? (settings.merged kind fields) option = some (settings.inEffect fields option) := by
  rw [merged, Value.field?_mergeFields (Value.distinct_dropField distinct),
    Value.field?_dropField (ne_type_of_mem mem), settings.field?_strategyOptions mem, inEffect]
  cases Value.field? fields option <;> rfl

/-- **Merged options are taken** iff each key of the section but its type is an option. -/
theorem optionFault?_merged_iff (distinct : fields.Distinct) :
    kind.optionFault? (settings.merged kind fields) = none ↔
      ∀ field ∈ fields, field.1 ≠ .str "type" → kind.HasOption field.1 := by
  rw [StrategyKind.optionFault?_eq_none_iff fun option mem => by
    rw [field?_merged distinct mem, Option.isSome_some]]
  rw [merged, StrategyKind.forall_hasOption_mergeFields,
    and_iff_right settings.hasOption_of_strategyOptions]
  simp only [dropField, List.mem_filter, Bool.not_eq_true', ← Bool.not_eq_true, Value.beq_str_iff,
    and_imp]

end Settings

namespace Blueprint

variable {settings other : Settings} {registry : Registry} {fields : Fields} {part id : Value}
  {kind : StrategyKind}

/-! ## Sections -/

/-- A section that **gives options**: nothing, a bare id, or a map whose type, if it has one, is a
text or absent. -/
inductive GivesOptions : Value → Fields → Prop where
  /-- Nothing gives none. -/
  | none : GivesOptions .null []
  /-- A bare id gives a type. -/
  | id {id : Value} (isText : id.isText = true) : GivesOptions id [(.str "type", id)]
  /-- A map gives its own. -/
  | map {part : Value} {fields : Fields} (isMap : part.fields? = some fields)
    (distinct : fields.Distinct)
    (typed : ∀ id, Value.field? fields "type" = some id → id = .null ∨ id.isText = true) :
    GivesOptions part fields

/-- A map is read by its fields. -/
theorem strategyFields_of_map (isMap : part.fields? = some fields) :
    strategyFields part = .ok (some fields) := by
  unfold strategyFields
  split
  · cases isMap
  · cases isMap
  · cases isMap
  · cases isMap
  · rw [isMap]

/-- **Sections are read by the options that they give**, which have distinct keys and a type that is
a text or absent. -/
theorem GivesOptions.spec (gives : GivesOptions part fields) :
    strategyFields part = .ok (some fields) ∧ fields.Distinct ∧
      ∀ id, Value.field? fields "type" = some id → id = .null ∨ id.isText = true := by
  cases gives with
  | none => exact ⟨rfl, List.Pairwise.nil, by rintro id ⟨⟩⟩
  | id isText =>
    refine ⟨?_, List.pairwise_singleton _ _, ?_⟩
    · cases part with
      | str s => rfl
      | codes points => rfl
      | _ => cases isText
    · rintro id found
      rw [Value.field?_cons, if_pos (Value.beq_str_iff.2 rfl)] at found
      cases found
      exact .inr isText
  | map isMap distinct typed => exact ⟨strategyFields_of_map isMap, distinct, typed⟩

/-- **One id is chosen**, and it is a text. -/
theorem chooses_strategyId (settings : Settings)
    (typed : ∀ id, Value.field? fields "type" = some id → id = .null ∨ id.isText = true) :
    settings.Chooses fields (strategyId settings fields) ∧
      (strategyId settings fields).isText = true := by
  have isWord := Value.isText_ofWord settings.unauthorizedStrategy
  unfold strategyId sectionOr
  cases found : Value.field? fields "type" with
  | none => exact ⟨.ofSettings (by rw [found]; rintro id ⟨⟩), isWord⟩
  | some id =>
    have free (eq : id = .null ∨ id = .str "") :
        settings.Chooses fields (.ofWord settings.unauthorizedStrategy) := by
      refine .ofSettings fun other same => ?_
      rw [found] at same
      cases same
      exact eq
    rcases typed id found with rfl | isText
    · exact ⟨free (.inl rfl), isWord⟩
    · dsimp only
      by_cases empty : id = .str ""
      · rw [empty]
        exact ⟨free (.inr empty), isWord⟩
      · -- only the empty text is not true
        have truthy : id.truthy = true := by
          cases id with
          | str s =>
            have full : s ≠ "" := fun eq => empty (by rw [eq])
            simpa [Value.truthy] using full
          | codes points => rfl
          | _ => cases isText
        rw [if_pos truthy]
        exact ⟨.ofSection found isText empty, isText⟩

/-- The standard registry knows the kinds by their own ids. -/
theorem standard_strategy?_iff :
    Registry.standard.strategy? id = some kind ↔ id = .str kind.id := by
  constructor
  · intro found
    cases id with
    | str name =>
      have known : (name, kind) ∈ Registry.standard.strategies := mem_of_lookupField found
      rcases List.mem_cons.1 known with eq | known
      · cases eq
        rfl
      · cases List.mem_singleton.1 known
        rfl
    | _ => cases found
  · rintro rfl
    cases kind <;> rfl

/-- A section is **refused**: nothing is registered under the id, a key is not an option, or an
unauthorized page has no template. -/
inductive StrategyRefused (settings : Settings) (fields : Fields) (id : Value) : Prop where
  /-- The id is that of no kind. -/
  | id (unknown : ∀ kind : StrategyKind, id ≠ .str kind.id)
  /-- Some key but the type is not an option of the kind. -/
  | option {kind : StrategyKind} (known : id = .str kind.id) {field : Value × Value}
    (mem : field ∈ fields) (noType : field.1 ≠ .str "type") (noOption : ¬ kind.HasOption field.1)
  /-- The template in effect is empty. -/
  | template (known : id = .str StrategyKind.unauthorized.id)
    (empty : (settings.inEffect fields "template").truthy = false)

/-- **A section that is not refused** has a kind that takes all of its options. -/
theorem exists_kind_of_not_refused (accepted : ¬ StrategyRefused settings fields id) :
    ∃ kind : StrategyKind, id = .str kind.id ∧
      (∀ field ∈ fields, field.1 ≠ .str "type" → kind.HasOption field.1) ∧
      (kind = .unauthorized → (settings.inEffect fields "template").truthy = true) := by
  by_cases known : ∃ kind : StrategyKind, id = .str kind.id
  · obtain ⟨kind, known⟩ := known
    refine ⟨kind, known, fun field mem noType => ?_, ?_⟩
    · by_cases option : kind.HasOption field.1
      · exact option
      · exact absurd (.option known mem noType option) accepted
    · rintro rfl
      rw [← Bool.not_eq_false]
      exact fun empty => accepted (.template known empty)
  · exact absurd (.id fun kind eq => known ⟨kind, eq⟩) accepted

/-- **The strategy of fields** whose id is a text, in the standard registry. -/
theorem buildStrategyOf_eq (settings : Settings) (distinct : fields.Distinct)
    (isText : (strategyId settings fields).isText = true) :
    (StrategyRefused settings fields (strategyId settings fields) →
      ∃ fault, buildStrategyOf settings .standard fields = .error (.configuration fault)) ∧
    (¬ StrategyRefused settings fields (strategyId settings fields) →
      ∃ kind : StrategyKind, strategyId settings fields = .str kind.id ∧
        (kind.IsLong (settings.inEffect fields) →
          buildStrategyOf settings .standard fields = .error (.value (.tooManyDigits none))) ∧
        (¬ kind.IsLong (settings.inEffect fields) →
          buildStrategyOf settings .standard fields =
            .ok (kind.filled (settings.inEffect fields)))) := by
  have hashable := Value.unhashable?_text isText
  -- under the id of a kind, its merged options are what matters
  have refuses {kind : StrategyKind} {fault : TypeFault}
      (known : strategyId settings fields = .str kind.id)
      (refused : kind.optionFault? (settings.merged kind fields) = some fault) :
      buildStrategyOf settings .standard fields =
        .error (.configuration (.options kind.id fault)) := by
    rw [Settings.merged, ← known] at refused
    unfold buildStrategyOf
    dsimp only
    rw [hashable]
    dsimp only
    rw [standard_strategy?_iff.2 known]
    dsimp only
    rw [refused, known]
    rfl
  have takes {kind : StrategyKind} (known : strategyId settings fields = .str kind.id)
      (taken : kind.optionFault? (settings.merged kind fields) = none) :
      buildStrategyOf settings .standard fields =
        kind.ofOptions (settings.merged kind fields) := by
    rw [Settings.merged, ← known] at taken ⊢
    unfold buildStrategyOf
    dsimp only
    rw [hashable]
    dsimp only
    rw [standard_strategy?_iff.2 known]
    dsimp only
    rw [taken]
  have given (kind : StrategyKind) : ∀ option ∈ kind.options,
      Value.field? (settings.merged kind fields) option =
        some (settings.inEffect fields option) :=
    fun option mem => Settings.field?_merged distinct mem
  constructor
  · rintro (unknown | ⟨known, mem, noType, noOption⟩ | ⟨known, empty⟩)
    · have missing : Registry.standard.strategy? (strategyId settings fields) = none := by
        rw [Option.eq_none_iff_forall_ne_some]
        exact fun kind found => unknown kind (standard_strategy?_iff.1 found)
      refine ⟨.unknownStrategy (strategyId settings fields).text, ?_⟩
      unfold buildStrategyOf
      dsimp only
      rw [hashable]
      dsimp only
      rw [missing, Value.print_of_isText isText]
      rfl
    · rename_i kind field
      cases taken : kind.optionFault? (settings.merged kind fields) with
      | some fault => exact ⟨_, refuses known taken⟩
      | none =>
        have options := (Settings.optionFault?_merged_iff distinct).1 taken
        exact absurd (options field mem noType) noOption
    · cases taken :
        StrategyKind.unauthorized.optionFault? (settings.merged .unauthorized fields) with
      | some fault => exact ⟨_, refuses known taken⟩
      | none =>
        have fails := (StrategyKind.ofOptions_eq (given .unauthorized)).1 rfl empty
        exact ⟨_, (takes known taken).trans fails⟩
  · intro accepted
    obtain ⟨kind, known, options, full⟩ := exists_kind_of_not_refused accepted
    have taken : kind.optionFault? (settings.merged kind fields) = none :=
      (Settings.optionFault?_merged_iff distinct).2 options
    obtain ⟨long, short⟩ := (StrategyKind.ofOptions_eq (given kind)).2 full
    refine ⟨kind, known, ?_⟩
    rw [takes known taken]
    exact ⟨long, short⟩

/-- **Settings of another strategy** make no difference. -/
theorem buildStrategyOf_congr (same : other.unauthorizedStrategy = settings.unauthorizedStrategy)
    (alike : ∀ kind : StrategyKind, strategyId settings fields = .str kind.id →
      ∀ option ∈ kind.options, other.option option = settings.option option)
    (registry : Registry) :
    buildStrategyOf other registry fields = buildStrategyOf settings registry fields := by
  have sameId : strategyId other fields = strategyId settings fields := by
    rw [strategyId, strategyId, same]
  have sameOptions : other.strategyOptions (strategyId settings fields) =
      settings.strategyOptions (strategyId settings fields) := by
    unfold Settings.strategyOptions
    split
    · rename_i isPage
      have known := Value.beq_str_iff.1 isPage
      have template : Value.ofWord other.template = .ofWord settings.template :=
        alike .unauthorized known "template" (by simp [StrategyKind.options])
      rw [template]
    · split
      · rename_i isRedirect
        have known := Value.beq_str_iff.1 isRedirect
        have route : Value.ofWord other.redirectRoute = .ofWord settings.redirectRoute :=
          alike .redirect known "redirect_route" (by simp [StrategyKind.options])
        have uri : Value.ofWord? other.redirectUri = .ofWord? settings.redirectUri :=
          alike .redirect known "redirect_uri" (by simp [StrategyKind.options])
        rw [route, uri]
      · rfl
  unfold buildStrategyOf
  rw [sameId]
  dsimp only
  rw [sameOptions]

/-- A section that gives options is built from these. -/
theorem GivesOptions.buildStrategy_eq (gives : GivesOptions part fields) (settings : Settings)
    (registry : Registry) :
    buildStrategy settings registry part = (buildStrategyOf settings registry fields).map some := by
  unfold buildStrategy
  rw [gives.spec.1]
  show (do return some (← buildStrategyOf settings registry fields)) = _
  cases buildStrategyOf settings registry fields <;> rfl

/-- **How the options of a strategy are resolved.** A section that gives options, and the settings,
choose one id. The section is refused by a fault of configuration iff nothing is registered under
the id, or another key than its type is not an option of that kind, or the template in effect of an
unauthorized page is empty. Otherwise the id is that of a kind, and the strategy is filled with the
values in effect: the section's wherever it has the key, and else the settings'; the one thing that
can go wrong is that one of these is too long to be printed. Settings that are no options of the
kind make no difference. A bare id is the map with this type, and nothing is the empty map. -/
theorem buildStrategy_of_section (settings : Settings) :
    (∀ part fields, GivesOptions part fields →
      ∃ id, settings.Chooses fields id ∧
        ((∃ fault, buildStrategy settings .standard part = .error (.configuration fault)) ↔
          StrategyRefused settings fields id) ∧
        (¬ StrategyRefused settings fields id →
          ∃ kind : StrategyKind, id = .str kind.id ∧
            (kind.IsLong (settings.inEffect fields) →
              buildStrategy settings .standard part = .error (.value (.tooManyDigits none))) ∧
            (¬ kind.IsLong (settings.inEffect fields) →
              buildStrategy settings .standard part =
                .ok (some (kind.filled (settings.inEffect fields))))) ∧
        ∀ other : Settings, other.unauthorizedStrategy = settings.unauthorizedStrategy →
          (∀ kind : StrategyKind, id = .str kind.id →
            ∀ option ∈ kind.options, other.option option = settings.option option) →
          buildStrategy other .standard part = buildStrategy settings .standard part) ∧
    ∀ registry : Registry,
      (∀ id : Value, id.isText = true →
        buildStrategy settings registry id =
          buildStrategy settings registry (.map [(.str "type", id)])) ∧
      buildStrategy settings registry .null = buildStrategy settings registry (.map []) := by
  refine ⟨fun part fields gives => ?_, fun registry => ⟨fun id isText => ?_, rfl⟩⟩
  · obtain ⟨-, distinct, typed⟩ := gives.spec
    obtain ⟨chooses, isText⟩ := chooses_strategyId settings typed
    obtain ⟨refused, accepted⟩ := buildStrategyOf_eq settings distinct isText
    have result := gives.buildStrategy_eq settings .standard
    refine ⟨strategyId settings fields, chooses, ⟨?_, ?_⟩, ?_, ?_⟩
    · rintro ⟨fault, failed⟩
      rw [result] at failed
      -- without a refusal the only failure is another one
      by_cases isRefused : StrategyRefused settings fields (strategyId settings fields)
      · exact isRefused
      · obtain ⟨kind, -, long, short⟩ := accepted isRefused
        by_cases isLong : kind.IsLong (settings.inEffect fields)
        · rw [long isLong] at failed
          cases failed
        · rw [short isLong] at failed
          cases failed
    · intro isRefused
      obtain ⟨fault, failed⟩ := refused isRefused
      exact ⟨fault, by rw [result, failed]; rfl⟩
    · intro isAccepted
      obtain ⟨kind, known, long, short⟩ := accepted isAccepted
      refine ⟨kind, known, fun isLong => ?_, fun isShort => ?_⟩
      · rw [result, long isLong]
        rfl
      · rw [result, short isShort]
        rfl
    · intro other same alike
      rw [result, gives.buildStrategy_eq other, buildStrategyOf_congr same alike]
  · have gives : GivesOptions id [(.str "type", id)] := .id isText
    rw [gives.buildStrategy_eq]
    show _ = (do return some (← buildStrategyOf settings registry [(.str "type", id)]))
    cases buildStrategyOf settings registry [(.str "type", id)] <;> rfl

/-- A redirection that the settings choose: the section gives a number for its route, and leaves
its address free although the settings have one; their template is not used. -/
theorem buildStrategy_of_section_redirect :
    let settings : Settings :=
      { unauthorizedStrategy := "redirect", template := "", redirectUri := some "/login" }
    let fields : Fields := [(.str "redirect_uri", .null), (.str "redirect_route", .int 7)]
    GivesOptions (.map fields) fields ∧
      buildStrategy settings .standard (.map fields) =
        .ok (some (.redirect (.str "7") .null)) := by
  intro settings fields
  have gives : GivesOptions (.map fields) fields := by
    refine .map rfl ?_ ?_
    · simp [Fields.Distinct, fields]
    · rintro id ⟨⟩
  obtain ⟨id, chooses, -, accepted, -⟩ :=
    (buildStrategy_of_section settings).1 (.map fields) fields gives
  obtain rfl : id = .str StrategyKind.redirect.id := by
    cases chooses with
    | ofSection found _ _ => cases found
    | ofSettings _ => rfl
  have isAccepted : ¬ StrategyRefused settings fields (.str StrategyKind.redirect.id) := by
    rintro (unknown | ⟨known, mem, noType, noOption⟩ | ⟨known, empty⟩)
    · exact unknown .redirect rfl
    · obtain rfl := StrategyKind.id_injective (Value.str.inj known)
      refine noOption ?_
      rcases List.mem_cons.1 mem with rfl | mem
      · exact ⟨"redirect_uri", by simp [StrategyKind.options], rfl⟩
      · rw [List.mem_singleton.1 mem]
        exact ⟨"redirect_route", by simp [StrategyKind.options], rfl⟩
    · cases StrategyKind.id_injective (Value.str.inj known)
  obtain ⟨kind, known, -, short⟩ := accepted isAccepted
  obtain rfl := StrategyKind.id_injective (Value.str.inj known)
  have isShort : ¬ StrategyKind.redirect.IsLong (settings.inEffect fields) := by
    rintro ⟨option, mem, long⟩
    rcases List.mem_cons.1 mem with rfl | mem
    · exact absurd long (by decide +kernel)
    · rw [List.mem_singleton.1 mem] at long
      exact absurd long (by decide +kernel)
  exact ⟨gives, (short isShort).trans rfl⟩

/-- A long integer in the place of a template is neither empty nor refused as configuration, and
there is no strategy with it. -/
theorem buildStrategy_of_long_template {i : Int} (isLong : Decimal.isLong i = true) :
    let fields : Fields := [(.str "type", .str StrategyKind.unauthorized.id),
      (.str "template", .int i)]
    GivesOptions (.map fields) fields ∧
      Settings.Chooses {} fields (.str StrategyKind.unauthorized.id) ∧
      ¬ StrategyRefused {} fields (.str StrategyKind.unauthorized.id) ∧
      buildStrategy {} .standard (.map fields) = .error (.value (.tooManyDigits none)) := by
  intro fields
  have long : (Value.int i).holdsLong = true := by rw [Value.holdsLong, isLong]
  have truthy : (Value.int i).truthy = true := by
    cases falsy : (Value.int i).truthy with
    | true => rfl
    | false =>
      rw [Value.holdsLong_of_falsy falsy] at long
      cases long
  have gives : GivesOptions (.map fields) fields := by
    refine .map rfl ?_ ?_
    · simp [Fields.Distinct, fields]
    · rintro id ⟨⟩
      exact .inr rfl
  have chooses : Settings.Chooses {} fields (.str StrategyKind.unauthorized.id) :=
    .ofSection rfl rfl fun empty => absurd (Value.str.inj empty) (by decide)
  have isAccepted : ¬ StrategyRefused {} fields (.str StrategyKind.unauthorized.id) := by
    rintro (unknown | ⟨known, mem, noType, noOption⟩ | ⟨known, empty⟩)
    · exact unknown .unauthorized rfl
    · obtain rfl := StrategyKind.id_injective (Value.str.inj known)
      rcases List.mem_cons.1 mem with rfl | mem
      · exact noType rfl
      · rw [List.mem_singleton.1 mem] at noOption
        exact noOption ⟨"template", by simp [StrategyKind.options], rfl⟩
    · have empty : (Value.int i).truthy = false := empty
      rw [truthy] at empty
      cases empty
  refine ⟨gives, chooses, isAccepted, ?_⟩
  have sameId : strategyId {} fields = .str StrategyKind.unauthorized.id := rfl
  obtain ⟨-, accepted⟩ := buildStrategyOf_eq {} gives.spec.2.1 (by rw [sameId]; rfl)
  rw [sameId] at accepted
  obtain ⟨kind, known, fails, -⟩ := accepted isAccepted
  obtain rfl := StrategyKind.id_injective (Value.str.inj known)
  rw [gives.buildStrategy_eq, fails ⟨"template", by simp [StrategyKind.options], long⟩]
  rfl

/-- **Not every option has a text**: the least integer of too many digits has none. -/
theorem fails_by_long_template :
    let fields : Fields := [(.str "type", .str StrategyKind.unauthorized.id),
      (.str "template", .int (Decimal.tenTo Decimal.digitLimit))]
    GivesOptions (.map fields) fields ∧
      Settings.Chooses {} fields (.str StrategyKind.unauthorized.id) ∧
      ¬ StrategyRefused {} fields (.str StrategyKind.unauthorized.id) ∧
      buildStrategy {} .standard (.map fields) = .error (.value (.tooManyDigits none)) := by
  have isLong : Decimal.isLong (Decimal.tenTo Decimal.digitLimit) = true := by
    rw [Decimal.isLong, Int.natAbs_natCast]
    exact decide_eq_true (Nat.le_refl _)
  exact buildStrategy_of_long_template isLong

end Blueprint

end GuardedDispatch
