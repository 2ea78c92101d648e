import GuardedDispatch.Decimal.Extent
import GuardedDispatch.Value.Basic

/-! # Equality of values

When two values count as the same: as members of a set, as keys of a map, as resources. Numbers are
compared exactly and across kinds, and truth values count as one and zero. Lists, sets and maps may
be members of nothing (`Value.unhashable?`), because they are not fixed. -/

namespace GuardedDispatch

namespace Value

/-- The extent of a number; truth values count as one and zero. -/
def extent? : Value → Option Decimal.Extent
  | .bool b => some (.ofInt (if b then 1 else 0))
  | .int i => some (.ofInt i)
  | .float x => Decimal.Extent.ofFloat? x
  | _ => none

/-- Whether two values are numbers of the same extent. -/
def sameNumber (a b : Value) : Bool :=
  match a.extent?, b.extent? with
  | some x, some y => x == y
  | _, _ => false

mutual

/-- Whether two values are **the same**. A raised error is the same as no other value, since each
is its own. -/
def same : Value → Value → Bool
  | .null, .null => true
  | .str a, .str b => a == b
  | .codes a _, .codes b _ => a == b
  | .bytes a, .bytes b => a == b
  | .list a, .list b => sameItems a b
  | .tuple a, .tuple b => sameItems a b
  | .set a, .set b => a.length == b.length && sameMembers a b
  | .map a, .map b => a.length == b.length && sameFields a b
  | .date a, .date b => a == b
  | .moment a, .moment b => a.same b
  | .identity a, .identity b =>
    a.subject == b.subject && a.sortedRoles == b.sortedRoles
  | .http s h c, .http s' h' c' =>
    same s s' && h.length == h'.length && sameFields h h' && same c c'
  | .rule a, .rule b => a == b
  | .knot a _, .knot b _ => a == b
  | .nan a, .nan b => a == b
  | a, b => sameNumber a b
termination_by structural a => a

/-- Whether two sequences have the same items. -/
def sameItems : List Value → List Value → Bool
  | [], [] => true
  | a :: as, b :: bs => same a b && sameItems as bs
  | _, _ => false
termination_by structural items => items

/-- Whether every item of the first list is a member of the second. -/
def sameMembers : List Value → List Value → Bool
  | [], _ => true
  | a :: as, bs => bs.any (same a) && sameMembers as bs
termination_by structural items => items

/-- Whether every field of the first map is one of the second. -/
def sameFields : List (Value × Value) → Fields → Bool
  | [], _ => true
  | (k, v) :: rest, fields =>
    fields.any (fun field => same k field.1 && same v field.2) && sameFields rest fields
termination_by structural fields => fields

end

instance : BEq Value := ⟨same⟩

@[simp] theorem same_str (a b : String) : same (.str a) (.str b) = (a == b) := by
  simp [same]

@[simp] theorem beq_str (a b : String) : ((.str a : Value) == .str b) = (a == b) :=
  same_str a b

/-- A text is the same as that text and as nothing else. -/
theorem str_beq_iff {s : String} {v : Value} : (.str s == v) = true ↔ v = .str s := by
  show same (.str s) v = true ↔ v = .str s
  cases v with
  | str t => rw [same_str, beq_iff_eq, str.injEq, eq_comm]
  | _ => simp [same, sameNumber, extent?]

/-- Nothing but a text is the same as that text. -/
theorem beq_str_iff {s : String} {v : Value} : (v == .str s) = true ↔ v = .str s := by
  show same v (.str s) = true ↔ v = .str s
  cases v <;> simp [same, sameNumber, extent?]

/-- Nothing but the absent value is the same as the absent value. -/
theorem beq_null_iff {v : Value} : (v == .null) = true ↔ v = .null := by
  show same v .null = true ↔ v = .null
  cases v <;> simp [same, sameNumber, extent?]

/-- A text of any kind is the same as itself and as nothing else. -/
theorem text_beq_iff {text v : Value} (isText : text.isText = true) :
    (text == v) = true ↔ v = text := by
  cases text with
  | str s => exact str_beq_iff
  | codes points halves =>
    show same (.codes points halves) v = true ↔ v = .codes points halves
    cases v with
    | codes others halves' => rw [same, beq_iff_eq, codes.injEq, eq_comm]
    | _ => simp [same, sameNumber, extent?]
  | _ => cases isText

/-- A word is the same as that word and as nothing else. -/
theorem ofWord_beq_iff {word : Word} {v : Value} : (.ofWord word == v) = true ↔ v = .ofWord word :=
  text_beq_iff (isText_ofWord word)

/-- Nothing but a word is the same as that word. -/
theorem beq_ofWord_iff {word : Word} {v : Value} :
    (v == .ofWord word) = true ↔ v = .ofWord word := by
  cases word with
  | text s => exact beq_str_iff
  | codes points halves =>
    show same v (.codes points halves) = true ↔ v = .codes points halves
    cases v <;> simp [same, sameNumber, extent?]

@[simp] theorem beq_ofWord (v w : Word) : ((.ofWord v : Value) == .ofWord w) = (v == w) := by
  rw [Bool.eq_iff_iff, beq_ofWord_iff, beq_iff_eq]
  exact ⟨ofWord_injective, congrArg ofWord⟩

mutual

/-- The kind of the first part of a value that keeps it from being a member of a set or a key. -/
def unhashable? : Value → Option String
  | .list _ => some "list"
  | .set _ => some "set"
  | .map _ => some "dict"
  | .http .. => some "HttpResponse"
  | .rule _ => some "list"
  | .tuple items => unhashableItem? items
  | .knot _ body => unhashable? body
  | .again _ inMap => some (if inMap then "dict" else "list")
  | _ => none

/-- The kind of the first unhashable part of some items. -/
def unhashableItem? : List Value → Option String
  | [] => none
  | v :: rest => (unhashable? v).or (unhashableItem? rest)

end

@[simp] theorem unhashable?_str (s : String) : unhashable? (.str s) = none := by
  simp [unhashable?]

/-- Texts of any kind can be members of a set. -/
theorem unhashable?_text {text : Value} (isText : text.isText = true) :
    text.unhashable? = none := by
  cases text with
  | str s => exact unhashable?_str s
  | codes points halves => simp [unhashable?]
  | _ => cases isText

@[simp] theorem unhashable?_ofWord (word : Word) : unhashable? (.ofWord word) = none :=
  unhashable?_text (isText_ofWord word)

end Value

/-- The value of a key among fields. -/
def lookupField [BEq κ] (key : κ) (fields : List (κ × α)) : Option α :=
  (fields.find? fun field => field.1 == key).map (·.2)

/-- **Write** a field: a key that is there keeps its place, a new one goes to the end. -/
def putField [BEq κ] (key : κ) (value : α) : List (κ × α) → List (κ × α)
  | [] => [(key, value)]
  | (k, v) :: rest =>
    if k == key then (k, value) :: rest else (k, v) :: putField key value rest

/-- Remove a field. -/
def dropField [BEq κ] (key : κ) (fields : List (κ × α)) : List (κ × α) :=
  fields.filter fun field => !(field.1 == key)

@[simp] theorem lookupField_nil [BEq κ] (key : κ) : lookupField key ([] : List (κ × α)) = none :=
  rfl

theorem lookupField_cons [BEq κ] (key k : κ) (v : α) (rest : List (κ × α)) :
    lookupField key ((k, v) :: rest) = if k == key then some v else lookupField key rest := by
  cases h : k == key <;> simp [lookupField, h]

/-- Reading the key just written gives what was written. -/
@[simp] theorem lookupField_putField_self [BEq κ] [LawfulBEq κ] (key : κ) (value : α)
    (fields : List (κ × α)) : lookupField key (putField key value fields) = some value := by
  induction fields with
  | nil => simp [putField, lookupField_cons]
  | cons field rest ih =>
    obtain ⟨k, v⟩ := field
    by_cases h : k = key <;> simp [putField, lookupField_cons, h, ih]

/-- Writing one key leaves all others alone. -/
theorem lookupField_putField_of_ne [BEq κ] [LawfulBEq κ] {key other : κ} (h : other ≠ key)
    (value : α) (fields : List (κ × α)) :
    lookupField other (putField key value fields) = lookupField other fields := by
  induction fields with
  | nil => simp [putField, lookupField_cons, Ne.symm h]
  | cons field rest ih =>
    obtain ⟨k, v⟩ := field
    by_cases hk : k = key
    · subst hk
      simp [putField, lookupField_cons, Ne.symm h]
    · simp [putField, lookupField_cons, hk, ih]

/-- What is found under a key is there. -/
theorem mem_of_lookupField [BEq κ] [LawfulBEq κ] {key : κ} {value : α} :
    ∀ {fields : List (κ × α)}, lookupField key fields = some value → (key, value) ∈ fields
  | (k, v) :: rest, found => by
    rw [lookupField_cons] at found
    split at found
    · next same =>
      cases found
      rw [beq_iff_eq.1 same]
      exact List.mem_cons_self
    · exact List.mem_cons_of_mem _ (mem_of_lookupField found)

/-- What is not the key of any field is not found. -/
theorem lookupField_of_notMem [BEq κ] [LawfulBEq κ] {key : κ} {fields : List (κ × α)}
    (other : key ∉ fields.map (·.1)) : lookupField key fields = none := by
  cases found : lookupField key fields with
  | none => rfl
  | some value => exact absurd (List.mem_map_of_mem (mem_of_lookupField found)) other

/-- A key that is written comes last, unless it is there. -/
theorem keys_putField [BEq κ] [LawfulBEq κ] (key : κ) (value : α) (fields : List (κ × α)) :
    (putField key value fields).map (·.1) =
      fields.map (·.1) ++ [key].filter fun key => (lookupField key fields).isNone := by
  induction fields with
  | nil => rfl
  | cons field rest ih =>
    obtain ⟨k, v⟩ := field
    by_cases same : k = key
    · simp [putField, lookupField_cons, same]
    · have other : lookupField key ((k, v) :: rest) = lookupField key rest := by
        simp [lookupField_cons, same]
      rw [putField, if_neg (by simpa using same), List.map_cons, ih, List.map_cons,
        List.cons_append]
      simp only [List.filter_cons, List.filter_nil, other]

/-- What is left without a field is the same whatever was written there. -/
@[simp] theorem dropField_putField_self [BEq κ] [LawfulBEq κ] (key : κ) (value : α)
    (fields : List (κ × α)) : dropField key (putField key value fields) = dropField key fields := by
  induction fields with
  | nil => simp [putField, dropField]
  | cons field rest ih =>
    obtain ⟨k, v⟩ := field
    by_cases h : k = key
    · simp [putField, dropField, h]
    · simp only [dropField] at ih
      simp [putField, dropField, h, ih]

/-- The value of a text key in a map of values. -/
def Value.field? (fields : Fields) (key : String) : Option Value :=
  lookupField (.str key) fields

end GuardedDispatch
