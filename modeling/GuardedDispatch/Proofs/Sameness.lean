import GuardedDispatch.Value.Equality

/-! # When values are the same

Two values are the same for one reason at a time (`Value.Alike`): each kind is compared with itself,
and numbers across kinds. So what is the same as a third value is the same
(`Value.same_trans`), which is what lets a set of values or the keys of a map be searched for any
value that counts as one of them. Being the same is not reflexive: a raised error is the same as
nothing. -/

namespace GuardedDispatch

/-- Moments that are the same as a third one are the same. -/
theorem Calendar.Moment.same_trans {a b c : Calendar.Moment} (same : a.same b = true)
    (same' : b.same c = true) : a.same c = true := by
  unfold Calendar.Moment.same at *
  -- moments with an offset are never the same as moments without
  cases ha : a.offset <;> cases hb : b.offset <;> cases hc : c.offset <;> simp_all

namespace Value

/-- What makes two values **the same**, kind by kind. -/
inductive Alike : Value → Value → Prop where
  /-- Both are absent. -/
  | null : Alike .null .null
  /-- The same characters. -/
  | str (s : String) : Alike (.str s) (.str s)
  /-- The same code points. -/
  | codes (points : List Nat) (halves : ∃ point ∈ points, ¬ point.isValidChar) :
    Alike (.codes points halves) (.codes points halves)
  /-- The same octets. -/
  | bytes (octets : List UInt8) : Alike (.bytes octets) (.bytes octets)
  /-- The same day. -/
  | date (d : Calendar.Date) : Alike (.date d) (.date d)
  /-- The same moment, wherever it was told. -/
  | moment {m m' : Calendar.Moment} (moments : m.same m' = true) : Alike (.moment m) (.moment m')
  /-- The same rule. -/
  | rule (r : Rule) : Alike (.rule r) (.rule r)
  /-- The same mark. -/
  | nan (mark : Nat) : Alike (.nan mark) (.nan mark)
  /-- The same label. -/
  | knot (label : Nat) (body body' : Value) : Alike (.knot label body) (.knot label body')
  /-- The same subject with the same roles. -/
  | identity {i i' : Identity} (subject : i.subject = i'.subject)
    (roles : i.sortedRoles = i'.sortedRoles) : Alike (.identity i) (.identity i')
  /-- The same items in the same order. -/
  | list {items items' : List Value} (members : sameItems items items' = true) :
    Alike (.list items) (.list items')
  /-- The same items in the same order. -/
  | tuple {items items' : List Value} (members : sameItems items items' = true) :
    Alike (.tuple items) (.tuple items')
  /-- As many members, the same in any order. -/
  | set {items items' : List Value} (size : items.length = items'.length)
    (members : sameMembers items items' = true) : Alike (.set items) (.set items')
  /-- As many fields, the same in any order. -/
  | map {fields fields' : Fields} (size : fields.length = fields'.length)
    (members : sameFields fields fields' = true) : Alike (.map fields) (.map fields')
  /-- The same status, headers and content. -/
  | http {status status' content content' : Value} {headers headers' : Fields}
    (statuses : same status status' = true) (size : headers.length = headers'.length)
    (members : sameFields headers headers' = true) (contents : same content content' = true) :
    Alike (.http status headers content) (.http status' headers' content')
  /-- The same extent, whatever the kinds. -/
  | number {a b : Value} (extents : sameNumber a b = true) : Alike a b

/-- Numbers of the same extent are the same. -/
theorem same_of_sameNumber {a b : Value} (extents : sameNumber a b = true) :
    same a b = true := by
  cases a with
  | bool _ | int _ | float _ => unfold same; exact extents
  | _ => cases extents

/-- **Values are the same** iff they are alike. -/
theorem same_iff {a b : Value} : same a b = true ↔ Alike a b := by
  constructor
  · intro alike
    unfold same at alike
    split at alike
    · exact .null
    · exact eq_of_beq alike ▸ .str _
    · cases eq_of_beq alike
      exact .codes _ _
    · exact eq_of_beq alike ▸ .bytes _
    · exact .list alike
    · exact .tuple alike
    · simp only [Bool.and_eq_true, beq_iff_eq] at alike
      exact .set alike.1 alike.2
    · simp only [Bool.and_eq_true, beq_iff_eq] at alike
      exact .map alike.1 alike.2
    · exact eq_of_beq alike ▸ .date _
    · exact .moment alike
    · simp only [Bool.and_eq_true, beq_iff_eq] at alike
      exact .identity alike.1 alike.2
    · simp only [Bool.and_eq_true, beq_iff_eq] at alike
      obtain ⟨⟨⟨statuses, size⟩, members⟩, contents⟩ := alike
      exact .http statuses size members contents
    · exact eq_of_beq alike ▸ .rule _
    · exact eq_of_beq alike ▸ .knot _ _ _
    · exact eq_of_beq alike ▸ .nan _
    · exact .number alike
  · intro alike
    cases alike with
    | number extents => exact same_of_sameNumber extents
    | _ => simp [same, *]

/-- Values have the same extent iff both are numbers of one extent. -/
theorem sameNumber_iff {a b : Value} :
    sameNumber a b = true ↔ ∃ extent, a.extent? = some extent ∧ b.extent? = some extent := by
  unfold sameNumber
  cases a.extent? with
  | none => simp
  | some x =>
    cases b.extent? with
    | none => simp
    | some y => simp [eq_comm (a := y)]

/-- What is the same as a number is a number of its extent. -/
theorem Alike.sameNumber_of_sameNumber {a b c : Value} (alike : Alike b c)
    (extents : sameNumber a b = true) : sameNumber a c = true := by
  obtain ⟨extent, first, second⟩ := sameNumber_iff.1 extents
  cases alike with
  | number extents' =>
    obtain ⟨other, second', third⟩ := sameNumber_iff.1 extents'
    rw [second] at second'
    cases second'
    exact sameNumber_iff.2 ⟨extent, first, third⟩
  | _ => cases second

/-- Every item is a member iff each has one that it is the same as. -/
theorem sameMembers_iff {items others : List Value} :
    sameMembers items others = true ↔ ∀ item ∈ items, ∃ other ∈ others, same item other = true := by
  induction items with
  | nil => simp [sameMembers]
  | cons item rest ih => simp [sameMembers, ih]

/-- Every field is one of others iff each has one whose key and value are the same. -/
theorem sameFields_iff {fields others : Fields} :
    sameFields fields others = true ↔ ∀ field ∈ fields, ∃ other ∈ others,
      same field.1 other.1 = true ∧ same field.2 other.2 = true := by
  induction fields with
  | nil => simp [sameFields]
  | cons field rest ih => simp [sameFields, ih]

mutual

/-- **What is the same as a third value is the same.** -/
theorem same_trans : ∀ {a b c : Value}, same a b = true → same b c = true → same a c = true := by
  intro a b c first second
  have alike := same_iff.1 second
  rw [same_iff]
  -- the second reason is of the same kind as the first
  cases same_iff.1 first with
  | number extents => exact .number (alike.sameNumber_of_sameNumber extents)
  | null | str | codes | bytes | date | rule | nan => exact alike
  | knot label body body' =>
    cases alike with
    | knot _ _ body'' => exact .knot label body body''
    | number extents => cases extents
  | moment moments =>
    cases alike with
    | moment moments' => exact .moment (Calendar.Moment.same_trans moments moments')
    | number extents => cases extents
  | identity subject roles =>
    cases alike with
    | identity subject' roles' => exact .identity (subject.trans subject') (roles.trans roles')
    | number extents => cases extents
  | list members =>
    cases alike with
    | list members' => exact .list (sameItems_trans members members')
    | number extents => cases extents
  | tuple members =>
    cases alike with
    | tuple members' => exact .tuple (sameItems_trans members members')
    | number extents => cases extents
  | set size members =>
    cases alike with
    | set size' members' => exact .set (size.trans size') (sameMembers_trans members members')
    | number extents => cases extents
  | map size members =>
    cases alike with
    | map size' members' => exact .map (size.trans size') (sameFields_trans members members')
    | number extents => cases extents
  | http statuses size members contents =>
    cases alike with
    | http statuses' size' members' contents' =>
      exact .http (same_trans statuses statuses') (size.trans size')
        (sameFields_trans members members') (same_trans contents contents')
    | number extents => cases extents

theorem sameItems_trans : ∀ {as bs cs : List Value}, sameItems as bs = true →
    sameItems bs cs = true → sameItems as cs = true
  | [], [], [], _, _ => rfl
  | a :: as, b :: bs, c :: cs, first, second => by
    simp only [sameItems, Bool.and_eq_true] at first second ⊢
    exact ⟨same_trans first.1 second.1, sameItems_trans first.2 second.2⟩

theorem sameMembers_trans : ∀ {as bs cs : List Value}, sameMembers as bs = true →
    sameMembers bs cs = true → sameMembers as cs = true
  | [], _, _, _, _ => rfl
  | a :: as, bs, cs, first, second => by
    simp only [sameMembers, Bool.and_eq_true, List.any_eq_true] at first ⊢
    obtain ⟨⟨b, isB, alike⟩, rest⟩ := first
    obtain ⟨c, isC, alike'⟩ := sameMembers_iff.1 second b isB
    exact ⟨⟨c, isC, same_trans alike alike'⟩, sameMembers_trans rest second⟩

theorem sameFields_trans : ∀ {as bs cs : Fields}, sameFields as bs = true →
    sameFields bs cs = true → sameFields as cs = true
  | [], _, _, _, _ => rfl
  | (key, value) :: as, bs, cs, first, second => by
    simp only [sameFields, Bool.and_eq_true, List.any_eq_true] at first ⊢
    obtain ⟨⟨field, isField, keys, values⟩, rest⟩ := first
    obtain ⟨other, isOther, keys', values'⟩ := sameFields_iff.1 second field isField
    exact ⟨⟨other, isOther, same_trans keys keys', same_trans values values'⟩,
      sameFields_trans rest second⟩

end

/-- Values that are the same as a third one are the same. -/
theorem beq_trans {a b c : Value} (first : (a == b) = true) (second : (b == c) = true) :
    (a == c) = true := same_trans first second

end Value

end GuardedDispatch
