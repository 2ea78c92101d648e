import GuardedDispatch.Guard.Basic

/-! # Which targets share a name

A name is a controller and, behind a colon, a lower-cased action. Controllers may hold colons of
their own, so the name does not always tell where the controller ends.

* **`controllerResource_eq_iff`**: two targets share a name iff they are the same up to letter case
  of the action, or one **overshadows** the other (`Overshadows`): the other's controller goes on
  behind a colon where its own action begins. -/

namespace GuardedDispatch

/-- What stands behind the controller in a name. -/
def segmentWord : Option Word → Word
  | none => ""
  | some action => ":" ++ action.lowercase

/-- A target **overshadows** another: the other's controller is its own, a colon and the beginning
of its lower-cased action, and the rest of the action is what stands behind the other. -/
def Overshadows (controller : Word) (action : Option Word) (other : Word)
    (otherAction : Option Word) : Prop :=
  ∃ start, other = controller ++ ":" ++ start ∧
    action.map Word.lowercase = some (start ++ segmentWord otherAction)

variable {c c' : Word} {a a' : Option Word}

theorem controllerResource_eq (c : Word) (a : Option Word) :
    controllerResource c a = "controller/" ++ c ++ segmentWord a := by
  cases a <;> rfl

/-- Segments are the same iff their actions are, up to letter case. -/
theorem segmentWord_inj : segmentWord a = segmentWord a' ↔
    a.map Word.lowercase = a'.map Word.lowercase := by
  cases a <;> cases a' <;> simp [segmentWord, ← Word.points_inj]

/-- Names are the same iff what stands behind the prefix is. -/
theorem controllerResource_eq_iff_points : controllerResource c a = controllerResource c' a' ↔
    c.points ++ (segmentWord a).points = c'.points ++ (segmentWord a').points := by
  rw [controllerResource_eq, controllerResource_eq, ← Word.points_inj]
  simp only [Word.points_append, List.append_assoc, List.append_cancel_left_eq]

/-- A target overshadows those whose controller is longer. -/
theorem overshadows_of_append {middle : Nat} {more : List Nat}
    (longer : c'.points = c.points ++ middle :: more)
    (same : (segmentWord a).points = (middle :: more) ++ (segmentWord a').points) :
    Overshadows c a c' a' := by
  cases a with
  | none => simp [segmentWord] at same
  | some action =>
    -- the colon of the action is where the longer controller goes on
    have cons : ':'.toNat :: action.lowercase.points =
        middle :: (more ++ (segmentWord a').points) := by
      simpa [segmentWord] using same
    obtain ⟨rfl, tail⟩ := List.cons.inj cons
    refine ⟨.ofPoints more, ?_, ?_⟩
    · rw [← Word.points_inj, longer]
      simp
    · rw [Option.map_some, Option.some.injEq, ← Word.points_inj, tail]
      simp

/-- Overshadowing targets share their name with those that they overshadow. -/
theorem Overshadows.eq (overshadows : Overshadows c a c' a') :
    controllerResource c a = controllerResource c' a' := by
  obtain ⟨start, rfl, lower⟩ := overshadows
  obtain ⟨action, rfl, eq⟩ := Option.map_eq_some_iff.1 lower
  rw [controllerResource_eq, controllerResource_eq, segmentWord, eq]
  simp only [← Word.points_inj, Word.points_append, List.append_assoc]

/-- **Two targets share a name** iff they are the same up to the letter case of the action, or one
overshadows the other. -/
theorem controllerResource_eq_iff : controllerResource c a = controllerResource c' a' ↔
    (c = c' ∧ a.map Word.lowercase = a'.map Word.lowercase) ∨
      Overshadows c a c' a' ∨ Overshadows c' a' c a := by
  constructor
  · intro same
    rw [controllerResource_eq_iff_points, List.append_eq_append_iff] at same
    -- one controller begins with the other: they are the same, or one is longer
    rcases same with ⟨_ | ⟨middle, more⟩, longer, rest⟩ | ⟨_ | ⟨middle, more⟩, longer, rest⟩
    · rw [List.append_nil, Word.points_inj] at longer
      rw [List.nil_append, Word.points_inj, segmentWord_inj] at rest
      exact .inl ⟨longer.symm, rest⟩
    · exact .inr (.inl (overshadows_of_append longer rest))
    · rw [List.append_nil, Word.points_inj] at longer
      rw [List.nil_append, Word.points_inj, segmentWord_inj] at rest
      exact .inl ⟨longer, rest.symm⟩
    · exact .inr (.inr (overshadows_of_append longer rest))
  · rintro (⟨rfl, same⟩ | overshadows | overshadows)
    · rw [controllerResource_eq, controllerResource_eq, segmentWord_inj.2 same]
    · exact overshadows.eq
    · exact overshadows.eq.symm

end GuardedDispatch
