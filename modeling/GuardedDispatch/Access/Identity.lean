import GuardedDispatch.Text.Word

/-! # Identities

Who is asking: a subject and the roles it holds. -/

namespace GuardedDispatch

/-- An authenticated **identity** and the roles it holds. -/
structure Identity where
  subject : String
  roles : List Word
  deriving DecidableEq, Repr

/-- Whether the identity holds a role. -/
def Identity.hasRole (identity : Identity) (role : Word) : Bool :=
  identity.roles.contains role

/-- Texts ordered by code point. -/
def sortTexts (texts : List String) : List String :=
  texts.mergeSort fun a b => !(decide (b < a))

/-- Words ordered by code point. -/
def sortWords (words : List Word) : List Word :=
  words.mergeSort fun a b => !(decide (b.points < a.points))

/-- The roles in order, each once. -/
def Identity.sortedRoles (identity : Identity) : List Word :=
  sortWords identity.roles.eraseDups

@[simp] theorem mem_sortWords {word : Word} {words : List Word} :
    word ∈ sortWords words ↔ word ∈ words := by
  simp [sortWords, List.mem_mergeSort]

@[simp] theorem Identity.mem_sortedRoles {identity : Identity} {role : Word} :
    role ∈ identity.sortedRoles ↔ role ∈ identity.roles := by
  simp [Identity.sortedRoles]

end GuardedDispatch
