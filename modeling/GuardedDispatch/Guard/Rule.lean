import GuardedDispatch.Text.Word

/-! # Rules

One configured rule, before it is expanded into grants: the controllers, actions and routes it
names, the roles it admits, and an optional assertion. -/

namespace GuardedDispatch

/-- One configured **rule**. An action that is missing stands for the whole controller. -/
structure Rule where
  controllers : List Word
  actions : List (Option Word)
  routes : List Word
  roles : List Word
  assertion : Option Word
  deriving DecidableEq, Repr

end GuardedDispatch
