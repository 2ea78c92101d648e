import GuardedDispatch.Access.Service

/-! # Oracles

What guards consult: a question about a resource and a privilege, and the identity that is asking.
An authorization service is one for a given caller (`Service.oracle`); a `Double` answers from a
fixed list; what cannot be asked at all is mute (`Oracle.mute`). -/

namespace GuardedDispatch

/-- An **oracle**. -/
structure Oracle where
  isAllowed : Value → Value → Asking Bool
  identity : Asking Value

/-- An identity as a value. -/
def Value.ofIdentity? (identity : Option Identity) : Value :=
  (identity.map Value.identity).getD .null

/-- The oracle that a service is for a caller. -/
def Service.oracle (service : Service) (caller : Caller) : Oracle where
  isAllowed := service.isAllowed caller
  identity := pure (.ofIdentity? caller.identity)

/-- An oracle that allows a **fixed list** of resources, or raises an error at every question. -/
structure Double where
  allowed : List Value := []
  identity : Value := .null
  raises : Option Raised := none

/-- An oracle that **cannot be asked**. -/
def Oracle.mute : Oracle where
  isAllowed _ _ := throw .attribute
  identity := throw .attribute

/-- The oracle that a double is. -/
def Double.oracle (double : Double) : Oracle where
  isAllowed resource _ := do
    note (.question resource)
    if let some error := double.raises then throw (.raised error)
    return double.allowed.any (resource == ·)
  identity := pure double.identity

end GuardedDispatch
