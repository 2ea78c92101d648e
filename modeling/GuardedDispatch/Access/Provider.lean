import GuardedDispatch.Access.Identity
import GuardedDispatch.Failure

/-! # Identity providers

Where an authorization service learns who is asking. A **static** provider holds an identity of its
own; a **context** provider reports the identity of the current context, which all of them share.
Binding an identity to the context gives a token that restores, once, the identity bound before
(`IdentityContext.bind`, `IdentityContext.restore`). -/

namespace GuardedDispatch

/-- The current identity of a context, and for each token given out the identity that it restores;
a token that was used restores none. -/
structure IdentityContext where
  current : Option Identity := none
  tokens : List (Option (Option Identity)) := []
  deriving DecidableEq, Repr

namespace IdentityContext

/-- **Bind** an identity; the token is its position among all tokens. -/
def bind (context : IdentityContext) (identity : Option Identity) : Nat × IdentityContext :=
  (context.tokens.length, ⟨identity, context.tokens ++ [some context.current]⟩)

/-- **Restore** the identity that was current when the token was given out. -/
def restore (context : IdentityContext) (token : Nat) : Except Failure IdentityContext :=
  match context.tokens[token]? with
  | some (some previous) => .ok ⟨previous, context.tokens.set token none⟩
  | _ => .error .spentToken

@[simp] theorem bind_current (context : IdentityContext) (identity : Option Identity) :
    (context.bind identity).2.current = identity := rfl

end IdentityContext

/-- A **provider** of identities, with the role of callers who have none. -/
inductive Provider where
  /-- Reports its own identity. -/
  | fixed (identity : Option Identity) (defaultRole : Word)
  /-- Reports the identity of the context. -/
  | ofContext (defaultRole : Word)
  deriving DecidableEq, Repr, Inhabited

/-- Who is asking, and the roles that count. -/
structure Caller where
  identity : Option Identity
  roles : List Word
  deriving DecidableEq, Repr

/-- The role of callers without roles, unless another is given. -/
def standardRole : Word := "guest"

/-- A caller with an identity or without; without roles, the default role alone counts. -/
def Caller.of (identity : Option Identity) (defaultRole : Word) : Caller :=
  ⟨identity,
    match identity with
    | none => [defaultRole]
    | some i => if i.roles.isEmpty then [defaultRole] else i.sortedRoles⟩

/-- The caller whom a provider reports. -/
def Provider.caller (context : IdentityContext) : Provider → Caller
  | .fixed identity defaultRole => .of identity defaultRole
  | .ofContext defaultRole => .of context.current defaultRole

@[simp] theorem Caller.of_none (defaultRole : Word) :
    Caller.of none defaultRole = ⟨none, [defaultRole]⟩ := rfl

end GuardedDispatch
