import GuardedDispatch.Proofs.Stepwise
import GuardedDispatch.Session

/-! # Identities within identities

All providers of a context report the one identity that is bound to it. Binding an identity hands
out a token, and the token restores, once, the identity that was bound before.

* **Calls** (`IdentityCall`) bind identities and restore them through providers that go by names;
  tokens get names too. They are **nested** (`Nested`) if every identity that is bound is restored
  by its own token, with nested calls in between.
* **`Session.Passed`** is what any calls leave alone, also those that fail: the providers, the
  meaning of names, and that a used token is used.
* **`Session.CameBack`** is what nested calls come to: all of them succeed, and behind them the
  identity is the one before them. -/

namespace GuardedDispatch

/-! ## Calls -/

/-- A **call** on a provider, which goes by a name. -/
inductive IdentityCall where
  /-- Bind an identity to the context, and give its token a name. -/
  | bind (provider : String) (identity : Option Identity) (token : String)
  /-- Restore the identity that was bound before a token was handed out. -/
  | restore (provider token : String)
  deriving DecidableEq, Repr

namespace IdentityCall

/-- The step of a session that is the call. -/
def step : IdentityCall → Step Unit
  | bind provider identity token => Session.setIdentity provider identity token
  | restore provider token => Session.resetIdentity provider token

/-- The name of the provider that is called. -/
def provider : IdentityCall → String
  | bind provider _ _ => provider
  | restore provider _ => provider

/-- The name that is given to a token, if one is handed out. -/
def given? : IdentityCall → Option String
  | bind _ _ token => some token
  | restore _ _ => none

/-- A call **is made through** one of some providers, and gives the name of none of them to a
token. -/
structure Through (providers : List String) (call : IdentityCall) : Prop where
  mem : call.provider ∈ providers
  apart : ∀ token, call.given? = some token → token ∉ providers

end IdentityCall

/-- Calls through some providers are **nested**: what is bound is restored by the token that was
handed out for it, through any provider, and the calls in between are nested and leave the token its
name. -/
inductive Nested (providers : List String) : List IdentityCall → Prop where
  /-- No calls. -/
  | nil : Nested providers []
  /-- An identity is bound and restored, with calls within and behind. -/
  | around {provider other token : String} {identity : Option Identity}
    {within behind : List IdentityCall} (mem : provider ∈ providers) (mem' : other ∈ providers)
    (apart : token ∉ providers) (inner : Nested providers within)
    (kept : ∀ call ∈ within, call.given? ≠ some token) (rest : Nested providers behind) :
    Nested providers (.bind provider identity token :: (within ++ .restore other token :: behind))

/-- Nested calls are made through the providers. -/
theorem Nested.through {providers : List String} {calls : List IdentityCall}
    (nested : Nested providers calls) : ∀ call ∈ calls, call.Through providers := by
  induction nested with
  | nil => simp
  | @around provider other token identity within behind mem mem' apart _ _ _ inner rest =>
    have binds : (IdentityCall.bind provider identity token).Through providers := by
      refine ⟨mem, ?_⟩
      rintro _ ⟨⟩
      exact apart
    have restores : (IdentityCall.restore other token).Through providers :=
      ⟨mem', by rintro _ ⟨⟩⟩
    intro call isCall
    simp only [List.mem_cons, List.mem_append] at isCall
    rcases isCall with rfl | isInner | rfl | isRest
    · exact binds
    · exact inner call isInner
    · exact restores
    · exact rest call isRest

/-- A caller **is reported** with an identity: the roles of the identity count, in order, or the
default role alone where there are none. -/
structure Caller.Reports (caller : Caller) (bound : Option Identity) (defaultRole : Word) :
    Prop where
  identity : caller.identity = bound
  withRoles : ∀ i, bound = some i → i.roles ≠ [] → caller.roles = i.sortedRoles
  withoutRoles : (∀ i, bound = some i → i.roles = []) → caller.roles = [defaultRole]

/-- This is how callers are made. -/
theorem Caller.reports_of (bound : Option Identity) (defaultRole : Word) :
    (Caller.of bound defaultRole).Reports bound defaultRole where
  identity := rfl
  withRoles := by
    rintro i rfl some
    exact if_neg (mt List.isEmpty_iff.1 some)
  withoutRoles := by
    intro none
    cases bound with
    | none => rfl
    | some i => exact if_pos (List.isEmpty_iff.2 (none i rfl))

/-- A token that restores is unused before, and used behind. -/
theorem IdentityContext.exists_of_restore {context after : IdentityContext} {number : Nat}
    (restored : context.restore number = .ok after) : ∃ previous,
      context.tokens[number]? = some (some previous) ∧
      after = ⟨previous, context.tokens.set number none⟩ := by
  unfold restore at restored
  split at restored
  · rename_i previous unused
    cases restored
    exact ⟨previous, unused, rfl⟩
  · cases restored

namespace Session

/-! ## One call -/

/-- A session **offers** providers: every name stands for one that reports the identity of the
context. -/
def Offers (session : Session) (providers : List String) : Prop :=
  ∀ name ∈ providers, ∃ ref defaultRole, session.site.providerNamed name = .ok ref ∧
    session.site.providers.get ref = .ofContext defaultRole

/-- The session with an identity bound, and its token named. -/
def bound (session : Session) (identity : Option Identity) (token : String) : Session :=
  let (number, context) := session.site.context.bind identity
  { session with site := ({ session.site with context }).enter token (.token number) }

/-- The session with another context. -/
def inContext (session : Session) (context : IdentityContext) : Session :=
  { session with site := { session.site with context } }

variable {providers : List String} {session : Session}

/-- **Binding** an identity through a provider of the context succeeds. -/
theorem after_bind (offers : session.Offers providers) {provider : String}
    (mem : provider ∈ providers) (identity : Option Identity) (token : String) :
    session.after (IdentityCall.bind provider identity token).step =
      (.ok (), session.bound identity token) := by
  obtain ⟨ref, defaultRole, named, isContext⟩ := offers provider mem
  have site : settle getSite session = (.ok session.site, session) := rfl
  show settle (setIdentity provider identity token) session = _
  unfold setIdentity
  rw [settle_bind_of_ok site, settle_bind, settle_liftM, named]
  dsimp only
  rw [isContext]
  rfl

/-- **Restoring** changes nothing but the context, and nothing at all where it fails. -/
theorem after_restore (offers : session.Offers providers) {provider : String}
    (mem : provider ∈ providers) (token : String) :
    session.after (IdentityCall.restore provider token).step =
      match tokenNamed session.site token >>= session.site.context.restore with
      | .ok context => (.ok (), session.inContext context)
      | .error failure => (.error failure, session) := by
  obtain ⟨ref, defaultRole, named, isContext⟩ := offers provider mem
  have site : settle getSite session = (.ok session.site, session) := rfl
  show settle (resetIdentity provider token) session = _
  unfold resetIdentity
  rw [settle_bind_of_ok site, settle_bind, settle_liftM, named]
  dsimp only
  rw [isContext]
  dsimp only
  rw [settle_bind, settle_liftM]
  cases tokenNamed session.site token with
  | error failure => rfl
  | ok number =>
    have looked : (Except.ok number >>= session.site.context.restore) =
        session.site.context.restore number := rfl
    rw [looked]
    dsimp only
    rw [settle_bind, settle_liftM]
    cases session.site.context.restore number <;> rfl

/-- A name that was given to a token stands for it. -/
theorem tokenNamed_of_lookup {site : Site} {token : String} {number : Nat}
    (given : lookupField token site.directory = some (.token number)) :
    tokenNamed site token = .ok number := by
  unfold tokenNamed Site.named
  rw [given]
  rfl

/-- What is under the name of a token was given to it. -/
theorem lookup_of_tokenNamed {site : Site} {token : String} {number : Nat}
    (named : tokenNamed site token = .ok number) :
    lookupField token site.directory = some (.token number) := by
  unfold tokenNamed Site.named at named
  cases found : lookupField token site.directory with
  | none =>
    rw [found] at named
    cases named
  | some entry =>
    rw [found] at named
    cases entry with
    | token other =>
      cases named
      rfl
    | _ => cases named

/-- A call that restores by a name uses the token that was given the name. -/
theorem after_restore_of_lookup (offers : session.Offers providers) {provider : String}
    (mem : provider ∈ providers) {token : String} {number : Nat}
    (given : lookupField token session.site.directory = some (.token number)) :
    session.after (IdentityCall.restore provider token).step =
      match session.site.context.restore number with
      | .ok context => (.ok (), session.inContext context)
      | .error failure => (.error failure, session) := by
  rw [after_restore offers mem, tokenNamed_of_lookup given]
  rfl

/-- While a token is unused, it **restores** what was current before it. -/
theorem after_restore_of_unused (offers : session.Offers providers) {provider : String}
    (mem : provider ∈ providers) {token : String} {number : Nat}
    (given : lookupField token session.site.directory = some (.token number))
    {previous : Option Identity}
    (unused : session.site.context.tokens[number]? = some (some previous)) :
    session.after (IdentityCall.restore provider token).step =
      (.ok (), session.inContext ⟨previous, session.site.context.tokens.set number none⟩) := by
  rw [after_restore_of_lookup offers mem given, IdentityContext.restore, unused]

/-- **A used token** restores nothing, and the call changes nothing. -/
theorem after_restore_of_used (offers : session.Offers providers) {provider : String}
    (mem : provider ∈ providers) {token : String} {number : Nat}
    (given : lookupField token session.site.directory = some (.token number))
    (used : session.site.context.tokens[number]? = some none) :
    session.after (IdentityCall.restore provider token).step = (.error .spentToken, session) := by
  rw [after_restore_of_lookup offers mem given, IdentityContext.restore, used]

/-- Behind a call that restored, its **token is used**. -/
theorem exists_used_of_restored (offers : session.Offers providers) {provider : String}
    (mem : provider ∈ providers) {token : String}
    (ok : (session.after (IdentityCall.restore provider token).step).1 = .ok ()) :
    let after := (session.after (IdentityCall.restore provider token).step).2
    ∃ number : Nat, lookupField token after.site.directory = some (.token number) ∧
      after.site.context.tokens[number]? = some none := by
  rw [after_restore offers mem] at ok ⊢
  cases looked : tokenNamed session.site token >>= session.site.context.restore with
  | error failure =>
    rw [looked] at ok
    cases ok
  | ok context =>
    obtain ⟨number, named, restored⟩ := exists_ok_of_bind looked
    obtain ⟨previous, unused, rfl⟩ := IdentityContext.exists_of_restore restored
    obtain ⟨inside, -⟩ := List.getElem?_eq_some_iff.1 unused
    exact ⟨number, lookup_of_tokenNamed named, List.getElem?_set_self inside⟩

/-! ## Calls one after the other -/

/-- The session after calls were made one after the other, whether or not they succeeded. -/
def follow (session : Session) (calls : List IdentityCall) : Session :=
  calls.foldl (fun session call => (session.after call.step).2) session

theorem follow_append (session : Session) (calls others : List IdentityCall) :
    session.follow (calls ++ others) = (session.follow calls).follow others :=
  List.foldl_append

/-- Calls behind one that binds go on from the bound identity. -/
theorem follow_bind (offers : session.Offers providers) {provider : String}
    (mem : provider ∈ providers) (identity : Option Identity) (token : String)
    (calls : List IdentityCall) :
    session.follow (.bind provider identity token :: calls) =
      (session.bound identity token).follow calls := by
  show (session.after (IdentityCall.bind provider identity token).step).2.follow calls = _
  rw [after_bind offers mem]

/-- What calls **pass by**: the providers, what names stand for that are given to no token, and that
used tokens are used. -/
structure Passed (calls : List IdentityCall) (before after : Session) : Prop where
  providers : after.site.providers = before.site.providers
  names : ∀ name, (∀ call ∈ calls, call.given? ≠ some name) →
    lookupField name after.site.directory = lookupField name before.site.directory
  used : ∀ number : Nat, before.site.context.tokens[number]? = some none →
    after.site.context.tokens[number]? = some none

/-- What changes nothing passes everything by. -/
theorem Passed.refl (calls : List IdentityCall) (session : Session) :
    Passed calls session session :=
  ⟨rfl, fun _ _ => rfl, fun _ used => used⟩

/-- Calls pass by what both parts of them pass by. -/
theorem Passed.trans {calls others : List IdentityCall} {first second third : Session}
    (passed : Passed calls first second) (passed' : Passed others second third) :
    Passed (calls ++ others) first third where
  providers := passed'.providers.trans passed.providers
  names name free := by
    rw [passed'.names name fun call mem => free call (List.mem_append_right _ mem),
      passed.names name fun call mem => free call (List.mem_append_left _ mem)]
  used number used := passed'.used number (passed.used number used)

/-- Calls through providers leave them on offer. -/
theorem Passed.offers {calls : List IdentityCall} {after : Session}
    (passed : Passed calls session after) (through : ∀ call ∈ calls, call.Through providers)
    (offers : session.Offers providers) : after.Offers providers := by
  intro name mem
  obtain ⟨ref, defaultRole, named, isContext⟩ := offers name mem
  refine ⟨ref, defaultRole, ?_, by rw [passed.providers, isContext]⟩
  have same := passed.names name fun call isCall given => (through call isCall).apart name given mem
  unfold Site.providerNamed Site.named at named ⊢
  rw [same]
  exact named

/-- Binding changes the name of its token only, and uses none up. -/
theorem passed_bound (session : Session) (provider : String) (identity : Option Identity)
    (token : String) :
    Passed [.bind provider identity token] session (session.bound identity token) where
  providers := rfl
  names name free := by
    refine lookupField_putField_of_ne ?_ _ _
    rintro rfl
    exact free _ List.mem_cons_self rfl
  used number used := by
    obtain ⟨inside, -⟩ := List.getElem?_eq_some_iff.1 used
    show (session.site.context.tokens ++ [_])[number]? = _
    rw [List.getElem?_append_left inside, used]

/-- Restoring changes no name, and uses one token up. -/
theorem passed_inContext {context : IdentityContext} {number : Nat}
    (restored : session.site.context.restore number = .ok context) (calls : List IdentityCall) :
    Passed calls session (session.inContext context) where
  providers := rfl
  names name _ := rfl
  used other used := by
    obtain ⟨previous, unused, rfl⟩ := IdentityContext.exists_of_restore restored
    show (session.site.context.tokens.set number none)[other]? = _
    rw [List.getElem?_set]
    split
    · rename_i same
      subst same
      rw [used] at unused
      cases unused
    · exact used

/-- **Any call** through providers of the context passes these things by. -/
theorem passed_call (offers : session.Offers providers) {call : IdentityCall}
    (through : call.Through providers) : Passed [call] session (session.after call.step).2 := by
  cases call with
  | bind provider identity token =>
    have mem : provider ∈ providers := through.mem
    rw [after_bind offers mem]
    exact passed_bound session provider identity token
  | restore provider token =>
    have mem : provider ∈ providers := through.mem
    rw [after_restore offers mem]
    cases looked : tokenNamed session.site token >>= session.site.context.restore with
    | error failure => exact .refl _ _
    | ok context =>
      obtain ⟨number, -, restored⟩ := exists_ok_of_bind looked
      exact passed_inContext restored _

/-- So do **any number of calls**, in whatever order. -/
theorem passed_follow {calls : List IdentityCall} (offers : session.Offers providers)
    (through : ∀ call ∈ calls, call.Through providers) :
    Passed calls session (session.follow calls) := by
  induction calls generalizing session with
  | nil => exact .refl _ _
  | cons call rest ih =>
    obtain ⟨first, others⟩ := List.forall_mem_cons.1 through
    have passed := passed_call offers first
    have offers := passed.offers (List.forall_mem_singleton.2 first) offers
    exact passed.trans (ih offers others)

/-- So providers are on offer behind them. -/
theorem Offers.follow {calls : List IdentityCall} (offers : session.Offers providers)
    (through : ∀ call ∈ calls, call.Through providers) : (session.follow calls).Offers providers :=
  (passed_follow offers through).offers through offers

/-- Calls **complete** if every one of them succeeds behind those before it. -/
def Completes : Session → List IdentityCall → Prop
  | _, [] => True
  | session, call :: rest =>
    (session.after call.step).1 = .ok () ∧ (session.after call.step).2.Completes rest

/-- Calls complete behind calls that do. -/
theorem Completes.append {calls others : List IdentityCall} (completes : session.Completes calls)
    (completes' : (session.follow calls).Completes others) :
    session.Completes (calls ++ others) := by
  induction calls generalizing session with
  | nil => exact completes'
  | cons call rest ih => exact ⟨completes.1, ih completes.2 completes'⟩

/-- Wherever a call stands among calls that complete, it succeeds. -/
theorem Completes.ok {call : IdentityCall} {before behind : List IdentityCall}
    (completes : session.Completes (before ++ call :: behind)) :
    ((session.follow before).after call.step).1 = .ok () := by
  induction before generalizing session with
  | nil => exact completes.1
  | cons first rest ih => exact ih completes.2

/-! ## Nested calls -/

/-- Calls **came back**: they completed, the identity that was bound before them is bound again, and
the tokens that were handed out before them are as they were. -/
structure CameBack (session : Session) (calls : List IdentityCall) : Prop where
  completes : session.Completes calls
  current : (session.follow calls).site.context.current = session.site.context.current
  tokens : session.site.context.tokens <+: (session.follow calls).site.context.tokens

/-- **What was bound is restored** by its token once the calls in between came back: then the
identity and the tokens are those before it. -/
theorem exists_closed (offers : session.Offers providers) {provider other token : String}
    (mem : provider ∈ providers) (mem' : other ∈ providers) (apart : token ∉ providers)
    (identity : Option Identity) {inside : List IdentityCall}
    (through : ∀ call ∈ inside, call.Through providers)
    (kept : ∀ call ∈ inside, call.given? ≠ some token)
    (came : (session.bound identity token).Offers providers →
      (session.bound identity token).CameBack inside) :
    ∃ closed, (session.bound identity token).CameBack inside ∧
      ((session.bound identity token).follow inside).after
        (IdentityCall.restore other token).step = (.ok (), closed) ∧
      closed.Offers providers ∧
      closed.site.context.current = session.site.context.current ∧
      session.site.context.tokens <+: closed.site.context.tokens := by
  let tokens := session.site.context.tokens
  let opened := session.bound identity token
  have offersOpened : opened.Offers providers := by
    refine (passed_bound session provider identity token).offers ?_ offers
    refine List.forall_mem_singleton.2 ⟨mem, ?_⟩
    rintro _ ⟨⟩
    exact apart
  have came := came offersOpened
  -- the token is the next number, and nothing in between takes its name or uses it
  have given : lookupField token opened.site.directory = some (.token tokens.length) :=
    lookupField_putField_self _ _ _
  have passed := passed_follow offersOpened through
  obtain ⟨others, handedOut⟩ : tokens ++ [some session.site.context.current] <+:
      (opened.follow inside).site.context.tokens := came.tokens
  have unused : (opened.follow inside).site.context.tokens[tokens.length]? =
      some (some session.site.context.current) := by
    rw [← handedOut, List.append_assoc, List.getElem?_append_right (Nat.le_refl _), Nat.sub_self]
    rfl
  have offersClosing := offersOpened.follow through
  refine ⟨_, came, after_restore_of_unused offersClosing mem'
    ((passed.names token kept).trans given) unused, offersClosing, rfl, ?_⟩
  show tokens <+: (opened.follow inside).site.context.tokens.set tokens.length none
  rw [← handedOut, List.append_assoc, List.set_append_right _ _ (Nat.le_refl _)]
  exact List.prefix_append _ _

/-- **Nested calls come back.** -/
theorem cameBack_of_nested {calls : List IdentityCall} (nested : Nested providers calls) :
    ∀ {session : Session}, session.Offers providers → session.CameBack calls := by
  induction nested with
  | nil => exact fun _ => ⟨trivial, rfl, List.prefix_rfl⟩
  | @around provider other token identity inside behind mem mem' apart inner kept rest ih ih' =>
    intro session offers
    have opens := after_bind offers mem identity token
    obtain ⟨closed, came, closes, offersClosed, current, tokens⟩ :=
      exists_closed offers mem mem' apart identity inner.through kept ih
    have came' : closed.CameBack behind := ih' offersClosed
    have followed : session.follow (.bind provider identity token ::
        (inside ++ .restore other token :: behind)) = closed.follow behind := by
      rw [follow_bind offers mem, follow_append]
      show (((session.bound identity token).follow inside).after
        (IdentityCall.restore other token).step).2.follow _ = _
      rw [closes]
    refine ⟨⟨by rw [opens], ?_⟩, ?_, ?_⟩
    · rw [opens]
      refine came.completes.append ⟨by rw [closes], ?_⟩
      rw [closes]
      exact came'.completes
    · rw [followed, came'.current, current]
    · rw [followed]
      exact tokens.trans came'.tokens

/-! ## What is reported -/

/-- What providers report depends on the providers and on the current identity. -/
theorem caller_congr {site other : Site} (providers : other.providers = site.providers)
    (current : other.context.current = site.context.current) (ref : ProviderRef) :
    other.caller ref = site.caller ref := by
  unfold Site.caller Provider.caller
  rw [providers]
  cases site.providers.get ref with
  | fixed identity defaultRole => rfl
  | ofContext defaultRole => rw [current]

/-- A provider of the context reports the current identity. -/
theorem reports_caller {site : Site} {ref : ProviderRef} {defaultRole : Word}
    (isContext : site.providers.get ref = .ofContext defaultRole) :
    (site.caller ref).Reports site.context.current defaultRole := by
  unfold Site.caller
  rw [isContext]
  exact Caller.reports_of _ _

/-- While nested calls come and go, **the identity that was bound is reported**. -/
theorem reports_inside (offers : session.Offers providers) {provider token : String}
    {identity : Option Identity}
    (through : (IdentityCall.bind provider identity token).Through providers)
    {inside : List IdentityCall} (inner : Nested providers inside) {ref : ProviderRef}
    {defaultRole : Word} (isContext : session.site.providers.get ref = .ofContext defaultRole) :
    ((session.follow (.bind provider identity token :: inside)).site.caller ref).Reports
      identity defaultRole := by
  have passed := passed_bound session provider identity token
  have offersOpened := passed.offers (List.forall_mem_singleton.2 through) offers
  have came := cameBack_of_nested inner offersOpened
  have same := (passed_follow offersOpened inner.through).providers.trans passed.providers
  have mem : provider ∈ providers := through.mem
  rw [follow_bind offers mem]
  have reports := reports_caller (same ▸ isContext)
  rwa [came.current] at reports

/-- **A token that restored restores no more**, whatever calls follow. -/
theorem restore_again (offers : session.Offers providers) {provider again token : String}
    (mem : provider ∈ providers) (mem' : again ∈ providers)
    (ok : (session.after (IdentityCall.restore provider token).step).1 = .ok ())
    {later : List IdentityCall}
    (free : ∀ call ∈ later, call.Through providers ∧ call.given? ≠ some token) :
    let reached := session.follow (.restore provider token :: later)
    reached.after (IdentityCall.restore again token).step = (.error .spentToken, reached) := by
  have through : (IdentityCall.restore provider token).Through providers := ⟨mem, by rintro _ ⟨⟩⟩
  have offersUsed :=
    (passed_call offers through).offers (List.forall_mem_singleton.2 through) offers
  have throughLater : ∀ call ∈ later, call.Through providers := fun call isLater =>
    (free call isLater).1
  have passed := passed_follow offersUsed throughLater
  obtain ⟨number, given, used⟩ := exists_used_of_restored offers mem ok
  have named := passed.names token fun call isLater => (free call isLater).2
  exact after_restore_of_used (offersUsed.follow throughLater) mem' (named.trans given)
    (passed.used number used)

/-- **Identities are nested.** Nested calls through providers of the context all succeed, and behind
them every provider reports the caller that it reported before. Between the call that binds an
identity and the one that restores by its token, and outside what is bound in between, every
provider of the context reports that identity, with its own default role where there are no other
roles. Whatever calls follow one that restored by a token, restoring by that token again fails
through every provider, and leaves everything as it is. -/
theorem callers_of_nested (offers : session.Offers providers) {calls : List IdentityCall}
    (nested : Nested providers calls) :
    session.Completes calls ∧
    (∀ ref, (session.follow calls).site.caller ref = session.site.caller ref) ∧
    (∀ before provider identity token inside,
      before ++ .bind provider identity token :: inside <+: calls → Nested providers inside →
      ∀ ref defaultRole, session.site.providers.get ref = .ofContext defaultRole →
        ((session.follow (before ++ .bind provider identity token :: inside)).site.caller
          ref).Reports identity defaultRole) ∧
    ∀ before provider token again later, before ++ [.restore provider token] <+: calls →
      again ∈ providers →
      (∀ call ∈ later, call.Through providers ∧ call.given? ≠ some token) →
      let reached := session.follow (before ++ .restore provider token :: later)
      reached.after (IdentityCall.restore again token).step = (.error .spentToken, reached) := by
  have through := nested.through
  have came := cameBack_of_nested nested offers
  have opens (before others : List IdentityCall) (front : before ++ others <+: calls) :
      ∀ call ∈ before, call.Through providers := fun call mem =>
    through call (front.subset (List.mem_append_left _ mem))
  refine ⟨came.completes, fun ref => ?_, ?_, ?_⟩
  · exact caller_congr (passed_follow offers through).providers came.current ref
  · intro before provider identity token inside front inner ref defaultRole isContext
    have opening := opens before _ front
    have binds : (IdentityCall.bind provider identity token).Through providers :=
      through _ (front.subset (by simp))
    rw [follow_append]
    exact reports_inside (offers.follow opening) binds inner
      ((passed_follow offers opening).providers ▸ isContext)
  · intro before provider token again later front mem free
    have restores : (IdentityCall.restore provider token).Through providers :=
      through _ (front.subset (by simp))
    have opening := opens before _ front
    obtain ⟨behind, rfl⟩ := front
    have completes := came.completes
    rw [List.append_assoc] at completes
    rw [follow_append]
    exact restore_again (offers.follow opening) restores.mem mem completes.ok free

/-- Two providers with default roles of their own, and an anonymous part within the time of an
identity: in it the default roles are reported, behind it the identity again, and its token is
used. -/
theorem callers_of_nested_anonymous :
    let session := ((({} : Session).after (addProvider "users" (.ofContext "guest"))).2.after
      (addProvider "staff" (.ofContext "member"))).2
    let ann : Identity := ⟨"ann", ["editor", "admin"]⟩
    let anonymous : List IdentityCall := [.bind "staff" none "inner", .restore "users" "inner"]
    let calls := .bind "users" (some ann) "outer" :: (anonymous ++ [.restore "staff" "outer"])
    session.Offers ["users", "staff"] ∧ Nested ["users", "staff"] calls ∧
      session.Completes calls ∧
      (session.follow calls).site.caller 0 = ⟨none, ["guest"]⟩ ∧
      ((session.follow (calls.take 2)).site.caller 0).roles = [.text "guest"] ∧
      ((session.follow (calls.take 2)).site.caller 1).roles = [.text "member"] ∧
      ((session.follow (calls.take 3)).site.caller 1).roles = ann.sortedRoles ∧
      ((session.follow (calls.take 3)).after
        (IdentityCall.restore "staff" "inner").step).1 = .error .spentToken := by
  intro session ann anonymous calls
  have offers : session.Offers ["users", "staff"] := by
    intro name mem
    simp only [List.mem_cons, List.not_mem_nil, or_false] at mem
    rcases mem with rfl | rfl
    · exact ⟨0, "guest", rfl, rfl⟩
    · exact ⟨1, "member", rfl, rfl⟩
  have inner : Nested ["users", "staff"] anonymous :=
    .around (by decide) (by decide) (by decide) .nil (by simp) .nil
  have nested : Nested ["users", "staff"] calls :=
    .around (by decide) (by decide) (by decide) inner (by decide) .nil
  obtain ⟨completes, restored, inside, again⟩ := callers_of_nested offers nested
  have opened : calls.take 2 <+: calls := List.take_prefix 2 calls
  have closed : calls.take 3 <+: calls := List.take_prefix 3 calls
  have within (ref : ProviderRef) := inside (calls.take 1) "staff" none "inner" [] opened .nil ref
  have behind := inside [] "users" (some ann) "outer" anonymous closed inner 1 "member" rfl
  refine ⟨offers, nested, completes, restored 0, ?_, ?_, ?_, ?_⟩
  · exact (within 0 "guest" rfl).withoutRoles (by rintro i ⟨⟩)
  · exact (within 1 "member" rfl).withoutRoles (by rintro i ⟨⟩)
  · exact behind.withRoles ann rfl (by decide)
  · exact congrArg Prod.fst
      (again (calls.take 2) "users" "inner" "staff" [] closed (by decide) (by simp))

end Session

end GuardedDispatch
