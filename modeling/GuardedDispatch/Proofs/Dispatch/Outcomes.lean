import GuardedDispatch.Proofs.Dispatch.Running
import GuardedDispatch.Proofs.Resolving
import Mathlib.Logic.Relation

/-! # Outcomes never go back

Listeners change an event as they like, and trigger further stages of it, but the outcomes of guards
change only along their edges. So every property that depends on the outcomes alone and that the
edges keep is kept by all runs (`Stable`, `keeps_trigger`), whatever listens, and also when a
listener fails.

* **`Run.keeps_of_parts`**: what an action is made of, said once for all properties that runs keep.
* **`Outcome.LeadsTo`**: what an outcome may still become. A guard that announced its denial stays
  so (`Outcome.eq_errorTriggered`). -/

namespace GuardedDispatch

/-- An outcome **leads to** another along the edges. -/
def Outcome.LeadsTo : Outcome → Outcome → Prop :=
  Relation.ReflTransGen fun before after => before.precedes after = true

/-- Nothing comes after an announced denial. -/
theorem Outcome.eq_errorTriggered {outcome : Outcome}
    (leads : Outcome.errorTriggered.LeadsTo outcome) : outcome = .errorTriggered := by
  rcases Relation.ReflTransGen.cases_head leads with rfl | ⟨middle, edge, -⟩
  · rfl
  · cases middle <;> cases edge

/-- A move leads every guard's outcome on. -/
theorem Event.leadsTo_of_transition {event after : Event} {guard : String} {target : Outcome}
    (moved : event.transition guard target = .ok after) (other : String) :
    (event.outcome other).LeadsTo (after.outcome other) := by
  by_cases same : other = guard
  · subst same
    rw [outcome_of_transition moved]
    unfold transition at moved
    split at moved
    · exact .single ‹_›
    · cases moved
  · rw [outcome_of_transition_of_ne moved same]
    exact .refl

/-- An event that comes **by moves** from another: apart from the outcomes, which changed along the
edges, anything may be different. -/
inductive Event.ByMoves (event : Event) : Event → Prop where
  /-- The outcomes are the same. -/
  | same {after : Event} (eq : after.outcomes = event.outcomes) : Event.ByMoves event after
  /-- One more move, after which anything but the outcomes may change. -/
  | move {middle after last : Event} {guard : String} {target : Outcome}
    (before : Event.ByMoves event middle) (moved : middle.transition guard target = .ok after)
    (eq : last.outcomes = after.outcomes) : Event.ByMoves event last

/-- Whether an action **spares the site**: it neither attaches nor detaches listeners, and gives no
identity to a provider. -/
def Action.sparesSite : Action → Bool
  | .attach .. | .detach .. | .setIdentity .. => false
  | _ => true

/-- Whether an action **spares the flag**: it neither sets nor clears the stop flag. -/
def Action.sparesFlag : Action → Bool
  | .stop _ => false
  | _ => true

namespace Run

/-- A property of scenes that is **blind** to everything but the outcomes. -/
structure Blind (P : Scene → Prop) : Prop where
  blind : ∀ {before after : Scene}, after.event.outcomes = before.event.outcomes →
    P before → P after

/-- A property of scenes that is **grounded**: it depends on the site and the outcomes alone. -/
structure Grounded (P : Scene → Prop) : Prop where
  grounded : ∀ {before after : Scene}, after.site = before.site →
    after.event.outcomes = before.event.outcomes → P before → P after

/-- A property of scenes that is **stable**: it depends on the outcomes alone, and moves keep it. -/
structure Stable (P : Scene → Prop) : Prop extends Blind P where
  moves : ∀ {scene : Scene} {guard : String} {target : Outcome} {event : Event},
    scene.event.transition guard target = .ok event → P scene → P { scene with event }

/-- What a guard's outcome may become is stable. -/
theorem stable_leadsTo (outcome : Outcome) (guard : String) :
    Stable fun scene => outcome.LeadsTo (scene.event.outcome guard) where
  blind same leads := by
    rw [Event.outcome, same]
    exact leads
  moves moved leads := leads.trans (Event.leadsTo_of_transition moved guard)

variable {P : Scene → Prop}

theorem Blind.grounded (blind : Blind P) : Grounded P := ⟨fun _ => blind.blind⟩

/-- Moves keep what is stable. -/
theorem Stable.byMoves (stable : Stable P) {scene : Scene} {after : Event}
    (moved : scene.event.ByMoves after) (holds : P scene) : P { scene with event := after } := by
  induction moved with
  | same eq => exact stable.blind eq holds
  | move _ moved eq ih => exact stable.blind eq (stable.moves moved ih)

/-! ## Steps that leave the outcomes alone -/

theorem keeps_changeEvent (grounded : Grounded P) {change : Event → Event}
    (same : ∀ event, (change event).outcomes = event.outcomes) : Keeps P (changeEvent change) :=
  keeps_modify fun scene => grounded.grounded rfl (same scene.event)

theorem keeps_setSite (blind : Blind P) (site : Site) : Keeps P (setSite site) :=
  keeps_modify fun _ => blind.blind rfl

theorem keeps_note (grounded : Grounded P) (call : Call) : Keeps P (note call) :=
  keeps_modify fun _ => grounded.grounded rfl rfl

theorem keeps_site : Keeps P site := fun _ holds => holds

theorem keeps_event : Keeps P event := fun _ holds => holds

theorem keeps_ask {α : Type} (grounded : Grounded P) (asking : Asking α) : Keeps P (ask asking) :=
  fun _ => grounded.grounded rfl rfl

theorem keeps_httpResponse : Keeps P httpResponse := by
  refine keeps_bind keeps_event fun event => ?_
  cases event.httpResponse? with
  | none => exact keeps_throw _
  | some response => exact keeps_pure response

theorem keeps_changeResponse (writes : ∀ answer, Keeps P (setResponse answer)) (field : String)
    (change : HttpResponse → HttpResponse) : Keeps P (changeResponse field change) := by
  refine keeps_bind keeps_event fun event => ?_
  split
  · exact writes _
  · exact keeps_pure _
  · exact keeps_pure _
  · exact keeps_throw _
  · exact keeps_throw _
  · exact keeps_throw _

theorem keeps_attachNamed (sets : ∀ site, Keeps P (setSite site))
    (bus subscription stage : String) (handler : Handler) (priority : Value) :
    Keeps P (attachNamed bus subscription stage handler priority) :=
  keeps_bind keeps_site fun _ => keeps_bind (keeps_liftM _) fun _ => sets _

theorem keeps_detachNamed (sets : ∀ site, Keeps P (setSite site)) (bus subscription : String) :
    Keeps P (detachNamed bus subscription) :=
  keeps_bind keeps_site fun _ => keeps_bind (keeps_liftM _) fun _ =>
    keeps_bind (sets _) fun _ => keeps_pure _

/-! ## Listeners -/

variable {again : Trigger}

/-- **What actions are made of**: an action keeps what its parts keep. All write to the event, but
only some write its flag, replace the site or move outcomes. -/
theorem keeps_of_parts {a : Action} (nested : ∀ bus stage, Keeps P (again bus stage))
    (asks : ∀ asking : Asking Bool, Keeps P (ask asking))
    (writes : ∀ change : Event → Event, (∀ event, (change event).outcomes = event.outcomes) →
      (∀ event, (change event).stopped = event.stopped) → Keeps P (changeEvent change))
    (stops : a.sparesFlag = false →
      ∀ flag, Keeps P (changeEvent fun event => { event with stopped := flag }))
    (sets : a.sparesSite = false → ∀ site, Keeps P (setSite site))
    (moves : ∀ guard target, a = .transition guard target → Keeps P (action again a)) :
    Keeps P (action again a) := by
  have changes {change : Event → Event} (same : ∀ event, (change event).outcomes = event.outcomes)
      (same' : ∀ event, (change event).stopped = event.stopped) :
      Keeps P (do changeEvent change; return Value.null) :=
    keeps_bind (writes change same same') fun _ => keeps_pure _
  have answers (answer : Value) : Keeps P (setResponse answer) :=
    writes _ (fun _ => rfl) fun _ => rfl
  cases a with
  | setParam | setError | setResult | setResponse | addPage | rename | setMatch | setRouter
  | unbind => exact changes (fun _ => rfl) fun _ => rfl
  | stop flag => exact keeps_bind (stops rfl flag) fun _ => keeps_pure _
  | getParam => exact keeps_bind keeps_event fun _ => keeps_pure _
  | matchParam =>
    refine keeps_bind keeps_event fun event => ?_
    cases event.routeMatch with
    | none => exact keeps_throw _
    | some routeMatch => exact keeps_pure _
  | status | content =>
    exact keeps_bind (keeps_changeResponse answers _ _) fun _ => keeps_pure _
  | addHeader =>
    exact keeps_bind keeps_httpResponse fun _ => keeps_bind (answers _) fun _ => keeps_pure _
  | getHeader => exact keeps_bind keeps_httpResponse fun _ => keeps_pure _
  | transition guard target => exact moves guard target rfl
  | outcome => exact keeps_bind keeps_event fun _ => keeps_pure _
  | fail => exact keeps_throw _
  | attach => exact keeps_bind (keeps_attachNamed (sets rfl) _ _ _ _ _) fun _ => keeps_pure _
  | detach => exact keeps_bind (keeps_detachNamed (sets rfl) _ _) fun _ => keeps_pure _
  | setIdentity =>
    exact keeps_bind keeps_site fun _ => keeps_bind (keeps_liftM _) fun _ =>
      keeps_bind (sets rfl _) fun _ => keeps_pure _
  | isAllowed =>
    exact keeps_bind keeps_site fun _ => keeps_bind (keeps_liftM _) fun _ =>
      keeps_bind (asks _) fun _ => keeps_pure _
  | trigger =>
    exact keeps_bind keeps_site fun _ => keeps_bind (keeps_liftM _) fun _ =>
      keeps_bind (nested _ _) fun _ => keeps_pure _

/-- **An action that spares the site** and is no move keeps what is grounded, if the triggers inside
it do. -/
theorem keeps_sparing (grounded : Grounded P) (nested : ∀ bus stage, Keeps P (again bus stage))
    {a : Action} (spares : a.sparesSite = true)
    (quiet : ∀ guard target, a ≠ .transition guard target) : Keeps P (action again a) := by
  refine keeps_of_parts nested (keeps_ask grounded) ?_ ?_ ?_ ?_
  · exact fun change same _ => keeps_changeEvent grounded same
  · exact fun _ flag => keeps_changeEvent grounded fun _ => rfl
  · exact fun touches => absurd (touches.symm.trans spares) Bool.false_ne_true
  · exact fun guard target eq => absurd eq (quiet guard target)

/-- **An action other than a move** keeps what is blind, if the triggers inside it do. -/
theorem keeps_quiet (blind : Blind P) (nested : ∀ bus stage, Keeps P (again bus stage))
    {a : Action} (quiet : ∀ guard target, a ≠ .transition guard target) :
    Keeps P (action again a) := by
  refine keeps_of_parts nested (keeps_ask blind.grounded) ?_ ?_ ?_ ?_
  · exact fun change same _ => keeps_changeEvent blind.grounded same
  · exact fun _ flag => keeps_changeEvent blind.grounded fun _ => rfl
  · exact fun _ site => keeps_setSite blind site
  · exact fun guard target eq => absurd eq (quiet guard target)

/-- **A move** goes on to the event behind its edge, and fails where there is none. -/
theorem settle_transition (again : Trigger) (guard : String) (target : Outcome) (scene : Scene) :
    settle (action again (.transition guard target)) scene =
      match scene.event.transition guard target with
      | .ok after => (.ok .null, { scene with event := after })
      | .error failure => (.error failure, scene) := by
  show settle (event >>= fun event => liftM (event.transition guard target) >>= _) scene = _
  rw [settle_bind_of_ok (settle_event scene), settle_bind, settle_liftM]
  cases scene.event.transition guard target <;> rfl

/-- **An action** keeps what is stable, if the triggers inside it do. -/
theorem keeps_action (stable : Stable P) (nested : ∀ bus stage, Keeps P (again bus stage))
    (a : Action) : Keeps P (action again a) := by
  by_cases move : ∃ guard target, a = .transition guard target
  · obtain ⟨guard, target, rfl⟩ := move
    intro scene holds
    rw [settle_transition]
    cases moved : scene.event.transition guard target with
    | error failure => exact holds
    | ok after => exact stable.moves moved holds
  · exact keeps_quiet stable.toBlind nested fun guard target eq => move ⟨guard, target, eq⟩

theorem keeps_discard {σ α : Type} {P : σ → Prop} {steps : ExceptT Failure (StateM σ) α}
    (keeps : Keeps P steps) : Keeps P (discard steps) :=
  keeps_bind keeps fun _ => keeps_pure _

/-- **A script** keeps what is stable. -/
theorem keeps_script (stable : Stable P) (nested : ∀ bus stage, Keeps P (again bus stage))
    (s : Script) : Keeps P (script again s) := by
  refine keeps_bind keeps_event fun event => ?_
  refine keeps_bind (keeps_note stable.grounded _) fun _ => ?_
  refine keeps_bind (keeps_discard ?_) fun _ => keeps_pure _
  exact keeps_mapM (keeps_action stable nested) s.actions

/-- **A spy** keeps what is grounded. -/
theorem keeps_spy (grounded : Grounded P) (authority : AuthorityRef) : Keeps P (spy authority) :=
  keeps_bind keeps_event fun _ => keeps_bind keeps_site fun _ =>
    keeps_bind (keeps_ask grounded _) fun _ => keeps_note grounded _

/-- Asking about the event, and going on with what asking ensures, keeps what is grounded. -/
theorem keeps_asking {α β : Type} (grounded : Grounded P) {asking : Site → Event → Asking α}
    {R : Event → α → Prop} (ensures : ∀ site event, Ensures (asking site event) (R event))
    {next : α → Run β} (goesOn : ∀ scene value, R scene.event value → P scene →
      P (settle (next value) scene).2) :
    Keeps P (do next (← ask (asking (← site) (← event)))) := by
  intro scene holds
  show P (settle (site >>= fun site => event >>= fun event => ask (asking site event) >>= next)
    scene).2
  rw [settle_bind_of_ok (settle_site scene), settle_bind_of_ok (settle_event scene), settle_bind]
  have ensured := ensures_ask (ensures scene.site scene.event) scene
  rw [settle_ask] at ensured ⊢
  have noted : P (scene.noting (asking scene.site scene.event).outcome.2) := by
    refine grounded.grounded ?_ ?_ holds
    · rfl
    · rfl
  cases found : (asking scene.site scene.event).outcome.1 with
  | error failure => exact noted
  | ok value =>
    rw [found] at ensured
    exact goesOn _ value (ensured value _ rfl) noted

/-- **A strategy** keeps what is grounded. -/
theorem keeps_strategy (grounded : Grounded P) (ref : StrategyRef) : Keeps P (strategy ref) := by
  refine keeps_asking grounded (fun _ event => Strategy.ensures_resolve _ event) ?_
  intro scene after resolved holds
  obtain ⟨answer, pages, eq⟩ := resolved
  subst eq
  refine grounded.grounded ?_ ?_ holds
  · rfl
  · rfl

/-- The event of a verdict comes by moves. -/
def Moved (event : Event) : Verdict → Prop
  | .skip => True
  | .allowed after | .denied after _ | .unrecorded after _ => event.ByMoves after

/-- **A guard's verdict** comes by moves, whatever its oracle says. -/
theorem ensures_moved (kind : GuardKind) (oracle : Option Oracle) (event : Event) :
    Ensures (kind.check oracle event) (Moved event) := by
  intro calls verdict after eq
  cases kind.ensures_moves oracle event calls verdict after eq with
  | skip => trivial
  | allowed moved => exact .move (.same rfl) moved rfl
  | @denied _ described _ _ moved same moved' =>
    have halfway : event.ByMoves described := .move (.same rfl) moved same
    exact halfway.move moved' rfl
  | unrecorded moved same => exact .move (.same rfl) moved same

/-- **A guard** keeps what is stable, if the error stage does. -/
theorem keeps_guard (stable : Stable P) (nested : ∀ bus stage, Keeps P (again bus stage))
    (ref : GuardRef) : Keeps P (guard again ref) := by
  have checks (site : Site) (event : Event) := ensures_moved (site.guards.get ref).guard.kind
    ((site.guards.get ref).authority.map site.oracle) event
  refine keeps_asking stable.grounded checks fun scene verdict moved holds => ?_
  cases verdict with
  | skip => exact holds
  | allowed after => exact stable.byMoves moved holds
  | denied after bus =>
    exact keeps_discard (nested bus _) _ (stable.byMoves moved holds)
  | unrecorded after failure => exact stable.byMoves moved holds

/-! ## Runs -/

/-- **Every listener** keeps what is stable. -/
theorem keeps_handler (stable : Stable P) (nested : ∀ bus stage, Keeps P (again bus stage)) :
    ∀ listener : Handler, Keeps P (handler again listener)
  | .guard ref => keeps_bind (keeps_guard stable nested ref) fun _ => keeps_pure _
  | .strategy ref => keeps_bind (keeps_strategy stable.grounded ref) fun _ => keeps_pure _
  | .script s => keeps_script stable nested s
  | .spy authority => keeps_bind (keeps_spy stable.grounded authority) fun _ => keeps_pure _

/-- Running listeners one after the other keeps what each keeps. -/
theorem keeps_runListeners {σ η : Type} {P : σ → Prop}
    {invoke : η → ExceptT Failure (StateM σ) Value} {isStopped : ExceptT Failure (StateM σ) Bool}
    (each : ∀ listener, Keeps P (invoke listener)) (looks : Keeps P isStopped) :
    ∀ listeners : List η, Keeps P (runListeners invoke isStopped listeners)
  | [] => keeps_pure _
  | listener :: rest => by
    refine keeps_bind (each listener) fun value => keeps_bind looks fun stopped => ?_
    cases stopped with
    | true => exact keeps_pure _
    | false => exact keeps_bind (keeps_runListeners each looks rest) fun _ => keeps_pure _

/-- **Every trigger keeps what is stable**, whatever listens on the buses and however deep the
triggers nest. -/
theorem keeps_trigger (stable : Stable P) :
    ∀ (depth : Nat) (bus : BusRef) (stage : Option String), Keeps P (trigger depth bus stage)
  | 0, _, _ => keeps_throw _
  | depth + 1, bus, stage => by
    -- listeners may trigger stages of their own, one level less deep
    refine keeps_bind (keeps_changeEvent stable.grounded fun _ => rfl) fun _ => ?_
    refine keeps_bind keeps_site fun _ => keeps_bind keeps_event fun _ => ?_
    refine keeps_bind (keeps_liftM _) fun listeners => ?_
    exact keeps_runListeners (fun subscription =>
      keeps_handler stable (keeps_trigger stable depth) subscription.listener)
      (keeps_bind keeps_event fun _ => keeps_pure _) listeners

/-- **An announced denial stays**: no trigger takes it back, also if it fails. -/
theorem keeps_errorTriggered (guard : String) (depth : Nat) (bus : BusRef)
    (stage : Option String) :
    Keeps (fun scene => scene.event.outcome guard = .errorTriggered) (trigger depth bus stage) := by
  intro scene denied
  have start : Outcome.errorTriggered.LeadsTo (scene.event.outcome guard) := by
    rw [denied]
    exact .refl
  exact Outcome.eq_errorTriggered
    (keeps_trigger (stable_leadsTo .errorTriggered guard) depth bus stage scene start)

/-! ## What a guard decides -/

/-- **A guard's decision stands** when it is done, whatever the error stage does and also if that
fails: the outcome is allowed if the event is accepted, and an announced denial otherwise, if the
identity can be put on record. -/
theorem outcome_guard {scene : Scene} {ref : GuardRef} {oracle : Oracle} {allows : Word → Prop}
    {identity : Value} {aim : Aim} {bus : BusRef}
    (stands : (scene.site.guards.get ref).guard.kind = aim.kind)
    (consults : (scene.site.guards.get ref).authority.map scene.site.oracle = some oracle)
    (answers : oracle.Answers allows identity) (short : identity.holdsLong = false)
    (undecided : scene.event.Undecided aim bus) (named : aim ≠ .route none) (depth : Nat) :
    let after := (settle (guard (trigger depth) ref) scene).2
    (aim.Accepted allows → after.event.outcome aim.kind.id = .allowed) ∧
      (¬ aim.Accepted allows → after.event.outcome aim.kind.id = .errorTriggered) := by
  obtain ⟨verdict, returns, judges⟩ := GuardKind.exists_judges answers short undecided
  obtain ⟨calls, asked, -⟩ := returns.exists_outcome
  rw [← stands, ← consults] at asked
  rw [settle_guard rfl, asked]
  cases judges with
  | skip unnamed => exact absurd unnamed named
  | allowed found =>
    refine ⟨fun _ => ?_, fun rejected => absurd (.inl found) rejected⟩
    show (aim.kind.letPass scene.event).outcome aim.kind.id = .allowed
    rw [GuardKind.outcome_letPass, if_pos rfl]
  | denied rejected turnedDown =>
    -- the outcome is final before the error stage starts
    refine ⟨fun accepted => absurd accepted rejected, fun _ => ?_⟩
    exact keeps_discard (keeps_errorTriggered _ depth bus _) _ turnedDown.outcome

/-- **A guard ends in allowed only if its oracle told it to**: of an event that it had not decided,
one of the candidates was found. Nothing is said about the oracle, which may fail. -/
theorem exists_candidate_of_allowed {scene : Scene} {ref : GuardRef} {oracle : Oracle}
    {found : Word → Prop} {aim : Aim}
    (stands : (scene.site.guards.get ref).guard.kind = aim.kind)
    (consults : (scene.site.guards.get ref).authority.map scene.site.oracle = some oracle)
    (asks : ∀ resource, Ensures (oracle.isAllowed (.ofWord resource) .null)
      fun allowed => allowed = true → found resource)
    (aims : scene.event.AimsAt aim) (unchecked : scene.event.outcome aim.kind.id = .unchecked)
    {depth : Nat} (allowed : (settle (guard (trigger depth) ref) scene).2.event.outcome
      aim.kind.id = .allowed) : ∃ resource ∈ aim.candidates, found resource := by
  rcases asked : (aim.kind.check (some oracle) scene.event).outcome with ⟨result, calls⟩
  have tells := GuardKind.ensures_tells asks aims []
  rw [← stands, ← consults] at asked tells
  rw [settle_guard rfl, asked] at allowed
  -- consultations alone do not let an event pass
  have undecided : (scene.noting calls).event.outcome aim.kind.id ≠ .allowed := by
    show scene.event.outcome aim.kind.id ≠ .allowed
    rw [unchecked]
    decide
  cases result with
  | error failure => exact absurd allowed undecided
  | ok verdict =>
    have told := tells verdict calls asked
    cases verdict with
    | skip => exact absurd allowed undecided
    | allowed after => exact told
    | denied after bus =>
      have stays : (settle (discard (trigger depth bus (some Stage.dispatchError.name)))
          { scene.noting calls with event := after }).2.event.outcome aim.kind.id =
          .errorTriggered :=
        keeps_discard (keeps_errorTriggered aim.kind.id depth bus _) _ told
      exact absurd (stays.symm.trans allowed) (by decide)
    | unrecorded after failure => exact absurd (told.symm.trans allowed) (by decide)

end Run

end GuardedDispatch
