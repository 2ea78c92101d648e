import GuardedDispatch.Proofs.Dispatch.Running
import GuardedDispatch.Proofs.Guard.Judging
import Mathlib.Data.List.Infix

/-! # What guards ask and change

A guard asks its oracle for one candidate after the other, up to the first that is allowed or that
fails (`Oracle.Asked`, `Oracle.exists_asked`). The oracle is any (`Run.guardBy`): it may fail at
each question, and may answer as it likes.

An event is exempt from a guard if the guard has nothing to check about it (`Event.Exempt`). All
other events offer candidates (`Event.Offers`), and the guard concludes from the answers
(`Run.Concludes`): it lets the event pass, fails and leaves the event as it was, or denies it and
triggers the error stage (`Run.settle_guardBy_spec`). Between the last two there is one more end: a
denial that cannot be put on record stops halfway. -/

namespace GuardedDispatch

/-! ## Questions -/

/-- The resource that is asked about, if the call is a question. -/
def Call.question? : Call → Option Value
  | .question resource => some resource
  | _ => none

/-- The **questions** among calls, in order. -/
def questionsIn (calls : List Call) : List Value := calls.filterMap Call.question?

namespace Oracle

/-- An oracle was **asked** for resources in order, and gave an answer: the last one was allowed or
failed, and those before it were refused; or all of them were refused. -/
inductive Asked (oracle : Oracle) : List Call → List Word → Except Failure Bool → List Call → Prop
  /-- Nothing was asked for. -/
  | nothing (calls : List Call) : Asked oracle calls [] (.ok false) calls
  /-- A resource was allowed, and no other was asked for. -/
  | allowed {calls after : List Call} {resource : Word}
    (allows : settle (oracle.isAllowed (.ofWord resource) .null) calls = (.ok true, after)) :
    Asked oracle calls [resource] (.ok true) after
  /-- Asking for a resource failed, and no other was asked for. -/
  | failed {calls after : List Call} {resource : Word} {failure : Failure}
    (fails : settle (oracle.isAllowed (.ofWord resource) .null) calls = (.error failure, after)) :
    Asked oracle calls [resource] (.error failure) after
  /-- A resource was refused, and others were asked for. -/
  | refused {calls middle after : List Call} {resource : Word} {others : List Word}
    {answer : Except Failure Bool}
    (refuses : settle (oracle.isAllowed (.ofWord resource) .null) calls = (.ok false, middle))
    (onwards : Asked oracle middle others answer after) :
    Asked oracle calls (resource :: others) answer after

/-- An oracle that **records** what it is asked about, and nothing else that looks like a
question. -/
def Records (oracle : Oracle) : Prop :=
  ∀ resource privilege calls,
    questionsIn (settle (oracle.isAllowed resource privilege) calls).2 =
      questionsIn calls ++ [resource]

variable {oracle : Oracle}

/-- What was asked for stands in the record, in order. -/
theorem Asked.questionsIn (records : oracle.Records) {calls after : List Call} {asked : List Word}
    {answer : Except Failure Bool} (done : oracle.Asked calls asked answer after) :
    questionsIn after = GuardedDispatch.questionsIn calls ++ asked.map Value.ofWord := by
  induction done with
  | nothing calls => simp
  | @allowed calls after resource allows =>
    have recorded := records (.ofWord resource) .null calls
    rwa [allows] at recorded
  | @failed calls after resource failure fails =>
    have recorded := records (.ofWord resource) .null calls
    rwa [fails] at recorded
  | @refused calls middle after resource others answer refuses onwards ih =>
    have recorded := records (.ofWord resource) .null calls
    rw [refuses] at recorded
    rw [ih, recorded, List.append_assoc]
    rfl

/-- **Asking for candidates** asks for a prefix of them: for all only if all are refused. -/
theorem exists_asked (oracle : Oracle) : ∀ (names : List Word) (calls : List Call),
    ∃ asked answer after, asked <+: names ∧ (answer = .ok false → asked = names) ∧
      oracle.Asked calls asked answer after ∧
      settle (GuardKind.anyAllowed oracle names) calls = (answer, after)
  | [], calls => ⟨[], .ok false, calls, List.nil_prefix, fun _ => rfl, .nothing calls, rfl⟩
  | name :: rest, calls => by
    have asks : settle (GuardKind.anyAllowed oracle (name :: rest)) calls =
        match settle (oracle.isAllowed (.ofWord name) .null) calls with
        | (.ok true, after) => (.ok true, after)
        | (.ok false, after) => settle (GuardKind.anyAllowed oracle rest) after
        | (.error failure, after) => (.error failure, after) := by
      rw [GuardKind.anyAllowed, List.anyM_cons, settle_bind]
      rcases settle (oracle.isAllowed (.ofWord name) .null) calls with ⟨_ | _ | _, after⟩ <;> rfl
    have one : [name] <+: name :: rest := ⟨rest, rfl⟩
    rcases answered : settle (oracle.isAllowed (.ofWord name) .null) calls with
      ⟨failure | _ | _, middle⟩
    · rw [answered] at asks
      exact ⟨[name], .error failure, middle, one, by simp, .failed answered, asks⟩
    · -- the first was refused, and the others are asked for
      rw [answered] at asks
      obtain ⟨asked, answer, after, isPrefix, all, done, settled⟩ := exists_asked oracle rest middle
      exact ⟨name :: asked, answer, after, List.cons_prefix_cons.2 ⟨rfl, isPrefix⟩,
        fun none => congrArg _ (all none), .refused answered done, asks.trans settled⟩
    · rw [answered] at asks
      exact ⟨[name], .ok true, middle, one, by simp, .allowed answered, asks⟩

end Oracle

/-- **A double records** every question, also one that it fails at. -/
theorem Double.records (double : Double) : double.oracle.Records := by
  intro resource privilege calls
  have noted : questionsIn (calls ++ [Call.question resource]) = questionsIn calls ++ [resource] :=
    List.filterMap_append
  rw [← noted, oracle]
  cases double.raises <;> rfl

/-! ## Events -/

namespace Event

/-- What makes an event **exempt** from guards of a kind. -/
inductive Exempt (event : Event) (kind : GuardKind) : Prop where
  /-- The request is no HTTP request. -/
  | foreign (other : ∀ request, event.request ≠ some (.http request))
  /-- No route was matched. -/
  | unrouted (unmatched : event.routeMatch = none)
  /-- There is an error. -/
  | failed (error : event.isError = true)
  /-- A guard of the kind has decided. -/
  | decided (outcome : event.outcome kind.id ≠ .unchecked)
  /-- There is no controller, or the route has no name. -/
  | unconcerned (other : ¬ event.Concerns kind)

/-- The candidates that an event **offers** to guards of a kind, where the action and the method are
texts or absent, and the controller or the name of the route can be printed: the controller, alone
and with the action and the method unless they are empty; or the name of the route. -/
inductive Offers (event : Event) : GuardKind → List Word → Prop where
  | controller {request : HttpRequest} {routeMatch : RouteMatch} {controller : Value}
    {name : Word} {action method : Option Word} (http : event.request = some (.http request))
    (isMethod : request.method = .ofWord? method) (routed : event.routeMatch = some routeMatch)
    (isController : (lookupField "controller" routeMatch.params).getD .null = controller)
    (printed : controller.printWord = .ok name)
    (isAction : (lookupField "action" routeMatch.params).getD .null = .ofWord? action) :
    Offers event .controller ((none :: Aim.segmentOf action ++ Aim.segmentOf method).map
      (controllerResource name))
  | route {routeMatch : RouteMatch} {name : Word} (routed : event.routeMatch = some routeMatch)
    (printed : routeMatch.name.printWord = .ok name) : Offers event .route [routeResource name]

end Event

namespace GuardKind

variable {kind : GuardKind} {event : Event}

/-- A guard **applies** to routed HTTP requests without an error that no guard of its kind has
decided. -/
theorem applies_iff : kind.applies event = true ↔
    (∃ request, event.request = some (.http request)) ∧ event.routeMatch.isSome = true ∧
      event.isError = false ∧ event.outcome kind.id = .unchecked := by
  rw [applies, Bool.and_eq_true, Bool.and_eq_true, Bool.and_eq_true, beq_iff_eq, and_assoc,
    and_assoc, Bool.not_eq_true']
  refine and_congr ?_ Iff.rfl
  cases event.request with
  | none => simp
  | some request => cases request <;> simp

/-- **Exempt events** are those that guards do not apply to, or that offer them no target. -/
theorem exempt_iff : event.Exempt kind ↔
    ¬ (kind.applies event = true ∧ (kind.target? event).isSome = true) := by
  rw [applies_iff, isSome_target?_iff]
  constructor
  · rintro (other | unmatched | error | outcome | other)
      ⟨⟨⟨request, http⟩, routed, sound, unchecked⟩, concerns⟩
    · exact other request http
    · rw [unmatched] at routed
      cases routed
    · rw [error] at sound
      cases sound
    · exact outcome unchecked
    · exact other concerns
  · intro exempt
    by_contra checked
    refine exempt ⟨⟨?_, ?_, ?_, ?_⟩, ?_⟩
    · by_contra other
      exact checked (.foreign (not_exists.1 other))
    · rw [Option.isSome_iff_ne_none]
      exact fun unmatched => checked (.unrouted unmatched)
    · rw [← Bool.not_eq_true]
      exact fun error => checked (.failed error)
    · by_contra outcome
      exact checked (.decided outcome)
    · by_contra other
      exact checked (.unconcerned other)

/-- Exempt events are skipped, and nothing is asked. -/
theorem check_of_exempt (exempt : event.Exempt kind) (oracle : Option Oracle) :
    kind.check oracle event = pure .skip := by
  rcases not_and_or.1 (exempt_iff.1 exempt) with other | missing
  · exact check_of_not_applies (by simpa using other) oracle
  · exact check_of_target_none (by simpa using missing) oracle

/-- What an event offers are the candidates of its target, and the subject has a name too. -/
theorem exists_subject_of_offers {names : List Word} {target : Target}
    (offers : event.Offers kind names) (found : kind.target? event = some target) :
    target.candidates = .ok names ∧ ∃ subject, target.subject = .ok subject := by
  obtain ⟨routeMatch, matched, found⟩ := Option.bind_eq_some_iff.1 found
  cases offers with
  | @controller request routeMatch' controller name action method http isMethod routed
      isController printed isAction =>
    cases routed.symm.trans matched
    have isMethod' : methodOf event = .ofWord? method := by
      rw [methodOf, http]
      exact isMethod
    dsimp only at found
    rw [isMethod'] at found
    subst isController
    exact exists_subject_of_controllerTarget printed isAction found
  | @route routeMatch' name routed printed =>
    cases routed.symm.trans matched
    dsimp only [routeTarget] at found
    split at found
    · cases found
    · cases found
      dsimp only
      rw [printed]
      exact ⟨rfl, name, rfl⟩

/-- **A check** of named candidates asks for them, and only if all were refused for the identity. -/
theorem outcome_check_of_target {oracle : Oracle} {target : Target} {names : List Word}
    (applies : kind.applies event = true) (found : kind.target? event = some target)
    (candidates : target.candidates = .ok names) :
    (kind.check (some oracle) event).outcome = match settle (anyAllowed oracle names) [] with
      | (.error failure, calls) => (.error failure, calls)
      | (.ok true, calls) => (.ok (.allowed (kind.letPass event)), calls)
      | (.ok false, calls) => settle (do
          let identity ← oracle.identity
          let subject ← liftM target.subject
          liftM (kind.deny event (target.details identity) subject)) calls := by
  have moved : event.transition kind.id .allowed = .ok (kind.letPass event) := by
    rw [Event.transition, unchecked_of_applies applies]
    rfl
  rw [check_of_target applies found, candidates, moved, Asking.outcome_eq_settle,
    settle_bind_of_ok (settle_liftM (.ok names) _), settle_bind]
  rcases settle (anyAllowed oracle names) [] with ⟨failure | _ | _, calls⟩ <;> rfl

end GuardKind

/-! ## Guards with any oracle -/

namespace Run

/-- How a guard **concludes** from the answer to its questions, and from the identity if all were
refused. -/
inductive Concludes (again : Trigger) (kind : GuardKind) (oracle : Oracle) (scene : Scene) :
    Except Failure Bool → List Call → Except Failure Unit × Scene → Prop where
  /-- It lets the event pass. -/
  | allowed (calls : List Call) : Concludes again kind oracle scene (.ok true) calls
      (.ok (), { scene.noting calls with event := kind.letPass scene.event })
  /-- A question failed. -/
  | failed (failure : Failure) (calls : List Call) :
    Concludes again kind oracle scene (.error failure) calls (.error failure, scene.noting calls)
  /-- The identity could not be learned. -/
  | unidentified {failure : Failure} {calls after : List Call}
    (fails : settle oracle.identity calls = (.error failure, after)) :
    Concludes again kind oracle scene (.ok false) calls (.error failure, scene.noting after)
  /-- What is denied has no name. -/
  | unnamed {target : GuardKind.Target} {identity : Value} {failure : Failure}
    {calls after : List Call} (identifies : settle oracle.identity calls = (.ok identity, after))
    (found : kind.target? scene.event = some target) (fails : target.subject = .error failure) :
    Concludes again kind oracle scene (.ok false) calls (.error failure, scene.noting after)
  /-- The event is bound to no bus. -/
  | unbound {identity : Value} {calls after : List Call}
    (identifies : settle oracle.identity calls = (.ok identity, after))
    (missing : scene.event.bus = none) : Concludes again kind oracle scene (.ok false) calls
      (.error (.configuration (.noBus scene.event.id)), scene.noting after)
  /-- It denies the event halfway: the denial cannot be put on record. -/
  | unrecorded {identity : Value} {calls after : List Call} {event : Event} {bus : BusRef}
    (identifies : settle oracle.identity calls = (.ok identity, after))
    (long : identity.holdsLong = true) (bound : scene.event.bus = some bus)
    (denies : Event.Brought kind .denied scene.event event) :
    Concludes again kind oracle scene (.ok false) calls
      (.error (.value (.tooManyDigits none)), { scene.noting after with event })
  /-- It denies the event, and triggers the error stage. -/
  | denied {identity : Value} {calls after : List Call} {event : Event} {bus : BusRef}
    (identifies : settle oracle.identity calls = (.ok identity, after))
    (short : identity.holdsLong = false) (bound : scene.event.bus = some bus)
    (denies : Event.Denied kind scene.event event) :
    Concludes again kind oracle scene (.ok false) calls
      (settle (discard (again bus (some Stage.dispatchError.name)))
        { scene.noting after with event })

variable {again : Trigger} {kind : GuardKind} {oracle : Oracle} {scene : Scene}

/-- **A guard concludes** once its questions are answered. -/
theorem concludes_of_asked (checked : ¬ scene.event.Exempt kind) {target : GuardKind.Target}
    {names : List Word} (found : kind.target? scene.event = some target)
    (candidates : target.candidates = .ok names) {answer : Except Failure Bool} {calls : List Call}
    (asked : settle (GuardKind.anyAllowed oracle names) [] = (answer, calls)) :
    Concludes again kind oracle scene answer calls
      (settle (guardBy again kind (some oracle)) scene) := by
  have applies : kind.applies scene.event = true :=
    (not_not.1 (mt GuardKind.exempt_iff.2 checked)).1
  have unchecked := GuardKind.unchecked_of_applies applies
  rw [settle_guardBy, GuardKind.outcome_check_of_target applies found candidates, asked]
  rcases answer with failure | _ | _
  · exact .failed failure calls
  · dsimp only
    rcases identifies : settle oracle.identity calls with ⟨failure | identity, after⟩
    · rw [settle_bind_of_error identifies]
      exact .unidentified identifies
    · rw [settle_bind_of_ok identifies]
      cases named : target.subject with
      | error failure => exact .unnamed identifies found named
      | ok subject =>
        rw [settle_bind_of_ok (settle_liftM (.ok subject) _), settle_liftM]
        cases bound : scene.event.bus with
        | none =>
          rw [GuardKind.deny, bound]
          exact .unbound identifies bound
        | some bus =>
          have others := GuardKind.details_ne_error found identity
          cases size : identity.holdsLong with
          | false =>
            obtain ⟨record, recorded⟩ :=
              GuardKind.exists_recordOf_of_short found size subject scene.event.id
            obtain ⟨event, denies, denied, -⟩ :=
              GuardKind.exists_deny unchecked bound others recorded
            rw [denies]
            exact .denied identifies size bound denied
          | true =>
            obtain ⟨event, denies, halfway⟩ := GuardKind.exists_deny_of_unrecorded unchecked bound
              others (GuardKind.recordOf_of_long found size subject scene.event.id)
            rw [denies]
            exact .unrecorded identifies size bound halfway
  · exact .allowed calls

/-- A guard that concludes **fails and changes nothing**, or lets the event pass and changes nothing
else, or denies it and triggers the error stage, or stops halfway with a long identity. -/
theorem Concludes.effect {answer : Except Failure Bool} {calls : List Call}
    {ended : Except Failure Unit × Scene}
    (concludes : Concludes again kind oracle scene answer calls ended) :
    (∃ failure calls, ended = (.error failure, scene.noting calls)) ∨
      (∃ calls, ended = (.ok (), { scene.noting calls with event := kind.letPass scene.event })) ∨
      (∃ calls event bus, Event.Denied kind scene.event event ∧ scene.event.bus = some bus ∧
        ended = settle (discard (again bus (some Stage.dispatchError.name)))
          { scene.noting calls with event }) ∨
      ∃ questions identity calls event bus,
        settle oracle.identity questions = (.ok identity, calls) ∧ identity.holdsLong = true ∧
        Event.Brought kind .denied scene.event event ∧ scene.event.bus = some bus ∧
        ended = (.error (.value (.tooManyDigits none)), { scene.noting calls with event }) := by
  cases concludes with
  | allowed => exact .inr (.inl ⟨_, rfl⟩)
  | failed => exact .inl ⟨_, _, rfl⟩
  | unidentified => exact .inl ⟨_, _, rfl⟩
  | unnamed => exact .inl ⟨_, _, rfl⟩
  | unbound => exact .inl ⟨_, _, rfl⟩
  | denied _ _ bound denies => exact .inr (.inr (.inl ⟨_, _, _, denies, bound, rfl⟩))
  | unrecorded identifies long bound denies =>
    exact .inr (.inr (.inr ⟨_, _, _, _, _, identifies, long, denies, bound, rfl⟩))

/-- **What guards ask and change**, whatever their oracle is, and also where it fails. This is what
comes of the guards of a site, with the oracle that their authority is.

An exempt event is left alone, and nothing is asked. For all others a guard needs an oracle. It asks
for a prefix of what the event offers, up to the first that is allowed or fails, and for all of it
if there is none; and it concludes from the answers. To let an event pass changes the outcome of the
guard alone. To fail changes nothing, unless the event was denied before and the error stage was
triggered, or the denial stopped halfway because the identity that the oracle gave cannot be put on
record. -/
theorem settle_guardBy_spec (again : Trigger) (kind : GuardKind) (oracle : Option Oracle)
    (scene : Scene) :
    let ended := settle (guardBy again kind oracle) scene
    (∀ ref, (scene.site.guards.get ref).guard.kind = kind →
      (scene.site.guards.get ref).authority.map scene.site.oracle = oracle →
      settle (guard again ref) scene = ended) ∧
    (scene.event.Exempt kind → ended = (.ok (), scene)) ∧
    (¬ scene.event.Exempt kind →
      (oracle = none → ended = (.error (.configuration (.noService kind)), scene)) ∧
      (∀ consulted names, oracle = some consulted → scene.event.Offers kind names →
        ∃ asked answer calls, asked <+: names ∧ (answer = .ok false → asked = names) ∧
          consulted.Asked [] asked answer calls ∧
          (consulted.Records → questionsIn calls = asked.map Value.ofWord) ∧
          Concludes again kind consulted scene answer calls ended) ∧
      ((∃ failure calls, ended = (.error failure, scene.noting calls)) ∨
        (∃ calls, ended =
          (.ok (), { scene.noting calls with event := kind.letPass scene.event })) ∨
        (∃ calls event bus, Event.Denied kind scene.event event ∧ scene.event.bus = some bus ∧
          ended = settle (discard (again bus (some Stage.dispatchError.name)))
            { scene.noting calls with event }) ∨
        ∃ consulted questions identity calls event bus, oracle = some consulted ∧
          settle consulted.identity questions = (.ok identity, calls) ∧ identity.holdsLong = true ∧
          Event.Brought kind .denied scene.event event ∧ scene.event.bus = some bus ∧
          ended = (.error (.value (.tooManyDigits none)), { scene.noting calls with event }))) := by
  intro ended
  refine ⟨?_, fun exempt => ?_, fun checked => ?_⟩
  · rintro ref rfl rfl
    exact settle_guard_eq_guardBy again ref scene
  · show settle (guardBy again kind oracle) scene = _
    rw [settle_guardBy, GuardKind.check_of_exempt exempt]
    exact congrArg (Prod.mk _) scene.noting_nil
  obtain ⟨applies, aims⟩ := not_not.1 (mt GuardKind.exempt_iff.2 checked)
  obtain ⟨target, found⟩ := Option.isSome_iff_exists.1 aims
  cases oracle with
  | none =>
    have unserved : ended = (.error (.configuration (.noService kind)), scene) := by
      show settle (guardBy again kind none) scene = _
      rw [settle_guardBy, GuardKind.check, if_pos applies, found]
      exact congrArg (Prod.mk _) scene.noting_nil
    refine ⟨fun _ => unserved, fun _ _ missing => (by cases missing),
      .inl ⟨.configuration (.noService kind), [], ?_⟩⟩
    rw [unserved, Scene.noting_nil]
  | some consulted =>
    refine ⟨fun missing => (by cases missing), ?_, ?_⟩
    · rintro _ names ⟨⟩ offers
      obtain ⟨candidates, -⟩ := GuardKind.exists_subject_of_offers offers found
      obtain ⟨asked, answer, calls, isPrefix, all, done, settled⟩ :=
        consulted.exists_asked names []
      exact ⟨asked, answer, calls, isPrefix, all, done, done.questionsIn,
        concludes_of_asked checked found candidates settled⟩
    · cases candidates : target.candidates with
      | error failure =>
        -- the names are formed before the first question
        refine .inl ⟨failure, [], ?_⟩
        show settle (guardBy again kind _) scene = _
        rw [settle_guardBy, GuardKind.check_of_target applies found, candidates]
        rfl
      | ok names =>
        refine (concludes_of_asked checked found candidates rfl).effect.imp_right fun effect => ?_
        refine effect.imp_right fun effect => effect.imp_right ?_
        rintro ⟨questions, identity, calls, event, bus, halfway⟩
        exact ⟨consulted, questions, identity, calls, event, bus, rfl, halfway⟩

/-- A guard whose oracle allows the second candidate asks for two of three, and lets the event
pass. -/
theorem settle_guardBy_spec_show :
    let scene : Scene :=
      { event :=
          { request := some (.http { method := .str "GET" })
            routeMatch := some
              { params := [("controller", .str "pages"), ("action", .str "Show")] } } }
    let double : Double := { allowed := [.str "controller/pages:show"] }
    ∃ (asked : List Word) (calls : List Call),
      asked <+: ["controller/pages", "controller/pages:show", "controller/pages:get"] ∧
      questionsIn calls = asked.map Value.ofWord ∧
      settle (guardBy (trigger 1) .controller (some double.oracle)) scene = (.ok (),
        { scene.noting calls with event := GuardKind.controller.letPass scene.event }) := by
  intro scene double
  have checked : ¬ scene.event.Exempt .controller := by
    rw [GuardKind.exempt_iff, not_not]
    exact ⟨by decide, by decide⟩
  have offers : scene.event.Offers .controller
      ((none :: Aim.segmentOf (some "Show") ++ Aim.segmentOf (some "GET")).map
        (controllerResource "pages")) :=
    .controller rfl rfl rfl rfl (Value.printWord_ofWord (.text "pages")) rfl
  have names : (none :: Aim.segmentOf (some "Show") ++ Aim.segmentOf (some "GET")).map
      (controllerResource "pages") =
        ["controller/pages", "controller/pages:show", "controller/pages:get"] := by decide
  rw [names] at offers
  obtain ⟨asked, answer, calls, isPrefix, -, -, recorded, concludes⟩ :=
    ((settle_guardBy_spec (trigger 1) .controller (some double.oracle) scene).2.2 checked).2.1
      double.oracle _ rfl offers
  have passes :
      (settle (guardBy (trigger 1) .controller (some double.oracle)) scene).1 = .ok () := by rfl
  generalize settle (guardBy _ _ _) scene = ended at concludes passes ⊢
  cases concludes with
  | allowed calls => exact ⟨asked, calls, isPrefix, recorded double.records, rfl⟩
  | failed => cases passes
  | unidentified => cases passes
  | unnamed => cases passes
  | unbound => cases passes
  | denied _ _ bound => cases bound
  | unrecorded => cases passes

/-- **Not every event that is judged is asked about**, and not every failure leaves it as it was.
With a method that is a number the candidates have no names, so nothing is asked, not even for the
controller that is allowed. And to an identity of too many digits the event is denied halfway. -/
theorem fails_by_number_method_and_long_identity :
    let routeMatch : RouteMatch := { params := [("controller", .str "users")] }
    let numbered : Scene :=
      { event := { request := some (.http { method := .int 5 }), routeMatch := some routeMatch } }
    let users := Double.oracle { allowed := [.str "controller/users"] }
    let bound : Scene :=
      { event := { request := some (.http {}), routeMatch := some routeMatch, bus := some 0 } }
    let nobody := Double.oracle { identity := .int (Decimal.tenTo Decimal.digitLimit) }
    (¬ numbered.event.Exempt .controller ∧
      (users.isAllowed (.str "controller/users") .null).outcome.1 = .ok true ∧
      settle (guardBy (trigger 1) .controller (some users)) numbered =
        (.error .attribute, numbered)) ∧
    ∃ calls event, settle (guardBy (trigger 1) .controller (some nobody)) bound =
        (.error (.value (.tooManyDigits none)), { bound.noting calls with event }) ∧
      event.outcome GuardKind.controller.id = .denied ∧
      event.error = .str GuardKind.controller.errorKind := by
  intro routeMatch numbered users bound nobody
  have checked (scene : Scene) (applies : GuardKind.controller.applies scene.event = true ∧
      (GuardKind.controller.target? scene.event).isSome = true) :
      ¬ scene.event.Exempt .controller := fun exempt => GuardKind.exempt_iff.1 exempt applies
  refine ⟨⟨checked numbered ⟨by decide, by decide⟩, by decide, ?_⟩, ?_⟩
  · rw [settle_guardBy]
    exact congrArg (Prod.mk _) numbered.noting_nil
  · have candidates : GuardKind.controllerCandidates "users" .null (.str "GET") =
        .ok ["controller/users", "controller/users:get"] := by decide
    have concludes : Concludes (trigger 1) .controller nobody bound (.ok false)
        [.question (.str "controller/users"), .question (.str "controller/users:get")] _ :=
      concludes_of_asked (checked bound ⟨by decide, by decide⟩) rfl candidates rfl
    have long : (Value.int (Decimal.tenTo Decimal.digitLimit)).holdsLong = true := by decide +kernel
    generalize settle (guardBy _ _ _) bound = ended at concludes ⊢
    cases concludes with
    | unidentified fails => cases fails
    | unnamed _ found fails =>
      cases found
      cases fails
    | unbound _ missing => cases missing
    | unrecorded _ _ _ denies => exact ⟨_, _, rfl, denies.outcome, denies.error⟩
    | denied identifies short =>
      cases identifies
      cases short.symm.trans long

end Run

end GuardedDispatch
