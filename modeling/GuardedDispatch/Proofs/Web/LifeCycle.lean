import GuardedDispatch.Proofs.Dispatch.Onlooking
import GuardedDispatch.Proofs.Web.Installing
import GuardedDispatch.Proofs.Web.Manners

/-! # The life cycle of a request

The stages that a watched request goes through when guards, and perhaps a strategy, are installed in
front of an application and onlookers listen beside them. If the request is answered, its
**passage** is one of four (`Passage`): no endpoint matched, the guards let it pass, a guard denied
it, or its endpoint said that the identity may not access something.

* **`Watch.handle_passes`** is that, and that the current identity is the one from before however
  the request ended.
* `Watch.restore_of_steady` is the reason for the latter: all that listens spares the token of the
  request, which restores the identity that it was given out for. -/

namespace GuardedDispatch

open Web

namespace Web

/-! ## What is installed -/

/-- Attaching guards adds listeners to the route stage alone. -/
theorem mem_attachGuards (bus : BusRef) {subscription : Subscription Handler} :
    ∀ (guards : List GuardRef) (site : Site),
      subscription ∈ ((guards.foldl (fun site ref => site.attachGuard ref bus
        (.int Site.guardPriority)) site).buses.get bus).subscriptions →
      subscription ∈ (site.buses.get bus).subscriptions ∨
        subscription.stage = Stage.route.name ∧ ∃ ref, subscription.listener = .guard ref
  | [], _, mem => .inl mem
  | ref :: rest, site, mem => by
    rcases mem_attachGuards bus rest _ mem with earlier | new
    · rw [Site.bus_attachGuard, Bus.attach_subscriptions, List.mem_append, List.mem_singleton]
        at earlier
      rcases earlier with earlier | rfl
      · exact .inl earlier
      · exact .inr ⟨rfl, ref, rfl⟩
    · exact .inr new

/-- What listens on the bus to install on listens on the one that was given. -/
theorem exists_of_mem_busIn {site : Site} {installing : Installing}
    {subscription : Subscription Handler} (mem : subscription ∈
      ((installing.busIn site).2.buses.get (installing.busIn site).1).subscriptions) :
    ∃ bus, installing.bus = some bus ∧ subscription ∈ (site.buses.get bus).subscriptions := by
  unfold Installing.busIn at mem
  cases given : installing.bus with
  | some bus =>
    rw [given] at mem
    exact ⟨bus, rfl, mem⟩
  | none =>
    rw [given] at mem
    change subscription ∈ ((site.buses.add {}).2.get (site.buses.add {}).1).subscriptions at mem
    rw [Arena.get_add_self] at mem
    cases mem

/-- **What is installed fits**, if what listened on the bus before looks on. -/
theorem fits_of_install {site ready : Site} {app : App} {installation : Installation}
    {installing : Installing} {identify : Option (HttpRequest → Option Identity)}
    {renderer : Renderer} {guarded : Guarded}
    (installed : install site app installation installing identify renderer = .ok (guarded, ready))
    {cast : Script → Conduct} {token : Nat} (earlier : ∀ bus, installing.bus = some bus →
      ∀ subscription ∈ (site.buses.get bus).subscriptions,
        Watch.Onlooks cast guarded.bus token subscription.listener) :
    ∀ subscription ∈ (ready.buses.get guarded.bus).subscriptions,
      Watch.Fits cast guarded.bus token subscription := by
  obtain ⟨bound, buses, -, isGuarded, rfl, -⟩ := exists_bindAll_of_install installed
  have isBus : (installing.busIn site).1 = guarded.bus := by rw [isGuarded]
  rw [isBus]
  -- on the bus there is what listened before, and what was attached
  have before : ∀ subscription ∈ (bound.buses.get guarded.bus).subscriptions,
      Watch.Fits cast guarded.bus token subscription := by
    rw [buses, (providerIn_same installing _).1, ← isBus]
    intro subscription mem
    obtain ⟨bus, given, mem⟩ := exists_of_mem_busIn mem
    rw [isBus]
    exact .onlooker (earlier bus given subscription mem)
  have guards : ∀ subscription ∈ ((Session.attachGuardsTo (Session.bindAll bound installation
        guarded.authority) installation guarded.bus).buses.get guarded.bus).subscriptions,
      Watch.Fits cast guarded.bus token subscription := by
    intro subscription mem
    rcases mem_attachGuards guarded.bus installation.guards _ mem with old | ⟨onRoute, ref, isGuard⟩
    · unfold Session.bindAll at old
      rw [foldl_bindGuard] at old
      exact before subscription old
    · exact .guard onRoute isGuard
  unfold Session.attachAllTo
  cases installation.strategy with
  | none => exact guards
  | some ref =>
    intro subscription mem
    dsimp only at mem
    rw [Site.bus_attachStrategy, Bus.attach_subscriptions, List.mem_append, List.mem_singleton]
      at mem
    rcases mem with mem | rfl
    · exact guards subscription mem
    · exact .strategy rfl rfl

/-! ## Passages -/

/-- The **passages** of a request that was answered: how far its event came, and in the first two
cases, that the answer is the application's. -/
inductive Passage (guarded : Guarded) (request : Incoming) (reply : Reply) : Progress → Prop where
  /-- No endpoint matched. -/
  | unmatched (missing : guarded.app.matchRoute request.method request.path = .ok none)
    (served : (guarded.app.serve request).answer = .reply reply) :
    Passage guarded request reply
      { stages := [.dispatchError, .finish], error := .str ErrorMark.noMatch.name }
  /-- The guards let the request pass. -/
  | passed {routeMatch : RouteMatch}
    (matched : guarded.app.matchRoute request.method request.path = .ok (some routeMatch))
    (served : (guarded.app.serve request).answer = .reply reply) :
    Passage guarded request reply { stages := [.route, .dispatch, .finish] }
  /-- A guard denied the request. -/
  | denied {routeMatch : RouteMatch}
    (matched : guarded.app.matchRoute request.method request.path = .ok (some routeMatch))
    (kind : GuardKind) :
    Passage guarded request reply
      { stages := [.route, .dispatchError, .finish]
        announced := [kind.id]
        error := .str kind.errorKind }
  /-- The endpoint said that the identity may not access something. -/
  | unauthorized {routeMatch : RouteMatch} {error : Raised}
    (matched : guarded.app.matchRoute request.method request.path = .ok (some routeMatch))
    (raised : (guarded.app.serve request).answer = .raised (.raised error))
    (isKind : error.kind = .unauthorized) :
    Passage guarded request reply
      { stages := [.route, .dispatch, .dispatchError, .finish]
        error := .str ErrorMark.exception.name }

/-- A request that has come **to an end** with a reply. -/
def Ended (guarded : Guarded) (request : Incoming) (reply : Reply) (watched : Watched) : Prop :=
  ∃ progress, Passage guarded request reply progress ∧ watched.At guarded.bus progress

/-- Whether it has does not depend on the site. -/
theorem Ended.at_site {guarded : Guarded} {request : Incoming} {reply : Reply} {watched : Watched}
    (ended : Ended guarded request reply watched) (site : Site) :
    Ended guarded request reply { watched with scene := { watched.scene with site } } := by
  obtain ⟨progress, passage, isAt⟩ := ended
  exact ⟨progress, passage, isAt.quiet [] ⟨rfl, rfl⟩ (List.append_nil _).symm rfl rfl rfl⟩

end Web

namespace Watch

variable {cast : Script → Conduct} {token : Nat} {origin : Site} {progress : Progress}
  {guarded : Web.Guarded} {request : Incoming}

/-! ## Steps that trigger nothing -/

/-- **A plain step that changes nothing but the trace** leaves the event where it is, and the steps
behind go on from there with what it may result in. -/
theorem leads_looking {α β : Type} {bus : BusRef} {run : Run α} {next : α → Watch β}
    {Q : β → Watched → Prop}
    (looks : ∀ scene, (settle run scene).2.event = scene.event ∧
      (settle run scene).2.site = scene.site)
    (goesOn : ∀ value scene after, settle run scene = (.ok value, after) →
      Leads (Watched.Holds bus token origin progress) (next value) Q
        fun watched => origin.Steady bus token watched.scene.site) :
    Leads (Watched.Holds bus token origin progress) (plain run >>= next) Q
      fun watched => origin.Steady bus token watched.scene.site := by
  intro watched holds
  obtain ⟨event, site⟩ := looks watched.scene
  have kept : Watched.Holds bus token origin progress
      { watched with scene := (settle run watched.scene).2 } := by
    refine ⟨holds.toAt.quiet [] ⟨rfl, rfl⟩ (List.append_nil _).symm ?_ ?_ ?_, ?_⟩
    · exact congrArg Event.error event
    · exact congrArg Event.bus event
    · exact congrArg Event.name event
    · dsimp only
      rw [site]
      exact holds.steady
  have goesOn := fun value => goesOn value watched.scene
  rw [settle_bind, settle_plain]
  generalize settle run watched.scene = settled at kept goesOn ⊢
  obtain ⟨_ | value, after⟩ := settled
  · exact kept.steady
  · exact goesOn value after rfl _ kept

/-- A change of the event's parameters sets its error. -/
theorem leads_changeEvent {bus : BusRef} {change : Event → Event} (error : Value)
    (params : ∀ event, ∃ params, change event = { event with params })
    (sets : ∀ event, event.error = progress.error → (change event).error = error) :
    Leads (Watched.Holds bus token origin progress) (plain (Run.changeEvent change))
      (fun _ => Watched.Holds bus token origin { progress with error })
      fun watched => origin.Steady bus token watched.scene.site := by
  intro watched holds
  obtain ⟨params, changed⟩ := params watched.scene.event
  refine ⟨⟨holds.stages, holds.announced, sets _ holds.error, ?_, ?_⟩, holds.steady⟩
  · show (change watched.scene.event).bus = _
    rw [changed]
    exact holds.bound
  · show ∀ stage, _ → (change watched.scene.event).name = _
    rw [changed]
    exact holds.name

/-- **The application answers**, and the steps behind go on with its answer. -/
theorem leads_callNext {next : Answer → Watch Reply} {Q : Reply → Watched → Prop}
    (goesOn : Leads (Watched.Holds guarded.bus token origin progress)
      (next (guarded.app.serve request).answer) Q
      fun watched => origin.Steady guarded.bus token watched.scene.site) :
    Leads (Watched.Holds guarded.bus token origin progress)
      ((manner cast).plain (callNext guarded.app request) >>= next) Q
      fun watched => origin.Steady guarded.bus token watched.scene.site := by
  refine leads_looking (fun scene => ?_) fun answer scene after settled => ?_
  · obtain ⟨calls, settled⟩ := exists_settle_callNext guarded.app request scene
    rw [settled]
    exact ⟨rfl, rfl⟩
  · obtain ⟨calls, settled'⟩ := exists_settle_callNext guarded.app request scene
    cases settled.symm.trans settled'
    exact goesOn

/-! ## From stage to stage -/

section

variable (fits : ∀ subscription ∈ (origin.buses.get guarded.bus).subscriptions,
  Fits cast guarded.bus token subscription)

include fits

/-- A stage other than the route stage is entered. -/
theorem leads_stage {stage : Stage} (other : stage ≠ .route) :
    Leads (Watched.Holds guarded.bus token origin progress)
      ((manner cast).trigger guarded.bus stage)
      (fun _ => Watched.Holds guarded.bus token origin (progress.enter stage))
      fun watched => origin.Steady guarded.bus token watched.scene.site :=
  leads_trigger fits (Run.depthLimit - 1) other

/-- A request that was answered ends with the finish stage. -/
theorem leads_finish (reply : Reply) :
    Leads (Watched.Holds guarded.bus token origin progress) ((manner cast).finish guarded reply)
      (fun given watched => given = reply ∧
        watched.Holds guarded.bus token origin (progress.enter .finish))
      fun watched => origin.Steady guarded.bus token watched.scene.site :=
  leads_bind (leads_stage fits (by decide)) fun _ => leads_pure fun _ holds => ⟨rfl, holds⟩

/-- So does a request that the application served, if there is a reply. -/
theorem leads_finishAnswer : ∀ answer : Answer,
    Leads (Watched.Holds guarded.bus token origin progress)
      ((manner cast).finishAnswer guarded answer)
      (fun reply watched => answer = .reply reply ∧
        watched.Holds guarded.bus token origin (progress.enter .finish))
      fun watched => origin.Steady guarded.bus token watched.scene.site
  | .reply reply => (leads_finish fits reply).imp
      (fun _ _ finished => ⟨congrArg Answer.reply finished.1.symm, finished.2⟩)
      fun _ steady => steady
  | .raised _ => fun _ holds => holds.steady
  | .broken _ => leads_bind (leads_stage fits (by decide)) fun _ _ holds => holds.steady

/-- The reply of the event is made, and the request ends. -/
theorem leads_eventReply :
    Leads (Watched.Holds guarded.bus token origin progress)
      ((manner cast).plain guarded.eventReply >>= (manner cast).finish guarded)
      (fun _ => Watched.Holds guarded.bus token origin (progress.enter .finish))
      fun watched => origin.Steady guarded.bus token watched.scene.site := by
  refine leads_looking (fun scene => ?_) fun reply _ _ _ => ?_
  · rw [settle_eventReply]
    exact ⟨rfl, rfl⟩
  · exact (leads_finish fits reply).imp (fun _ _ finished => finished.2) fun _ steady => steady

/-- **A request that matches no endpoint** goes through the error stage. -/
theorem leads_handleUnmatched
    (missing : guarded.app.matchRoute request.method request.path = .ok none) :
    Leads (Watched.Holds guarded.bus token origin {})
      ((manner cast).handleUnmatched guarded request)
      (fun reply watched => Ended guarded request reply watched ∧
        origin.Steady guarded.bus token watched.scene.site)
      fun watched => origin.Steady guarded.bus token watched.scene.site := by
  refine leads_bind (leads_changeEvent _ (fun _ => ⟨_, rfl⟩) fun event _ => event.error_setError _)
    fun _ => ?_
  refine leads_bind (leads_stage fits (by decide)) fun _ => leads_callNext ?_
  refine (leads_finishAnswer fits _).imp ?_ fun _ steady => steady
  rintro reply watched ⟨served, holds⟩
  exact ⟨⟨_, .unmatched missing served, holds.toAt⟩, holds.steady⟩

/-- **A request whose endpoint said so** goes through the error stage, and ends with the reply of
the event. -/
theorem leads_answerUnauthorized (error : Raised) :
    Leads (Watched.Holds guarded.bus token origin { stages := [.route, .dispatch] })
      ((manner cast).answerUnauthorized guarded error)
      (fun _ => Watched.Holds guarded.bus token origin
        { stages := [.route, .dispatch, .dispatchError, .finish]
          error := .str ErrorMark.exception.name })
      fun watched => origin.Steady guarded.bus token watched.scene.site := by
  refine leads_bind (leads_changeEvent _ (fun _ => ⟨_, rfl⟩) fun event _ => event.error_setError _)
    fun _ => ?_
  refine leads_looking (fun _ => ⟨rfl, rfl⟩) fun site _ _ _ => ?_
  refine leads_looking (fun _ => ⟨rfl, rfl⟩) fun identity _ _ _ => ?_
  refine leads_bind (leads_changeEvent (.str ErrorMark.exception.name)
    (fun _ => ⟨_, rfl⟩) fun event isError => ?_) fun _ => ?_
  · rw [Event.error, Event.param_setParam_of_ne (by decide),
      Event.param_setParam_of_ne (by decide)]
    exact isError
  · exact leads_bind (leads_stage fits (by decide)) fun _ => leads_eventReply fits

/-- **A request that guards let pass** goes through the dispatch stage, and through the error stage
if its endpoint says so. -/
theorem leads_passOn {routeMatch : RouteMatch}
    (matched : guarded.app.matchRoute request.method request.path = .ok (some routeMatch)) :
    Leads (Watched.Holds guarded.bus token origin .passed) ((manner cast).passOn guarded request)
      (fun reply watched => Ended guarded request reply watched ∧
        origin.Steady guarded.bus token watched.scene.site)
      fun watched => origin.Steady guarded.bus token watched.scene.site := by
  refine leads_bind (leads_stage fits (by decide)) fun _ => leads_callNext ?_
  split
  · next error raised =>
    split
    · next isKind =>
      refine (leads_answerUnauthorized fits error).imp (fun reply watched holds => ?_)
        fun _ steady => steady
      exact ⟨⟨_, .unauthorized matched raised isKind, holds.toAt⟩, holds.steady⟩
    · exact fun _ holds => holds.steady
  · refine (leads_finishAnswer fits _).imp ?_ fun _ steady => steady
    rintro reply watched ⟨served, holds⟩
    exact ⟨⟨_, .passed matched served, holds.toAt⟩, holds.steady⟩

/-- **A request that matches an endpoint** goes through the route stage, and comes to an end
there if a guard denies it. -/
theorem leads_handleMatched {routeMatch : RouteMatch}
    (matched : guarded.app.matchRoute request.method request.path = .ok (some routeMatch)) :
    Leads (Watched.Holds guarded.bus token origin {}) ((manner cast).handleMatched guarded request)
      (fun reply watched => Ended guarded request reply watched ∧
        origin.Steady guarded.bus token watched.scene.site)
      fun watched => origin.Steady guarded.bus token watched.scene.site := by
  refine leads_bind (leads_routeStage fits (Run.depthLimit - 2)) fun _ => ?_
  rintro watched (passed | ⟨kind, denied⟩)
  · have sound : watched.scene.event.isError = false := by
      rw [Event.isError, passed.error]
      rfl
    rw [settle_bind_of_ok (show settle ((manner cast).plain Run.event) watched = _ from
      settle_plain _ _), sound]
    exact leads_passOn fits matched watched passed
  · have failed : watched.scene.event.isError = true := by
      rw [Event.isError, denied.error]
      cases kind <;> rfl
    rw [settle_bind_of_ok (show settle ((manner cast).plain Run.event) watched = _ from
      settle_plain _ _), failed]
    refine (leads_eventReply fits).imp (fun reply watched holds => ?_) (fun _ steady => steady)
      watched denied
    exact ⟨⟨_, .denied matched kind, holds.toAt⟩, holds.steady⟩

end

/-! ## Identities -/

/-- **With an identity** bound, a run starts from the bound context, and the token restores what it
was given out for if it was spared. -/
theorem settle_withIdentity {α : Type} (identity : Option Identity) (watch : Watch α)
    (watched : Watched) :
    let site := watched.scene.site
    let bound : Watched := { watched with
      scene := { watched.scene with
        site := { site with context := (site.context.bind identity).2 } } }
    let ran := settle watch bound
    settle ((manner cast).withIdentity identity watch) watched =
      match ran.2.scene.site.context.restore site.context.tokens.length with
      | .ok context => (ran.1, { ran.2 with
          scene := { ran.2.scene with site := { ran.2.scene.site with context } } })
      | .error _ => ran := by
  intro site bound ran
  have settled : settle ((manner cast).withIdentity identity watch) watched =
      settle (plain (restoreIdentity site.context.tokens.length) >>= fun _ => plain (liftM ran.1))
        ran.2 := rfl
  rw [settled, settle_bind, settle_plain, settle_restoreIdentity]
  cases ran.2.scene.site.context.restore site.context.tokens.length <;> rfl

/-- Steady sites give back the identity that was current before a run with another. -/
theorem restore_of_steady {bus : BusRef} {site after : Site} {identity : Option Identity}
    (steady : Site.Steady bus site.context.tokens.length
      { site with context := (site.context.bind identity).2 } after) :
    ∃ tokens, after.context.restore site.context.tokens.length =
      .ok ⟨site.context.current, tokens⟩ := by
  have live := steady.token site.context.current (by simp [IdentityContext.bind])
  exact ⟨_, by rw [IdentityContext.restore, live]⟩

/-! ## Requests -/

/-- The event of a request has the matched route, is bound to the bus, and has no error. -/
theorem exists_of_eventOf {event : Event} (made : guarded.eventOf request = .ok event) :
    ∃ routeMatch, guarded.app.matchRoute request.method request.path = .ok routeMatch ∧
      event.routeMatch = routeMatch ∧ event.error = .null ∧ event.bus = some guarded.bus := by
  obtain ⟨routeMatch, matched, made⟩ := exists_ok_of_bind made
  cases made
  exact ⟨routeMatch, matched, rfl, rfl, rfl⟩

/-- A request without an event fails. -/
theorem settle_handle_of_error {failure : Failure}
    (failed : guarded.eventOf request = .error failure) (watched : Watched) :
    settle (handle cast guarded request) watched = (.error failure, watched) := by
  unfold handle Manner.handle
  rw [failed]
  rfl

/-- A request that matches no endpoint is handled so. -/
theorem settle_handle_of_none {event : Event} (made : guarded.eventOf request = .ok event)
    (unmatched : event.routeMatch = none) (watched : Watched) :
    settle (handle cast guarded request) watched =
      settle ((manner cast).handleUnmatched guarded request)
        { watched with scene := { watched.scene with event } } := by
  unfold handle Manner.handle
  rw [made]
  show settle (if event.routeMatch.isNone = true then _ else _) _ = _
  rw [unmatched]
  rfl

/-- A request that matches an endpoint is handled so, with its identity bound to the context if this
is where the provider looks. -/
theorem settle_handle_of_some {event : Event} (made : guarded.eventOf request = .ok event)
    {routeMatch : RouteMatch} (matched : event.routeMatch = some routeMatch) (watched : Watched) :
    let starts : Watched := { watched with scene := { watched.scene with event } }
    let matching : Watch Reply := (manner cast).handleMatched guarded request
    settle (handle cast guarded request) watched =
      match watched.scene.site.providers.get guarded.provider with
      | .ofContext _ => settle
        ((manner cast).withIdentity (guarded.identify.bind (· request.toRequest)) matching) starts
      | .fixed .. => settle matching starts := by
  intro starts matching
  unfold handle Manner.handle
  rw [made]
  show settle (if event.routeMatch.isNone = true then _ else _) starts = _
  rw [matched]
  show settle (plain Run.site >>= fun site => _) starts = _
  rw [settle_bind_of_ok (settle_plain _ _)]
  show settle (match watched.scene.site.providers.get guarded.provider with
    | .ofContext _ => _
    | .fixed .. => _) starts = _
  cases watched.scene.site.providers.get guarded.provider <;> rfl

/-- Where a run on a steady site leads. -/
theorem ended_of_leads {watch : Watch Reply} (leads : Leads
      (Watched.Holds guarded.bus token origin {}) watch
      (fun reply watched => Ended guarded request reply watched ∧
        origin.Steady guarded.bus token watched.scene.site)
      fun watched => origin.Steady guarded.bus token watched.scene.site) {starts : Watched}
    (isAt : starts.At guarded.bus {}) (same : starts.scene.site = origin) :
    (∀ reply, (settle watch starts).1 = .ok reply →
        Ended guarded request reply (settle watch starts).2) ∧
      origin.Steady guarded.bus token (settle watch starts).2.scene.site := by
  have led := leads starts ⟨isAt, same ▸ .refl _⟩
  generalize settle watch starts = settled at led ⊢
  obtain ⟨failure | reply, after⟩ := settled
  · exact ⟨nofun, led⟩
  · refine ⟨?_, led.2⟩
    rintro _ ⟨⟩
    exact led.1

/-- **A request comes to an end** if it is answered, on a bus where all that listens fits. However
it ends, the current identity is the one from before. -/
theorem ended_handle (request : Incoming) {scene : Scene}
    (fits : ∀ subscription ∈ (scene.site.buses.get guarded.bus).subscriptions,
      Fits cast guarded.bus scene.site.context.tokens.length subscription) :
    let ran := settle (handle cast guarded request) ⟨scene, []⟩
    (∀ reply, ran.1 = .ok reply → Ended guarded request reply ran.2) ∧
      ran.2.scene.site.context.current = scene.site.context.current := by
  intro ran
  cases made : guarded.eventOf request with
  | error failure =>
    have isRan : ran = _ := settle_handle_of_error made _
    rw [isRan]
    exact ⟨nofun, rfl⟩
  | ok event =>
    obtain ⟨routeMatch, matched, isMatch, error, bound⟩ := exists_of_eventOf made
    have isAt (site : Site) : Watched.At guarded.bus {} ⟨{ scene with event, site }, []⟩ :=
      ⟨rfl, rfl, error, bound, nofun⟩
    cases routeMatch with
    | none =>
      have isRan : ran = _ := settle_handle_of_none made isMatch _
      rw [isRan]
      exact (ended_of_leads (leads_handleUnmatched fits matched) (isAt _) rfl).imp_right (·.current)
    | some routeMatch =>
      have isRan : ran = _ := settle_handle_of_some made isMatch _
      rw [isRan]
      dsimp only
      split
      · -- the identity is bound for the request, and restored behind it
        let within : Site := { scene.site with
          context := (scene.site.context.bind (guarded.identify.bind (· request.toRequest))).2 }
        have fits' : ∀ subscription ∈ (within.buses.get guarded.bus).subscriptions,
          Fits cast guarded.bus scene.site.context.tokens.length subscription := fits
        obtain ⟨ended, steady⟩ :=
          ended_of_leads (leads_handleMatched fits' matched) (isAt within) rfl
        obtain ⟨tokens, restored⟩ := restore_of_steady steady
        rw [settle_withIdentity]
        dsimp only
        rw [restored]
        exact ⟨fun reply replied => (ended reply replied).at_site _, rfl⟩
      · exact (ended_of_leads (leads_handleMatched fits matched) (isAt _) rfl).imp_right (·.current)

/-- **A request goes through one of four passages** if it is answered, when guards are installed in
front of an application and all that listens beside them looks on, whether it was there before or
came later. The progress at the end, when the finish stage was the last, is that of the passage. And
however the request ends, the current identity is the one from before. With scripts that act as they
say, this is the request of the pipeline. -/
theorem handle_passes {site ready : Site} {app : App} {installation : Installation}
    {installing : Installing} {identify : Option (HttpRequest → Option Identity)}
    {renderer : Renderer}
    (installed : install site app installation installing identify renderer = .ok (guarded, ready))
    (cast : Script → Conduct) (scene : Scene)
    (earlier : ∀ bus, installing.bus = some bus →
      ∀ subscription ∈ (site.buses.get bus).subscriptions,
        Onlooks cast guarded.bus scene.site.context.tokens.length subscription.listener)
    (later : ∀ subscription ∈ (scene.site.buses.get guarded.bus).subscriptions,
      subscription ∈ (ready.buses.get guarded.bus).subscriptions ∨
        Onlooks cast guarded.bus scene.site.context.tokens.length subscription.listener)
    (request : Incoming) :
    let ran := settle (handle cast guarded request) ⟨scene, []⟩
    (∀ reply, ran.1 = .ok reply →
        ∃! progress, Passage guarded request reply progress ∧ ran.2.At guarded.bus progress) ∧
      ran.2.scene.site.context.current = scene.site.context.current ∧
      Mirrors (handle .ofScript guarded request) (guarded.handle request) := by
  have fits : ∀ subscription ∈ (scene.site.buses.get guarded.bus).subscriptions,
      Fits cast guarded.bus scene.site.context.tokens.length subscription := by
    intro subscription mem
    rcases later subscription mem with old | onlooks
    · exact fits_of_install installed earlier subscription old
    · exact .onlooker onlooks
  obtain ⟨ended, current⟩ := ended_handle request fits
  refine ⟨fun reply replied => ?_, current, mirrors_handle guarded request⟩
  obtain ⟨progress, passage, isAt⟩ := ended reply replied
  exact ⟨progress, ⟨passage, isAt⟩, fun _ other => other.2.unique isAt⟩

/-- A guest asks for a page that only an admin may have, while a spy and a script look on. -/
theorem handle_passes_denied :
    let pages : Guard := .ofRules .controller [⟨["pages"], [none], [], ["admin"], none⟩]
    let site : Site :=
      { buses := ⟨1, fun _ => (Bus.attach {} Stage.finish.name (.spy 0) (.int 100)).2⟩
        guards := ⟨1, fun _ => { guard := pages }⟩
        authorities := ⟨1, fun _ => .service 0 (Blueprint.buildService { guards := [pages] } []).2⟩
        providers := ⟨1, fun _ => .ofContext "guest"⟩ }
    let app : App := ⟨[.endpoint "/page" ["GET"] (some "page") ⟨"show", "pages", .returns .null⟩]⟩
    let installing : Installing := { authority := some 0, provider := some 0, bus := some 0 }
    let request : Incoming := { method := "GET", path := "/page" }
    ∃ guarded ready, install site app { guards := [0] } installing none Page.toJson =
        .ok (guarded, ready) ∧
      let script : Script := .of "seen" [] .null
      let seen := (ready.attach 0 Stage.dispatchError.name (.script script) (.int 1)).2
      let ran := settle (handle .ofScript guarded request) ⟨{ site := seen }, []⟩
      stagesIn ran.2.history = ["route", "dispatch.error", "finish"] ∧
        ∃ reply, ran.1 = .ok reply ∧
          ∃! progress, Passage guarded request reply progress ∧ ran.2.At guarded.bus progress := by
  intro pages site app installing request
  cases installed : install site app { guards := [0] } installing none Page.toJson with
  | error failure => cases installed
  | ok made =>
    obtain ⟨guarded, ready⟩ := made
    refine ⟨guarded, ready, rfl, ?_⟩
    intro script seen ran
    obtain ⟨passes, -⟩ := handle_passes installed .ofScript { site := seen }
      (by
        rintro _ ⟨⟩ subscription mem
        rw [List.mem_singleton.1 mem]
        exact onlooks_spy 0)
      (by
        intro subscription mem
        cases installed
        rcases List.mem_append.1 mem with old | new
        · exact .inl old
        · rw [List.mem_singleton.1 new]
          exact .inr fun again watched => ⟨rfl, .refl _, [], (List.append_nil _).symm⟩)
      request
    cases installed
    refine ⟨by decide +kernel, ?_⟩
    cases replied : ran.1 with
    | error failure =>
      have answered : ran.1.isOk = true := by decide +kernel
      rw [replied] at answered
      cases answered
    | ok reply => exact ⟨reply, rfl, passes reply replied⟩

end Watch

end GuardedDispatch
