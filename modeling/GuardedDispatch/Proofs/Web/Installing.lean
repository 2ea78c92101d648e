import GuardedDispatch.Proofs.Access.Building
import GuardedDispatch.Proofs.Dispatch.Attaching
import GuardedDispatch.Proofs.Stepwise
import GuardedDispatch.Web.Adapter

/-! # What an installation leaves behind

Installing guards in front of an application binds them all to one authority and attaches them, and
the strategy if there is one, to a bus. On a bus that nothing else was attached to, the guards are
then what listens on the route stage, in order, and the strategy what listens on the error stage
(`Guarded.Ready`, `ready_of_install`). -/

namespace GuardedDispatch.Web

/-- A site at which some guards and perhaps a strategy are **ready** in front of an application. -/
structure Guarded.Ready (guarded : Guarded) (site : Site) (guards : List GuardRef)
    (strategy : Option StrategyRef) : Prop where
  route : ∃ extent, (site.buses.get guarded.bus).Lists Stage.route.name extent
    (guards.map Handler.guard)
  error : ∃ extent, (site.buses.get guarded.bus).Lists Stage.dispatchError.name extent
    (strategy.toList.map Handler.strategy)
  dispatch : ∃ extent, (site.buses.get guarded.bus).Lists Stage.dispatch.name extent []
  finish : ∃ extent, (site.buses.get guarded.bus).Lists Stage.finish.name extent []
  bound : ∀ ref ∈ guards, (site.guards.get ref).authority = some guarded.authority

/-- Whether guards are ready depends on the buses and the guards of the site only. -/
theorem Guarded.Ready.congr {guarded : Guarded} {site other : Site} {guards : List GuardRef}
    {strategy : Option StrategyRef} (ready : guarded.Ready site guards strategy)
    (buses : other.buses = site.buses) (same : other.guards = site.guards) :
    guarded.Ready other guards strategy := by
  constructor
  · rw [buses]; exact ready.route
  · rw [buses]; exact ready.error
  · rw [buses]; exact ready.dispatch
  · rw [buses]; exact ready.finish
  · rw [same]; exact ready.bound

/-! ## Binding and attaching -/

/-- The guards of a site, some of them **bound** to an authority. -/
def boundTo (arena : Arena GuardPost) (guards : List GuardRef) (authority : AuthorityRef) :
    Arena GuardPost :=
  ⟨arena.size, fun ref =>
    if ref ∈ guards then { arena.get ref with authority := some authority } else arena.get ref⟩

/-- **Binding guards** one after the other binds them all, and changes nothing else. -/
theorem foldl_bindGuard (authority : AuthorityRef) : ∀ (guards : List GuardRef) (site : Site),
    guards.foldl (fun site ref => site.bindGuard ref (some authority)) site =
      { site with guards := boundTo site.guards guards authority }
  | [], site => by simp [boundTo]
  | first :: rest, site => by
    rw [List.foldl_cons, foldl_bindGuard authority rest]
    -- a guard that is listed twice is bound twice, to the same authority
    have same : boundTo (site.bindGuard first (some authority)).guards rest authority =
        boundTo site.guards (first :: rest) authority := by
      unfold boundTo Site.bindGuard Arena.set
      congr 1
      funext ref
      by_cases isFirst : ref = first <;> by_cases mem : ref ∈ rest <;>
        simp [isFirst, mem]
    rw [same]
    rfl

/-- **Attaching guards** lists them on the route stage behind what was listed there. -/
theorem lists_attachGuards (bus : BusRef) : ∀ (guards : List GuardRef) (site : Site),
    let after := guards.foldl
      (fun site ref => site.attachGuard ref bus (.int Site.guardPriority)) site
    Site.SameParts site after ∧
      (∀ listeners, (site.buses.get bus).Lists Stage.route.name (.ofInt Site.guardPriority)
          listeners →
        (after.buses.get bus).Lists Stage.route.name (.ofInt Site.guardPriority)
          (listeners ++ guards.map Handler.guard)) ∧
      ∀ stage extent, stage ≠ Stage.route.name →
        (site.buses.get bus).Lists stage extent [] → (after.buses.get bus).Lists stage extent []
  | [], site => ⟨.refl site, fun listeners lists => by simpa using lists, fun _ _ _ lists => lists⟩
  | ref :: rest, site => by
    obtain ⟨same, route, others⟩ :=
      lists_attachGuards bus rest (site.attachGuard ref bus (.int Site.guardPriority))
    refine ⟨(Site.sameParts_attachGuard site ref bus _).trans same, ?_, ?_⟩
    · intro listeners lists
      have further : ((site.buses.get bus).attach Stage.route.name (.guard ref)
          (.int Site.guardPriority)).2.Lists Stage.route.name _ _ :=
        lists.attach (.guard ref) rfl
      rw [← Site.bus_attachGuard] at further
      have all := route _ further
      rw [List.append_assoc] at all
      exact all
    · intro stage extent ne lists
      refine others stage extent ne ?_
      rw [Site.bus_attachGuard]
      exact lists.attach_other (Ne.symm ne) _ _

/-- Attaching leaves all parts the same. -/
theorem sameParts_attachAllTo (site : Site) (installation : Installation) (bus : BusRef) :
    Site.SameParts site (Session.attachAllTo site installation bus) := by
  have guards := (lists_attachGuards bus installation.guards site).1
  unfold Session.attachAllTo
  cases installation.strategy with
  | none => exact guards
  | some ref => exact Site.SameParts.trans guards (Site.sameParts_attachStrategy _ ref bus)

/-! ## Installing -/

/-- Finding a provider concerns neither buses nor strategies. -/
theorem providerIn_same (installing : Installing) (site : Site) :
    (installing.providerIn site).2.buses = site.buses ∧
      (installing.providerIn site).2.strategies = site.strategies := by
  unfold Installing.providerIn
  cases installing.provider <;> exact ⟨rfl, rfl⟩

/-- **What is built for guards** is reached by calls. -/
theorem reached_buildService (assertions : Assertions) (blueprint : Blueprint) :
    Service.Reached assertions (blueprint.buildService assertions).2 := by
  have resources (guard : Guard) :
      Keeps (Service.Reached assertions) (Service.addGuardResources guard) :=
    keeps_forM fun resource _ _ reached => reached.call (.addResource (.ofWord resource))
  have stores := Service.keeps_reached_storeRule assertions
  have reaching := Service.compositional_keeps (Service.Reached assertions)
  have rules (guard : Guard) : Keeps (Service.Reached assertions) (Service.storeGuard guard) :=
    keeps_forM fun rule _ => reaching.storePositional (stores .allow) rule
  have fields : Keeps (Service.Reached assertions) (Service.storeFields blueprint.rules) :=
    reaching.storeFields stores blueprint.rules
  exact keeps_bind (keeps_forM fun guard _ => resources guard)
    (fun _ => keeps_bind (keeps_forM fun guard _ => rules guard) fun _ => fields)
    { assertions } .new

/-- The **blueprint** of what is installed: the guards as they are now, and the extra rules. -/
def blueprintOf (site : Site) (installation : Installation) : Blueprint :=
  { guards := Session.guardsOf site installation, rules := installation.rules }

/-- **What an authority is built as**: the last one, with the service of the guards and rules that
were installed, and bound to all guards. -/
theorem eq_of_buildAuthority {site after : Site} {installation : Installation}
    {provider : ProviderRef} {assertions : Assertions} {ref : AuthorityRef} {service : Service}
    (built : Session.buildAuthority site installation provider assertions =
      .ok (ref, service, after)) :
    service = ((blueprintOf site installation).buildService assertions).2 ∧
      ref = site.authorities.size ∧
      after =
        Session.bindAll (site.addAuthority (.service provider service)).2 installation ref := by
  unfold Session.buildAuthority at built
  unfold blueprintOf
  dsimp only at built
  generalize Blueprint.buildService _ _ = result at built ⊢
  obtain ⟨_ | _, service⟩ := result
  · cases built
  · cases built
    exact ⟨rfl, rfl, rfl⟩

section

variable {site ready : Site} {app : App} {installation : Installation} {installing : Installing}
  {identify : Option (HttpRequest → Option Identity)} {renderer : Renderer} {guarded : Guarded}

/-- What is done for the authority when guards are installed: it is built if it was not given, and
all guards are bound to it. -/
theorem exists_bindAll_of_install
    (installed : install site app installation installing identify renderer =
      .ok (guarded, ready)) :
    let supplied := (installing.providerIn (installing.busIn site).2).2
    ∃ bound : Site, bound.buses = supplied.buses ∧ bound.strategies = supplied.strategies ∧
      guarded = ⟨app, (installing.busIn site).1, guarded.authority,
        (installing.providerIn (installing.busIn site).2).1, identify, renderer⟩ ∧
      ready = Session.attachAllTo (Session.bindAll bound installation guarded.authority)
        installation (installing.busIn site).1 ∧
      bound.providers = supplied.providers ∧
      (installing.authority = none →
        bound.authorities.get guarded.authority =
          .service guarded.provider ((blueprintOf site installation).buildService []).2) := by
  intro supplied
  -- neither a bus nor a provider makes a difference to the guards
  have guards : blueprintOf supplied installation = blueprintOf site installation := by
    have same : supplied.guards = site.guards := by
      show (installing.providerIn (installing.busIn site).2).2.guards = _
      unfold Installing.providerIn Installing.busIn
      cases installing.provider <;> cases installing.bus <;> rfl
    rw [blueprintOf, Session.guardsOf, same]
    rfl
  unfold install at installed
  cases given : installing.authority with
  | some ref =>
    -- nothing is built where an authority was given
    rw [given] at installed
    cases installed
    exact ⟨_, rfl, rfl, rfl, rfl, rfl, fun missing => by cases missing⟩
  | none =>
    rw [given] at installed
    change (Session.buildAuthority supplied installation
      (installing.providerIn (installing.busIn site).2).1 [] >>= _) = _ at installed
    obtain ⟨⟨ref, service, built⟩, isBuilt, installed⟩ := exists_ok_of_bind installed
    obtain ⟨isService, rfl, rfl⟩ := eq_of_buildAuthority isBuilt
    cases installed
    refine ⟨(supplied.addAuthority (.service _ service)).2, rfl, rfl, rfl, rfl, rfl, fun _ => ?_⟩
    rw [← guards, ← isService]
    exact Arena.get_add_self supplied.authorities _

/-- **Without an authority** that was given, guards consult the service that is built for them. It
asks the provider that they were installed with. -/
theorem buildService_of_install
    (installed : install site app installation installing identify renderer =
      .ok (guarded, ready)) (missing : installing.authority = none) :
    ready.authorities.get guarded.authority =
      .service guarded.provider ((blueprintOf site installation).buildService []).2 := by
  obtain ⟨bound, -, -, -, rfl, -, built⟩ := exists_bindAll_of_install installed
  rw [(sameParts_attachAllTo _ _ _).authorities, Session.bindAll, foldl_bindGuard]
  exact built missing

/-- **Without a provider** that was given, one is made that tells by the context who is asking, and
knows the standard role. -/
theorem standardRole_of_install
    (installed : install site app installation installing identify renderer =
      .ok (guarded, ready)) (missing : installing.provider = none) :
    ready.providers.get guarded.provider = .ofContext standardRole := by
  obtain ⟨bound, -, -, isGuarded, rfl, providers, -⟩ := exists_bindAll_of_install installed
  rw [(sameParts_attachAllTo _ _ _).providers, Session.bindAll, foldl_bindGuard, isGuarded]
  show bound.providers.get _ = _
  rw [providers]
  unfold Installing.providerIn
  rw [missing]
  exact Arena.get_add_self _ _

end

end GuardedDispatch.Web
