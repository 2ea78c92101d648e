import GuardedDispatch.Proofs.Config.Authority
import GuardedDispatch.Proofs.Web.Protection

/-! # Anonymous requests

A request is anonymous if it comes without an identity, or with one that holds no role
(`Anonymous`). Guards that are installed without an authority and without a provider ask the service
that is built for them (`buildService_of_install`), and it learns the caller from a provider that is
made for it (`standardRole_of_install`). For anonymous requests the standard role alone counts.

The settings have a default role too. It goes into no blueprint, and nothing that is installed
knows it: the standard role counts whatever the settings say (`decides_of_anonymous`), and a page
for the default role may be kept from anonymous requests (`refuses_defaultRole`). -/

namespace GuardedDispatch

/-- An identity is **anonymous** if there is none, or it holds no role. -/
def Anonymous (identity : Option Identity) : Prop :=
  ∀ known, identity = some known → known.roles = []

/-- Of anonymous callers, the default role alone counts. -/
theorem roleCounts_of_anonymous {identity : Option Identity} (anonymous : Anonymous identity)
    {defaultRole role : Word} : RoleCounts identity defaultRole role ↔ role = defaultRole := by
  cases identity with
  | none => exact Iff.rfl
  | some known => rw [RoleCounts, if_pos (anonymous known rfl)]

/-- What is asked decides one thing only. -/
theorem Asking.Decides.iff {asking : Asking Bool} {P Q : Prop} (first : asking.Decides P)
    (second : asking.Decides Q) : P ↔ Q :=
  first.outcome_iff.symm.trans second.outcome_iff

namespace Web

variable {site ready : Site} {app : App} {bus : Option BusRef} {installation : Installation}
  {identify : Option (HttpRequest → Option Identity)} {renderer : Renderer} {guarded : Guarded}

/-- Where a request is handled, guards ask the service as the caller that the request comes from. -/
theorem oracle_siteFor {current : Site} {service : Service} {defaultRole : Word}
    (asks : current.authorities.get guarded.authority = .service guarded.provider service)
    (reports : current.providers.get guarded.provider = .ofContext defaultRole)
    (request : Incoming) :
    (guarded.siteFor current request).oracle guarded.authority =
      service.oracle (.of (guarded.identify.bind (· request.toRequest)) defaultRole) := by
  rw [Guarded.siteFor, reports, Site.oracle]
  dsimp only
  rw [asks]
  dsimp only
  rw [Site.caller, reports]
  rfl

/-- What the service of a document lets the default role, it decides for anonymous callers. -/
theorem decides_buildService {identity : Option Identity} (anonymous : Anonymous identity)
    (blueprint : Blueprint) (defaultRole resource : Word) (privilege : Option Word) :
    ((blueprint.buildService []).2.isAllowed (.of identity defaultRole) (.ofWord resource)
      (.ofWord? privilege)).Decides
        ((blueprint.buildService []).2.AllowsRole identity resource privilege defaultRole) := by
  have decides : ((blueprint.buildService []).2.isAllowed (.of identity defaultRole)
      (.ofWord resource) (.ofWord? privilege)).Decides _ :=
    Service.decides_isAllowed (by simp [Assertions.Answer])
      (reached_buildService [] blueprint).closed _
  refine decides.congr ?_
  simp only [mem_roles_of, roleCounts_of_anonymous anonymous, exists_eq_left]
  rfl

/-- **The standard role counts for anonymous requests**, whatever the settings say. Guards that were
read from a document with some settings, and installed without an authority and without a provider,
are let what the service that is built from the document lets the standard role. The default role of
the settings goes into nothing that is read, so it decides only where it is let the same. -/
theorem decides_of_anonymous {settings : Settings} {registry : Registry} {document : Value}
    {blueprint : Blueprint}
    (read : Blueprint.ofDocument settings registry document = .ok blueprint)
    (installed : install (Session.installInto site blueprint).2 app
      (Session.installInto site blueprint).1 { bus } identify renderer = .ok (guarded, ready)) :
    let service := (blueprint.buildService []).2
    (∀ role, Blueprint.ofDocument { settings with defaultRole := role } registry document =
      .ok blueprint) ∧
    ∀ current : Site, current.authorities = ready.authorities →
      current.providers = ready.providers →
      ∀ request : Incoming,
        let identity := identify.bind (· request.toRequest)
        let asks := fun (resource : Word) (privilege : Option Word) =>
          ((guarded.siteFor current request).oracle guarded.authority).isAllowed (.ofWord resource)
            (.ofWord? privilege)
        Anonymous identity →
        (∀ resource privilege, (asks resource privilege).Decides
          (service.AllowsRole identity resource privilege standardRole)) ∧
        ((∀ resource privilege, (asks resource privilege).Decides
            (service.AllowsRole identity resource privilege settings.defaultRole)) ↔
          ∀ resource privilege, service.AllowsRole identity resource privilege standardRole ↔
            service.AllowsRole identity resource privilege settings.defaultRole) := by
  intro service
  refine ⟨fun role => read, ?_⟩
  intro current authorities providers request identity asks anonymous
  obtain ⟨guards, rules⟩ := Session.guardsOf_installInto site blueprint
  have asked := buildService_of_install installed rfl
  have reports := standardRole_of_install installed rfl
  have isIdentify : guarded.identify = identify := by
    obtain ⟨bound, -, -, isGuarded, -⟩ := exists_bindAll_of_install installed
    rw [isGuarded]
  rw [blueprintOf, guards, rules, ← authorities] at asked
  rw [← providers] at reports
  have isOracle : (guarded.siteFor current request).oracle guarded.authority =
      service.oracle (.of identity standardRole) := by
    rw [oracle_siteFor asked reports, isIdentify]
    rfl
  have standard : ∀ resource privilege, (asks resource privilege).Decides
      (service.AllowsRole identity resource privilege standardRole) := by
    intro resource privilege
    show (Oracle.isAllowed _ _ _).Decides _
    rw [isOracle]
    exact decides_buildService anonymous blueprint standardRole resource privilege
  refine ⟨standard, fun decides resource privilege => ?_, fun same resource privilege => ?_⟩
  · exact (standard resource privilege).iff (decides resource privilege)
  · exact (standard resource privilege).congr (same resource privilege)

/-- A page for guests is open to anonymous requests, although the default role is another. -/
theorem decides_of_anonymous_guests :
    let settings : Settings := { defaultRole := "member" }
    let document : Value := .map [(.str "guards", .map [(.str "controller", .list [
      .map [(.str "controller", .str "app.pages"), (.str "roles", .str "guest")]])])]
    ∃ blueprint guarded ready,
      Blueprint.ofDocument settings .standard document = .ok blueprint ∧
      install (Session.installInto {} blueprint).2 ⟨[]⟩ (Session.installInto {} blueprint).1 {} none
        Page.toJson = .ok (guarded, ready) ∧
      (((guarded.siteFor ready { method := "GET", path := "/page" }).oracle
        guarded.authority).isAllowed (.str "controller/app.pages") .null).outcome.1 = .ok true := by
  intro settings document
  obtain ⟨blueprint, read⟩ :
      ∃ blueprint, Blueprint.ofDocument settings .standard document = .ok blueprint := ⟨_, rfl⟩
  obtain ⟨guarded, ready, installed⟩ : ∃ guarded ready, install (Session.installInto {} blueprint).2
      ⟨[]⟩ (Session.installInto {} blueprint).1 {} none Page.toJson = .ok (guarded, ready) := by
    cases read
    exact ⟨_, _, rfl⟩
  refine ⟨blueprint, guarded, ready, read, installed, ?_⟩
  have decides := ((decides_of_anonymous read installed).2 ready rfl rfl
    { method := "GET", path := "/page" } (by simp [Anonymous])).1 "controller/app.pages" none
  refine decides.outcome_iff.2 ((decides_buildService (by simp [Anonymous]) blueprint standardRole
    "controller/app.pages" none).outcome_iff.1 ?_)
  cases read
  rfl

/-- A page for members is kept from anonymous requests, although the default role is that of
members. -/
theorem refuses_defaultRole :
    let settings : Settings := { defaultRole := "member" }
    let document : Value := .map [(.str "guards", .map [(.str "controller", .list [
      .map [(.str "controller", .str "app.pages"), (.str "roles", .str "member")]])])]
    let page : Endpoint := ⟨"page", "app.pages", .returns .null⟩
    let app : App := ⟨[.endpoint "/page" ["GET"] (some "page") page]⟩
    let request : Incoming := { method := "GET", path := "/page" }
    ∃ blueprint guarded ready,
      Blueprint.ofDocument settings .standard document = .ok blueprint ∧
      install (Session.installInto {} blueprint).2 app (Session.installInto {} blueprint).1 {} none
        Page.toJson = .ok (guarded, ready) ∧
      (blueprint.buildService []).2.AllowsRole none "controller/app.pages" none
        settings.defaultRole ∧
      (((guarded.siteFor ready request).oracle guarded.authority).isAllowed
        (.str "controller/app.pages") .null).outcome.1 = .ok false ∧
      endpointsIn ((guarded.handle request).on { site := ready }).2.trace = [] := by
  intro settings document page app request
  refine ⟨_, _, _, rfl, rfl, ?_, rfl, by decide +kernel⟩
  exact (decides_buildService (by simp [Anonymous]) _ "member" "controller/app.pages"
    none).outcome_iff.1 rfl

end Web

end GuardedDispatch
