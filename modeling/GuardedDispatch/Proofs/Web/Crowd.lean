import GuardedDispatch.Proofs.Dispatch.Tasks
import GuardedDispatch.Proofs.Web.Manners
import Mathlib.Data.List.Count
import Mathlib.Logic.Function.Iterate

/-! # Crowds

Requests that are handled at the same time. Each of them is a **strand** (`Strand`): a task with a
context, an event, a trace and a history of its own. All else of the site they share. A **schedule**
says whose step is next, and may put a request aside after any of its steps, not only where it waits
for a listener or for the application (`Crowd.run`).

* **`Crowd.run_apart`**: strands that are private do not see each other. Whatever the schedule, each
  has come as far as it would have come alone with as many steps.
* **`Crowd.handle_apart`**: so requests do not see each other. With its share of the steps, each
  ends as it does when it is handled alone: with the same reply or failure, and the same identity,
  event, trace and history. -/

namespace GuardedDispatch

open Web

/-! ## Requests in steps -/

namespace Task

/-- The manner of **tasks**: what triggers nothing is one step. -/
def manner (cast : Script → Conduct) : Manner (Task Watched) where
  plain run := atomically (Watch.plain run)
  trigger bus stage := discard (trigger cast Run.depthLimit bus (some stage.name))
  attempt := attempt

/-- **Handle** a request in steps. -/
def handle (cast : Script → Conduct) (guarded : Guarded) (request : Incoming) :
    Task Watched Reply :=
  (manner cast).handle guarded request

variable {origin : Site} {cast : Script → Conduct}

/-- Tasks **correspond** to the watched runs that they perform. -/
def performing (discreet : origin.Discreet cast) :
    Correspondence (manner cast) (Watch.manner cast) where
  Rel := Performs origin
  pure := performs_pure
  bind := performs_bind
  plain := performs_plain
  trigger bus stage :=
    performs_bind (performs_trigger discreet Run.depthLimit bus (some stage.name))
      fun _ => performs_pure ()
  attempt := performs_attempt

/-- **A request in steps performs the request**, if the scripts that listen are discreet. -/
theorem performs_handle (discreet : origin.Discreet cast) (guarded : Guarded)
    (request : Incoming) :
    Performs origin (handle cast guarded request) (Watch.handle cast guarded request) :=
  (performing discreet).handle guarded request

end Task

namespace Web

/-! ## Strands -/

/-- A **strand**: a request with what is its own, and what is left to do of it. -/
structure Strand where
  context : IdentityContext
  event : Event := {}
  trace : List Call := []
  history : List Happening := []
  task : Task Watched Reply

namespace Strand

/-- What a strand **sees** on a site: its own context, and all else as it is there. -/
def view (strand : Strand) (site : Site) : Watched where
  scene := ⟨{ site with context := strand.context }, strand.event, strand.trace⟩
  history := strand.history

/-- The strand that keeps its own of what it saw, with what is left to do. -/
def keeping (seen : Watched) (task : Task Watched Reply) : Strand where
  context := seen.scene.site.context
  event := seen.scene.event
  trace := seen.scene.trace
  history := seen.history
  task := task

/-- Take a **step** on a site, if one is left. What is not its own the strand leaves to the site. -/
def step (strand : Strand) (site : Site) : Strand × Site :=
  match strand.task with
  | .done _ => (strand, site)
  | .step change next =>
    let seen := strand.view site
    let after := change seen
    (keeping after (next seen), { after.scene.site with context := site.context })

/-- Go on **alone** on a site. -/
def goOn (site : Site) (strand : Strand) : Strand := (strand.step site).1

variable {origin : Site} {seen : Watched}

/-- A strand sees what it kept. -/
theorem view_keeping (shares : seen.Shares origin) (task : Task Watched Reply) :
    (keeping seen task).view origin = seen := by
  have same : { origin.shared with context := seen.scene.site.context } = seen.scene.site := by
    rw [← shares]
    rfl
  show (⟨⟨{ origin.shared with context := seen.scene.site.context }, _, _⟩, _⟩ : Watched) = _
  rw [same]
  rfl

theorem goOn_done (result : Except Failure Reply) :
    goOn origin (keeping seen (.done result)) = keeping seen (.done result) := rfl

/-- A step goes on from what the strand kept. -/
theorem goOn_step (shares : seen.Shares origin) (change : Watched → Watched)
    (next : Watched → Task Watched Reply) :
    goOn origin (keeping seen (.step change next)) = keeping (change seen) (next seen) := by
  show keeping (change ((keeping seen (.step change next)).view origin))
    (next ((keeping seen (.step change next)).view origin)) = _
  rw [view_keeping shares]

/-- **A step of a private strand** leaves the site as it is, and the strand private. -/
theorem step_private {strand : Strand} (isPrivate : strand.task.Private origin fun _ => True) :
    (strand.step origin).2 = origin ∧
      (strand.goOn origin).task.Private origin fun _ => True := by
  obtain ⟨context, event, trace, history, _ | ⟨change, next⟩⟩ := strand
  · exact ⟨rfl, isPrivate⟩
  · obtain ⟨shares, rest⟩ := isPrivate
      (view ⟨context, event, trace, history, .step change next⟩ origin) rfl
    refine ⟨?_, rest⟩
    show { Site.shared _ with context := origin.context } = origin
    rw [shares]
    rfl

/-- **A private strand alone** is not done before it took all its steps, and then it has the result
of the task and keeps what the task leaves. -/
theorem iterate_goOn : ∀ {task : Task Watched Reply} {seen : Watched} (count : Nat),
    task.Private origin (fun _ => True) → seen.Shares origin →
      let alone := (goOn origin)^[count] (keeping seen task)
      let finished := task.finish seen
      (alone.task.result? = none ↔ count < task.length seen) ∧
        (task.length seen ≤ count → alone = keeping finished.2 (.done finished.1))
  | .done result, seen, count, _, _ => by
    intro alone finished
    have stays : alone = keeping seen (.done result) :=
      Function.iterate_fixed (goOn_done result) count
    rw [stays]
    exact ⟨⟨nofun, nofun⟩, fun _ => rfl⟩
  | .step change next, seen, 0, _, _ => ⟨⟨fun _ => Nat.succ_pos _, fun _ => rfl⟩, nofun⟩
  | .step change next, seen, count + 1, isPrivate, shares => by
    intro alone finished
    obtain ⟨shares', rest⟩ := isPrivate seen shares
    -- the strand keeps what its first step left, which is what the rest of the task starts from
    have goesOn : alone = (goOn origin)^[count] (keeping (change seen) (next seen)) := by
      rw [← goOn_step shares]
      rfl
    obtain ⟨open', ended⟩ := iterate_goOn count rest shares'
    rw [goesOn, Task.length, Nat.succ_lt_succ_iff, Nat.succ_le_succ_iff]
    exact ⟨open', ended⟩

end Strand

/-! ## Crowds -/

/-- A **crowd** of requests on a site. -/
structure Crowd (ι : Type) where
  site : Site
  strands : ι → Strand

namespace Crowd

variable {ι : Type} [DecidableEq ι]

/-- The **next step** is one of a given strand; the others find the site as it left it. -/
def step (crowd : Crowd ι) (i : ι) : Crowd ι :=
  let (strand, site) := (crowd.strands i).step crowd.site
  ⟨site, Function.update crowd.strands i strand⟩

/-- **Run** a crowd by a schedule. -/
def run (crowd : Crowd ι) (schedule : List ι) : Crowd ι := schedule.foldl step crowd

/-- The crowd of **requests** that start on a site, each in a context of its own. -/
def handling (cast : Script → Conduct) (guarded : Guarded) (site : Site)
    (contexts : ι → IdentityContext) (requests : ι → Incoming) : Crowd ι where
  site := site
  strands i := { context := contexts i, task := .handle cast guarded (requests i) }

/-- A crowd whose strands are all **private**. -/
def Private (crowd : Crowd ι) : Prop :=
  ∀ i, (crowd.strands i).task.Private crowd.site fun _ => True

variable {crowd : Crowd ι}

theorem strands_step_self (crowd : Crowd ι) (i : ι) :
    (crowd.step i).strands i = (crowd.strands i).goOn crowd.site := Function.update_self i _ _

theorem strands_step_of_ne {i j : ι} (other : j ≠ i) (crowd : Crowd ι) :
    (crowd.step i).strands j = crowd.strands j := Function.update_of_ne other _ _

/-- **A step of a private crowd** leaves the site as it is, and the crowd private. -/
theorem Private.step (isPrivate : crowd.Private) (i : ι) :
    (crowd.step i).site = crowd.site ∧ (crowd.step i).Private := by
  obtain ⟨site, rest⟩ := Strand.step_private (isPrivate i)
  refine ⟨site, fun j => ?_⟩
  rw [show (crowd.step i).site = crowd.site from site]
  rcases eq_or_ne j i with rfl | other
  · rwa [strands_step_self]
  · rw [strands_step_of_ne other]
    exact isPrivate j

/-- **Private strands do not see each other**: however their steps are mixed, the site stays as it
is, and each has come as far as alone with as many steps. -/
theorem run_apart : ∀ {crowd : Crowd ι} (schedule : List ι), crowd.Private →
    (crowd.run schedule).site = crowd.site ∧ ∀ i, (crowd.run schedule).strands i =
      (Strand.goOn crowd.site)^[schedule.count i] (crowd.strands i)
  | _, [], _ => ⟨rfl, fun _ => rfl⟩
  | crowd, j :: rest, isPrivate => by
    -- the rest of the schedule finds the same site, and all strands but one as they were
    obtain ⟨site, isPrivate'⟩ := isPrivate.step j
    obtain ⟨site', strands⟩ := run_apart rest isPrivate'
    rw [site] at site' strands
    refine ⟨site', fun i => (strands i).trans ?_⟩
    rcases eq_or_ne i j with rfl | other
    · rw [strands_step_self, List.count_cons_self, Function.iterate_succ_apply]
    · rw [strands_step_of_ne other, List.count_cons_of_ne other.symm]

/-- **Requests do not see each other**, if the scripts that listen are discreet and each request has
a context of its own. However their steps are mixed, the site stays as it is, and each request has
come as far as it would have come alone with as many steps. There is a number of steps after which
it is done, and not before. Then it has the result of the request that is handled alone, and keeps
what that leaves: the identity, the event with its outcomes and parameters, the trace with all
questions, and the history with all stages. With scripts that act as they say, this is the request
of the pipeline. -/
theorem handle_apart (cast : Script → Conduct) (guarded : Guarded) {site : Site}
    (discreet : site.Discreet cast) (contexts : ι → IdentityContext) (requests : ι → Incoming) :
    let crowd := handling cast guarded site contexts requests
    (∀ schedule, (crowd.run schedule).site = site) ∧
      ∀ i : ι, let starts : Watched := { scene := { site := { site with context := contexts i } } }
        let alone := settle (Watch.handle cast guarded (requests i)) starts
        (∃ steps, ∀ schedule, let strand := (crowd.run schedule).strands i
          strand = (Strand.goOn site)^[schedule.count i] (crowd.strands i) ∧
            (strand.task.result? = none ↔ schedule.count i < steps) ∧
            (steps ≤ schedule.count i → strand = .keeping alone.2 (.done alone.1))) ∧
          Watch.Mirrors (Watch.handle .ofScript guarded (requests i))
            (guarded.handle (requests i)) := by
  intro crowd
  have performs (i : ι) := Task.performs_handle discreet guarded (requests i)
  have isPrivate : crowd.Private := fun i => (performs i).isPrivate
  refine ⟨fun schedule => (run_apart schedule isPrivate).1,
    fun i => ⟨?_, Watch.mirrors_handle guarded _⟩⟩
  let seen : Watched := { scene := { site := { site with context := contexts i } } }
  have shares : seen.Shares site := rfl
  refine ⟨(Task.handle cast guarded (requests i)).length seen, fun schedule => ?_⟩
  have isStrand := (run_apart schedule isPrivate).2 i
  have alone := Strand.iterate_goOn (schedule.count i) (performs i).isPrivate shares
  rw [(performs i).finishes seen shares] at alone
  dsimp only
  rw [isStrand]
  exact ⟨rfl, alone⟩

/-- An admin and a guest ask at the same time for a page that only an admin may have, and a script
listens when one of them is let pass. -/
theorem handle_apart_admin :
    let pages : Guard := .ofRules .controller [⟨["pages"], [none], [], ["admin"], none⟩]
    let script : Script := .of "seen" [.setParam "seen" (.bool true)] .null
    let guards : Bus Handler := (Bus.attach {} Stage.route.name (.guard 0) (.int 0)).2
    let site : Site :=
      { buses := ⟨1, fun _ => (guards.attach Stage.dispatch.name (.script script) (.int 0)).2⟩
        guards := ⟨1, fun _ => { guard := pages, authority := some 0 }⟩
        authorities := ⟨1, fun _ => .service 0 (Blueprint.buildService { guards := [pages] } []).2⟩
        providers := ⟨1, fun _ => .ofContext "guest"⟩ }
    let guarded : Guarded :=
      { app := ⟨[.endpoint "/page" ["GET"] (some "page") ⟨"show", "pages", .returns .null⟩]⟩
        bus := 0
        authority := 0
        provider := 0
        identify := some fun request =>
          (lookupField "user" request.headers).map fun user => ⟨user, ["admin"]⟩
        renderer := Page.toJson }
    let requests : Bool → Incoming := fun admin =>
      { method := "GET", path := "/page", headers := if admin then [("user", "ada")] else [] }
    let mixed : List Bool := (List.replicate 22 [true, false]).flatten
    site.Discreet .ofScript ∧ ∀ admin, ∃ reply,
      (((handling .ofScript guarded site (fun _ => {}) requests).run mixed).strands admin).task =
          .done (.ok reply) ∧
        (settle (guarded.handle (requests admin)) { site }).1 = .ok reply ∧
        (reply.status == if admin then .int 200 else .int 403) = true := by
  intro pages script guards site guarded requests mixed
  have discreet : site.Discreet .ofScript := by
    intro bus subscription mem attached isScript
    rcases List.mem_append.1 mem with isGuard | isLast
    · rw [List.mem_singleton.1 isGuard] at isScript
      cases isScript
    · rw [List.mem_singleton.1 isLast] at isScript
      cases isScript
      refine Conduct.discreet_ofScript fun action mem => ?_
      rw [List.mem_singleton.1 mem]
      rfl
  refine ⟨discreet, fun admin => ?_⟩
  obtain ⟨-, apart⟩ := handle_apart .ofScript guarded discreet (fun _ => {}) requests
  obtain ⟨⟨steps, alike⟩, mirrors⟩ := apart admin
  obtain ⟨-, isOpen, ended⟩ := alike mixed
  have finished : (((handling .ofScript guarded site (fun _ => {}) requests).run
      mixed).strands admin).task.result?.isSome = true := by
    cases admin <;> decide +kernel
  have isDone := ended (not_lt.1 fun less => Option.isSome_iff_ne_none.1 finished (isOpen.2 less))
  have answered : (settle (guarded.handle (requests admin)) { site }).1.toOption.any
      (·.status == if admin then .int 200 else .int 403) = true := by
    cases admin <;> decide +kernel
  have same := congrArg Prod.fst (mirrors { scene := { site } })
  cases replied : (settle (guarded.handle (requests admin)) { site }).1 with
  | error failure =>
    rw [replied] at answered
    cases answered
  | ok reply =>
    rw [replied] at answered
    refine ⟨reply, ?_, rfl, answered⟩
    rw [isDone]
    exact congrArg Task.done (same.trans replied)

end Crowd

end Web

end GuardedDispatch
