import GuardedDispatch.Proofs.Dispatch.Conduct
import Mathlib.Data.List.Chain

/-! # How outcomes move

In a watched run the history tells how the outcome of each guard got where it is: it starts from
the outcome before the run, and its moves are a **course** along the edges (`Watched.course`). What
is announced was moved before (`Watched.Coherent`). Every step keeps this, wherever listeners
trigger stages inside each other and whatever fails.

* **`Watch.outcome_moves_once`**: whatever listeners and callers do, no edge is taken twice, and the
  guards of one id announce a denial at most once. -/

namespace GuardedDispatch

/-- The outcome that a guard moved to, if this is what happened. -/
def Happening.movedTo? (guard : String) : Happening → Option Outcome
  | .moved other outcome => if other = guard then some outcome else none
  | _ => none

/-- The **moves** of a guard's outcome in a history. -/
def movesOf (guard : String) (history : List Happening) : List Outcome :=
  history.filterMap (·.movedTo? guard)

/-- The **course** of a guard's outcome: where it started, and where it moved. -/
def Watched.course (watched : Watched) (start : Outcome) (guard : String) : List Outcome :=
  start :: movesOf guard watched.history

theorem movesOf_append (guard : String) (history happenings : List Happening) :
    movesOf guard (history ++ happenings) = movesOf guard history ++ movesOf guard happenings :=
  List.filterMap_append

/-- Where the outcome did not move there are no moves. -/
theorem movesOf_eq_nil {guard : String} {happenings : List Happening}
    (still : ∀ happening ∈ happenings, happening.movedTo? guard = none) :
    movesOf guard happenings = [] :=
  List.filterMap_eq_nil_iff.2 still

theorem movesOf_moved (guard : String) (target : Outcome) :
    movesOf guard [.moved guard target] = [target] := by
  simp [movesOf, Happening.movedTo?]

namespace Outcome

/-- There are no edges behind the second one. -/
theorem depth_le (outcome : Outcome) : outcome.depth ≤ 2 := by
  cases outcome <;> decide

/-- **A course along the edges** is a part of one of the two that lead from unchecked to an end. -/
theorem infix_of_isChain {start : Outcome} : ∀ {moves : List Outcome},
    (start :: moves).IsChain (fun before after => before.precedes after = true) →
      (start :: moves) <:+: [.unchecked, .allowed] ∨
        (start :: moves) <:+: [.unchecked, .denied, .errorTriggered]
  | [], _ => by cases start <;> decide
  | [first], chain => by
    have edge := (List.isChain_cons_cons.1 chain).1
    revert edge
    cases start <;> cases first <;> decide
  | [first, second], chain => by
    obtain ⟨edge, chain⟩ := List.isChain_cons_cons.1 chain
    have edge' := (List.isChain_cons_cons.1 chain).1
    revert edge edge'
    cases start <;> cases first <;> cases second <;> decide
  | first :: second :: third :: _, chain => by
    -- three edges would lead too far
    obtain ⟨edge, chain⟩ := List.isChain_cons_cons.1 chain
    obtain ⟨edge', chain⟩ := List.isChain_cons_cons.1 chain
    obtain ⟨edge'', -⟩ := List.isChain_cons_cons.1 chain
    have := depth_lt_of_precedes edge
    have := depth_lt_of_precedes edge'
    have := depth_lt_of_precedes edge''
    have := third.depth_le
    omega

/-- A course along the edges announces at most one denial. -/
theorem count_errorTriggered_le {start : Outcome} {moves : List Outcome}
    (chain : (start :: moves).IsChain fun before after => before.precedes after = true) :
    moves.count .errorTriggered ≤ 1 := by
  have whole : (start :: moves).count .errorTriggered ≤ 1 := by
    rcases infix_of_isChain chain with part | part
    · exact (part.sublist.count_le _).trans (by decide)
    · exact (part.sublist.count_le _).trans (by decide)
  exact (List.count_le_count_cons).trans whole

end Outcome

/-- A history that is **coherent** about a guard: its moves lead along the edges from the start to
the outcome of the scene, and no denial was announced without one. -/
structure Watched.Coherent (start : Outcome) (guard : String) (watched : Watched) : Prop where
  chain : (watched.course start guard).IsChain fun before after => before.precedes after = true
  last : (watched.course start guard).getLast? = some (watched.scene.event.outcome guard)
  announced : watched.history.count (.announced guard) ≤
    (movesOf guard watched.history).count .errorTriggered

namespace Watched

variable {start : Outcome} {guard : String} {scene : Scene} {history : List Happening}

/-- Before anything happens, a history is coherent. -/
theorem coherent_nil (scene : Scene) (guard : String) :
    Coherent (scene.event.outcome guard) guard ⟨scene, []⟩ where
  chain := List.isChain_singleton _
  last := rfl
  announced := Nat.le_refl _

/-- A coherent history stays so in scenes where the guard has the same outcome. -/
theorem Coherent.of_same {after : Scene} (coherent : Coherent start guard ⟨scene, history⟩)
    (same : after.event.outcome guard = scene.event.outcome guard) :
    Coherent start guard ⟨after, history⟩ where
  chain := coherent.chain
  last := coherent.last.trans (congrArg some same.symm)
  announced := coherent.announced

/-- Without a move, a history stays coherent as long as there are not too many announcements. -/
theorem Coherent.record (coherent : Coherent start guard ⟨scene, history⟩)
    {happenings : List Happening}
    (still : ∀ happening ∈ happenings, happening.movedTo? guard = none)
    (few : (history ++ happenings).count (.announced guard) ≤
      (movesOf guard history).count .errorTriggered) :
    Coherent start guard ⟨scene, history ++ happenings⟩ := by
  have moves : movesOf guard (history ++ happenings) = movesOf guard history := by
    rw [movesOf_append, movesOf_eq_nil still, List.append_nil]
  have course : course ⟨scene, history ++ happenings⟩ start guard =
      course ⟨scene, history⟩ start guard := congrArg (start :: ·) moves
  refine ⟨?_, ?_, ?_⟩
  · rw [course]
    exact coherent.chain
  · rw [course]
    exact coherent.last
  · show _ ≤ (movesOf guard (history ++ happenings)).count _
    rw [moves]
    exact few

/-- What is no move and announces nothing leaves a history coherent. -/
theorem Coherent.quiet (coherent : Coherent start guard ⟨scene, history⟩)
    {happenings : List Happening} (quiet : ∀ happening ∈ happenings,
      happening.movedTo? guard = none ∧ happening ≠ .announced guard) :
    Coherent start guard ⟨scene, history ++ happenings⟩ := by
  refine coherent.record (fun happening mem => (quiet happening mem).1) ?_
  rw [List.count_append, List.count_eq_zero.2 fun mem => (quiet _ mem).2 rfl]
  exact coherent.announced

/-- **A move** along an edge leaves a history coherent, whatever it does beside. -/
theorem Coherent.move (coherent : Coherent start guard ⟨scene, history⟩) {other : String}
    {target : Outcome} {event : Event} (moved : scene.event.transition other target = .ok event)
    {after : Scene} (same : after.event.outcomes = event.outcomes) :
    Coherent start guard ⟨after, history ++ [.moved other target]⟩ := by
  have reaches : after.event.outcome guard = event.outcome guard := by
    rw [Event.outcome, same, Event.outcome]
  by_cases own : other = guard
  · subst own
    have edge : (scene.event.outcome other).precedes target = true := by
      unfold Event.transition at moved
      split at moved
      · assumption
      · cases moved
    -- the course goes on by one edge
    have moves : movesOf other (history ++ [.moved other target]) =
        movesOf other history ++ [target] := by
      rw [movesOf_append, movesOf_moved]
    have course : course ⟨after, history ++ [.moved other target]⟩ start other =
        course ⟨scene, history⟩ start other ++ [target] := congrArg (start :: ·) moves
    refine ⟨?_, ?_, ?_⟩
    · rw [course, List.isChain_append]
      refine ⟨coherent.chain, List.isChain_singleton _, ?_⟩
      intro before last next isNext
      cases coherent.last.symm.trans last
      cases isNext
      exact edge
    · rw [course, List.getLast?_concat]
      exact congrArg some (reaches.trans (Event.outcome_of_transition moved)).symm
    · have few := coherent.announced
      show List.count _ (history ++ [Happening.moved other target]) ≤ List.count _ (movesOf _ _)
      rw [moves, List.count_append, List.count_append]
      exact Nat.add_le_add few (Nat.zero_le _)
  · -- the move is none of the guard's
    have quiet : ∀ happening ∈ [Happening.moved other target],
        happening.movedTo? guard = none ∧ happening ≠ .announced guard := by
      simp [Happening.movedTo?, own]
    refine (coherent.quiet quiet).of_same (reaches.trans ?_)
    exact Event.outcome_of_transition_of_ne moved (Ne.symm own)

/-- **A denial** leaves a history coherent: the outcome moves twice before it is announced. -/
theorem Coherent.denial (coherent : Coherent start guard ⟨scene, history⟩) {other : String}
    {denied : Event} (moved : scene.event.transition other .denied = .ok denied)
    {described : Event} (same : described.outcomes = denied.outcomes) {event : Event}
    (moved' : described.transition other .errorTriggered = .ok event) {after : Scene}
    (same' : after.event.outcomes = event.outcomes) :
    Coherent start guard ⟨after, history ++ Watch.denial other⟩ := by
  have halfway : Coherent start guard
      ⟨{ scene with event := described }, history ++ [.moved other .denied]⟩ :=
    coherent.move moved same
  have reached := halfway.move moved' same'
  have announced : history ++ Watch.denial other = (history ++ [.moved other .denied] ++
      [.moved other .errorTriggered]) ++ [.announced other] := by
    simp [Watch.denial]
  rw [announced]
  refine reached.record (by simp [Happening.movedTo?]) ?_
  have few : history.count (.announced guard) ≤ (movesOf guard history).count .errorTriggered :=
    coherent.announced
  simp only [movesOf_append, List.count_append]
  by_cases own : other = guard
  · subst own
    rw [movesOf_moved, movesOf_moved]
    simpa using few
  · have others : ([.announced other] : List Happening).count (.announced guard) = 0 :=
      List.count_eq_zero.2 (by simp [Ne.symm own])
    rw [others]
    have : ([.moved other .denied] : List Happening).count (.announced guard) = 0 := by simp
    have : ([.moved other .errorTriggered] : List Happening).count (.announced guard) = 0 := by simp
    omega

end Watched

/-! ## Runs -/

namespace Watch

variable {start : Outcome} {guardId : String} {again : Trigger} {cast : Script → Conduct}

/-- A run that keeps what is blind to all but the outcomes keeps a history coherent. -/
theorem keeps_plain {α : Type} {run : Run α} (quiet : ∀ {P}, Run.Blind P → Keeps P run) :
    Keeps (Watched.Coherent start guardId) (plain run) := by
  intro watched coherent
  have same : (settle run watched.scene).2.event.outcomes = watched.scene.event.outcomes :=
    quiet ⟨fun eq before => eq.trans before⟩ watched.scene rfl
  refine coherent.of_same ?_
  rw [Event.outcome, same, Event.outcome]

theorem keeps_attempt {α : Type} {P : Watched → Prop} {watch : Watch α} (keeps : Keeps P watch) :
    Keeps P (attempt watch) := keeps

/-- **A move** keeps a history coherent, also where there is no edge. -/
theorem keeps_move (other : String) (target : Outcome) :
    Keeps (Watched.Coherent start guardId) (move other target) := by
  intro watched coherent
  rw [settle_move]
  cases moved : watched.scene.event.transition other target with
  | error failure => exact coherent
  | ok event => exact coherent.move moved rfl

/-- **Following a verdict** that moves the outcome keeps a history coherent, if the error stage
does. -/
theorem coherent_follow
    (nested : ∀ bus stage, Keeps (Watched.Coherent start guardId) (again bus stage))
    {guard : String} {watched : Watched} {verdict : Verdict}
    (coherent : watched.Coherent start guardId)
    (moves : GuardKind.Moves guard watched.scene.event verdict) :
    (settle (follow again guard verdict) watched).2.Coherent start guardId := by
  cases moves with
  | skip => exact coherent
  | allowed moved =>
    refine Watched.Coherent.move coherent moved ?_
    rfl
  | denied moved same moved' =>
    refine Run.keeps_discard (nested _ _) _ (Watched.Coherent.denial coherent moved same moved' ?_)
    rfl
  | unrecorded moved same =>
    refine Watched.Coherent.move coherent moved ?_
    exact same

/-- **A guard** keeps a history coherent, if the error stage does. -/
theorem keeps_guard
    (nested : ∀ bus stage, Keeps (Watched.Coherent start guardId) (again bus stage))
    (ref : GuardRef) : Keeps (Watched.Coherent start guardId) (guard again ref) := by
  intro watched coherent
  let post := watched.scene.site.guards.get ref
  let event := watched.scene.event
  have asked : Watched.Coherent start guardId
      ⟨watched.scene, watched.history ++ post.consultation ref event⟩ := by
    refine Watched.Coherent.quiet coherent fun happening mem => ?_
    unfold GuardPost.consultation at mem
    split at mem
    · rw [List.mem_singleton.1 mem]
      exact ⟨rfl, nofun⟩
    · cases mem
  have moves := Run.ensures_ask (post.guard.kind.ensures_moves
    (post.authority.map watched.scene.site.oracle) event) watched.scene
  rw [Run.settle_ask] at moves
  rw [settle_guard rfl]
  dsimp only
  rcases checked : (post.guard.kind.check (post.authority.map watched.scene.site.oracle)
    event).outcome with ⟨_ | verdict, calls⟩
  · exact asked.of_same rfl
  · rw [checked] at moves
    exact coherent_follow nested (asked.of_same rfl) (moves verdict _ rfl)

/-- **Turning down** keeps a history coherent, if the error stage does. -/
theorem keeps_turnDown
    (nested : ∀ bus stage, Keeps (Watched.Coherent start guardId) (again bus stage))
    (ref : GuardRef) (details : List (String × Value)) (subject : Word) :
    Keeps (Watched.Coherent start guardId) (turnDown again ref details subject) := by
  intro watched coherent
  rw [settle_turnDown]
  dsimp only
  cases denied : (watched.scene.site.guards.get ref).guard.kind.deny watched.scene.event details
      subject with
  | error failure => exact coherent
  | ok verdict => exact coherent_follow nested coherent (GuardKind.moves_of_deny denied)

/-- **Whatever a conduct does** keeps a history coherent, if the triggers inside it do. -/
theorem keeps_play
    (nested : ∀ bus stage, Keeps (Watched.Coherent start guardId) (again bus stage)) :
    ∀ conduct, Keeps (Watched.Coherent start guardId) (play again conduct)
  | .done result => keeps_liftM result
  | .look next =>
    keeps_bind (keeps_plain fun _ _ holds => holds) fun scene => keeps_play nested (next scene)
  | .change _ next =>
    keeps_bind (keeps_plain fun blind => keeps_modify fun _ => blind.blind rfl) fun _ =>
      keeps_play nested next
  | .move guard target next =>
    keeps_bind (keeps_attempt (keeps_move guard target)) fun moved =>
      keeps_play nested (next moved)
  | .check ref next =>
    keeps_bind (keeps_attempt (keeps_guard nested ref)) fun checked =>
      keeps_play nested (next checked)
  | .deny ref details subject next =>
    keeps_bind (keeps_attempt (keeps_turnDown nested ref details subject)) fun denied =>
      keeps_play nested (next denied)
  | .trigger bus stage next =>
    keeps_bind (keeps_attempt (nested bus stage)) fun responses =>
      keeps_play nested (next responses)

/-- **Every listener** keeps a history coherent, whatever scripts stand for. -/
theorem keeps_handler
    (nested : ∀ bus stage, Keeps (Watched.Coherent start guardId) (again bus stage)) :
    ∀ listener, Keeps (Watched.Coherent start guardId) (handler cast again listener)
  | .guard ref => keeps_bind (keeps_guard nested ref) fun _ => keeps_pure _
  | .strategy ref =>
    keeps_bind (keeps_plain fun blind => Run.keeps_strategy blind.grounded ref)
      fun _ => keeps_pure _
  | .script script => keeps_play nested (cast script)
  | .spy authority =>
    keeps_bind (keeps_plain fun blind => Run.keeps_spy blind.grounded authority)
      fun _ => keeps_pure _

/-- Starting a stage keeps a history coherent. -/
theorem keeps_start (bus : BusRef) (stage : Option String) :
    Keeps (Watched.Coherent start guardId) (Watch.start bus stage) := by
  intro watched coherent
  have quiet : ∀ happening ∈ [Happening.started bus (stage.getD watched.scene.event.name)],
      happening.movedTo? guardId = none ∧ happening ≠ .announced guardId := by
    simp [Happening.movedTo?]
  rw [settle_start]
  exact (Watched.Coherent.quiet coherent quiet).of_same rfl

/-- **Every trigger** keeps a history coherent, however deep the triggers nest. -/
theorem keeps_trigger : ∀ (depth : Nat) (bus : BusRef) (stage : Option String),
    Keeps (Watched.Coherent start guardId) (trigger cast depth bus stage)
  | 0, _, _ => keeps_throw _
  | depth + 1, bus, stage => by
    -- listeners may trigger stages of their own, one level less deep
    refine keeps_bind (keeps_start bus stage) fun listeners => ?_
    exact Run.keeps_runListeners (fun subscription =>
      keeps_handler (keeps_trigger depth) subscription.listener)
      (keeps_plain fun _ => keeps_bind Run.keeps_event fun _ => keeps_pure _) listeners

/-- **Outcomes move once.** Whatever listeners and callers do to an event, whatever fails, and
however deep triggers nest: the outcome of a guard moves from unchecked to allowed, or to denied and
then to the announcement of that, each edge once and never back; the guards of one id trigger the
error stage at most once; and where there is no edge, a move fails and changes nothing. With scripts
that act as they say, the triggers and the guards are those of the pipeline. -/
theorem outcome_moves_once (cast : Script → Conduct) (depth : Nat) (conduct : Conduct)
    (scene : Scene) (guard : String) :
    let after := (settle (play (trigger cast depth) conduct) ⟨scene, []⟩).2
    let course := after.course (scene.event.outcome guard) guard
    (course <:+: [.unchecked, .allowed] ∨ course <:+: [.unchecked, .denied, .errorTriggered]) ∧
      course.getLast? = some (after.scene.event.outcome guard) ∧
      after.history.count (.announced guard) ≤ 1 ∧
      (∀ target again scene, (scene.event.outcome guard).precedes target = false →
        settle (Run.action again (.transition guard target)) scene =
          (.error (.transition guard (scene.event.outcome guard) target), scene)) ∧
      (∀ bus stage, Mirrors (trigger .ofScript depth bus stage) (Run.trigger depth bus stage)) ∧
      ∀ ref, Mirrors (Watch.guard (trigger .ofScript depth) ref)
        (Run.guard (Run.trigger depth) ref) := by
  intro after course
  have coherent : after.Coherent (scene.event.outcome guard) guard :=
    keeps_play (keeps_trigger depth) conduct _ (Watched.coherent_nil scene guard)
  refine ⟨Outcome.infix_of_isChain coherent.chain, coherent.last, ?_, ?_, mirrors_trigger depth,
    mirrors_guard (mirrors_trigger depth)⟩
  · exact Nat.le_trans coherent.announced (Outcome.count_errorTriggered_le coherent.chain)
  · intro target again scene illegal
    rw [Run.settle_transition, Event.transition, illegal]
    rfl

end Watch

end GuardedDispatch
