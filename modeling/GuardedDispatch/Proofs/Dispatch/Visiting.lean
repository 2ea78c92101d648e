import GuardedDispatch.Proofs.Dispatch.Stages
import GuardedDispatch.Proofs.Dispatch.Turns

/-! # Whom a trigger visits

A trigger visits the listeners of its stage as they were when it started, up to the first that fails
or leaves the event stopped, whatever these do to the bus and the event in the meantime. To say so,
steps **note** their visits (`Noted`): each with the state from which the listener was invoked, what
came of it, and the state that it left. Noting changes nothing else (`settle_noted_runListeners`).

* **`GoesThrough`**: visits in the order of the listeners, as far as they have to go, and what comes
  of them.
* **`Watch.trigger_goesThrough`**: every trigger goes through the listeners of its stage. -/

namespace GuardedDispatch

variable {σ η α : Type}

/-- A **visit** to a listener. -/
structure Visit (η σ : Type) where
  listener : η
  before : σ
  result : Except Failure Value
  after : σ

/-- A visit after which others may follow: the listener returned, and left no flag. -/
def Visit.GoesOn (stopped : σ → Bool) (visit : Visit η σ) : Prop :=
  (∃ value, visit.result = .ok value) ∧ stopped visit.after = false

/-- Steps that **note** their visits. -/
abbrev Noted (η σ : Type) := ExceptT Failure (StateM (σ × List (Visit η σ)))

namespace Noted

/-- Steps that visit nobody. -/
def plain (steps : ExceptT Failure (StateM σ) α) : Noted η σ α := ExceptT.mk fun noted =>
  ((settle steps noted.1).1, (settle steps noted.1).2, noted.2)

/-- **Visit** a listener. -/
def visit (invoke : η → ExceptT Failure (StateM σ) Value) (listener : η) : Noted η σ Value :=
  ExceptT.mk fun noted =>
    let settled := settle (invoke listener) noted.1
    (settled.1, settled.2, noted.2 ++ [⟨listener, noted.1, settled.1, settled.2⟩])

@[simp] theorem settle_plain (steps : ExceptT Failure (StateM σ) α)
    (noted : σ × List (Visit η σ)) :
    settle (plain steps) noted = ((settle steps noted.1).1, (settle steps noted.1).2, noted.2) :=
  rfl

@[simp] theorem settle_visit (invoke : η → ExceptT Failure (StateM σ) Value) (listener : η)
    (noted : σ × List (Visit η σ)) :
    settle (visit invoke listener) noted =
      let settled := settle (invoke listener) noted.1
      (settled.1, settled.2, noted.2 ++ [⟨listener, noted.1, settled.1, settled.2⟩]) := rfl

end Noted

/-- Visits that **go through** listeners from a state, what comes of them, and the state that they
leave. -/
structure GoesThrough (invoke : η → ExceptT Failure (StateM σ) Value) (stopped : σ → Bool)
    (listeners : List η) (start : σ) (visits : List (Visit η σ))
    (result : Except Failure Responses) (last : σ) : Prop where
  /-- Each visit invokes its listener. -/
  invoked : ∀ visit ∈ visits,
    settle (invoke visit.listener) visit.before = (visit.result, visit.after)
  /-- Each visit starts from the state that the one before it left. -/
  chained : visits.map (·.before) ++ [last] = start :: visits.map (·.after)
  /-- The listeners are visited in order, from the first on. -/
  early : visits.map (·.listener) <+: listeners
  /-- Others follow only after visits that go on. -/
  goesOn : ∀ visit ∈ visits.dropLast, visit.GoesOn stopped
  /-- If not all listeners are visited, it is because the last visit does not go on. -/
  ends : visits.map (·.listener) = listeners ∨
    ∃ visit, visits.getLast? = some visit ∧ ¬ visit.GoesOn stopped
  /-- A failure is that of a listener that was visited. -/
  failed : ∀ failure, result = .error failure ↔ ∃ visit ∈ visits, visit.result = .error failure
  /-- Otherwise the results are those of the visits, and whether there was a stop is whether the
  last visit left the flag. -/
  returned : ∀ responses, result = .ok responses →
    visits.map (·.result) = responses.values.map .ok ∧
      (responses.stopped = true ↔ ∃ visit, visits.getLast? = some visit ∧
        stopped visit.after = true)

section

variable {invoke : η → ExceptT Failure (StateM σ) Value} {stopped : σ → Bool} {listener : η}
  {rest : List η} {start : σ}

/-- Without listeners there is nobody to visit. -/
theorem goesThrough_nil (start : σ) : GoesThrough invoke stopped [] start [] (.ok {}) start where
  invoked _ mem := absurd mem List.not_mem_nil
  chained := rfl
  early := List.prefix_rfl
  goesOn _ mem := absurd mem List.not_mem_nil
  ends := .inl rfl
  failed failure := by simp
  returned := by
    rintro _ ⟨⟩
    simp

/-- A listener that fails is the last one. -/
theorem goesThrough_of_error {failure : Failure} {after : σ}
    (failed : settle (invoke listener) start = (.error failure, after)) :
    GoesThrough invoke stopped (listener :: rest) start [⟨listener, start, .error failure, after⟩]
      (.error failure) after where
  invoked := by simpa using failed
  chained := rfl
  early := ⟨rest, rfl⟩
  goesOn _ mem := absurd mem List.not_mem_nil
  ends := .inr ⟨_, rfl, by rintro ⟨⟨_, ⟨⟩⟩, -⟩⟩
  failed other := by simp
  returned := by rintro _ ⟨⟩

/-- So is a listener that leaves the flag. -/
theorem goesThrough_of_stopped {value : Value} {after : σ}
    (ran : settle (invoke listener) start = (.ok value, after)) (flag : stopped after = true) :
    GoesThrough invoke stopped (listener :: rest) start [⟨listener, start, .ok value, after⟩]
      (.ok ⟨[value], true⟩) after where
  invoked := by simpa using ran
  chained := rfl
  early := ⟨rest, rfl⟩
  goesOn _ mem := absurd mem List.not_mem_nil
  ends := .inr ⟨_, rfl, fun goesOn => by simpa [flag] using goesOn.2⟩
  failed failure := by simp
  returned := by
    rintro _ ⟨⟩
    exact ⟨rfl, iff_of_true rfl ⟨_, rfl, flag⟩⟩

/-- After any other listener, the others are gone through. -/
theorem GoesThrough.cons {value : Value} {after last : σ} {visits : List (Visit η σ)}
    {result : Except Failure Responses} (others : GoesThrough invoke stopped rest after visits
      result last) (ran : settle (invoke listener) start = (.ok value, after))
    (running : stopped after = false) :
    GoesThrough invoke stopped (listener :: rest) start
      (⟨listener, start, .ok value, after⟩ :: visits)
      (result.map fun responses => { responses with values := value :: responses.values })
      last where
  invoked := List.forall_mem_cons.2 ⟨ran, others.invoked⟩
  chained := congrArg (start :: ·) others.chained
  early := (List.prefix_cons_inj listener).2 others.early
  goesOn := by
    cases visits with
    | nil => exact fun _ mem => absurd mem List.not_mem_nil
    | cons next further => exact List.forall_mem_cons.2 ⟨⟨⟨value, rfl⟩, running⟩, others.goesOn⟩
  ends := by
    rcases others.ends with all | ⟨visit, isLast, stops⟩
    · exact .inl (congrArg (listener :: ·) all)
    · exact .inr ⟨visit, by rw [List.getLast?_cons, isLast]; rfl, stops⟩
  failed failure := by
    have inOthers := others.failed failure
    cases result <;> simpa [Except.map] using inOthers
  returned := by
    cases result with
    | error failure => rintro _ ⟨⟩
    | ok responses =>
      obtain ⟨values, flag⟩ := others.returned responses rfl
      rintro _ ⟨⟩
      refine ⟨congrArg (Except.ok value :: ·) values, flag.trans ?_⟩
      -- if this visit is the last one, it left no flag
      cases visits with
      | nil => simp [running]
      | cons next further => simp [List.getLast?_cons]

/-- **Running listeners goes through them**, from the visits that were noted before on. -/
theorem exists_goesThrough (invoke : η → ExceptT Failure (StateM σ) Value)
    {looks : ExceptT Failure (StateM σ) Bool}
    (isLook : ∀ state, settle looks state = (.ok (stopped state), state)) :
    ∀ (listeners : List η) (start : σ) (noted : List (Visit η σ)), ∃ visits result last,
      settle (runListeners (Noted.visit invoke) (Noted.plain looks) listeners) (start, noted) =
        (result, last, noted ++ visits) ∧
      settle (runListeners invoke looks listeners) start = (result, last) ∧
      GoesThrough invoke stopped listeners start visits result last
  | [], start, noted =>
    ⟨[], .ok {}, start, by rw [List.append_nil]; rfl, rfl, goesThrough_nil start⟩
  | listener :: rest, start, noted => by
    rw [runListeners, runListeners, settle_bind, settle_bind, Noted.settle_visit]
    rcases ran : settle (invoke listener) start with ⟨failure | value, after⟩
    · exact ⟨_, _, _, rfl, rfl, goesThrough_of_error ran⟩
    · dsimp only
      rw [settle_bind, settle_bind, Noted.settle_plain, isLook]
      dsimp only
      cases flag : stopped after with
      | true => exact ⟨_, _, _, rfl, rfl, goesThrough_of_stopped ran flag⟩
      | false =>
        let visit : Visit η σ := ⟨listener, start, .ok value, after⟩
        obtain ⟨visits, result, last, eq, eq', others⟩ :=
          exists_goesThrough invoke isLook rest after (noted ++ [visit])
        refine ⟨_, _, _, ?_, ?_, others.cons ran flag⟩
        · simp only [Bool.false_eq_true, if_false]
          rw [settle_bind, eq, List.append_assoc]
          cases result <;> rfl
        · simp only [Bool.false_eq_true, if_false]
          rw [settle_bind, eq']
          cases result <;> rfl

/-! ## Where a flag was left -/

section

variable {listeners : List η} {last : σ} {visits : List (Visit η σ)} {responses : Responses}

/-- Visits from a state without a flag, the others of which go on, all start without a flag. -/
theorem running_of_chained : ∀ {visits : List (Visit η σ)} {start : σ},
    visits.map (·.before) ++ [last] = start :: visits.map (·.after) →
    (∀ visit ∈ visits.dropLast, visit.GoesOn stopped) → stopped start = false →
    ∀ visit ∈ visits, stopped visit.before = false
  | [], _, _, _, _ => fun _ mem => absurd mem List.not_mem_nil
  | [visit], start, chained, _, running => by
    obtain ⟨starts, -⟩ := List.cons.inj chained
    rw [List.forall_mem_singleton]
    exact (congrArg stopped starts).trans running
  | visit :: next :: further, start, chained, goesOn, running => by
    obtain ⟨starts, rest⟩ := List.cons.inj chained
    obtain ⟨goes, others⟩ := List.forall_mem_cons.1 goesOn
    refine List.forall_mem_cons.2 ⟨(congrArg stopped starts).trans running, ?_⟩
    exact running_of_chained rest others goes.2

/-- If nobody had left the flag before the first visit, nobody has before any other. -/
theorem GoesThrough.before_running {result : Except Failure Responses}
    (through : GoesThrough invoke stopped listeners start visits result last)
    (running : stopped start = false) : ∀ visit ∈ visits, stopped visit.before = false :=
  running_of_chained through.chained through.goesOn running

variable (through : GoesThrough invoke stopped listeners start visits (.ok responses) last)

include through

/-- If all went well, each visit did. -/
theorem GoesThrough.exists_value {visit : Visit η σ} (mem : visit ∈ visits) :
    ∃ value, visit.result = .ok value := by
  have result : visit.result ∈ responses.values.map Except.ok := by
    rw [← (through.returned responses rfl).1]
    exact List.mem_map_of_mem mem
  obtain ⟨value, -, eq⟩ := List.mem_map.1 result
  exact ⟨value, eq.symm⟩

/-- **There was a stop** iff some visit left the flag. -/
theorem GoesThrough.stopped_iff :
    responses.stopped = true ↔ ∃ visit ∈ visits, stopped visit.after = true := by
  rw [(through.returned responses rfl).2]
  have goesOn := through.goesOn
  rcases List.eq_nil_or_concat visits with rfl | ⟨early, visit, rfl⟩
  · simp
  · -- only the last visit can have left the flag, as the others went on
    rw [List.concat_eq_append, List.dropLast_concat] at goesOn
    rw [List.concat_eq_append, List.getLast?_concat]
    constructor
    · rintro ⟨_, ⟨⟩, flag⟩
      exact ⟨visit, List.mem_concat_self, flag⟩
    · rintro ⟨other, mem, flag⟩
      rcases List.mem_append.1 mem with isEarly | isLast
      · cases flag.symm.trans (goesOn other isEarly).2
      · cases List.mem_singleton.1 isLast
        exact ⟨_, rfl, flag⟩

/-- **All listeners are visited** if no visit leaves the flag. -/
theorem GoesThrough.visits_all (running : ∀ visit ∈ visits, stopped visit.after = false) :
    visits.map (·.listener) = listeners := by
  rcases through.ends with all | ⟨visit, isLast, stops⟩
  · exact all
  · have mem := List.mem_of_getLast? isLast
    exact absurd ⟨through.exists_value mem, running visit mem⟩ stops

/-- The flag that is there in the end is whether there was a stop. -/
theorem GoesThrough.stopped_last (running : stopped start = false) :
    stopped last = responses.stopped := by
  have ends := congrArg List.getLast? through.chained
  rw [List.getLast?_concat, List.getLast?_cons, List.getLast?_map] at ends
  have flag := (through.returned responses rfl).2
  rw [Bool.eq_iff_iff, flag]
  cases isLast : visits.getLast? with
  | none =>
    rw [isLast] at ends
    cases ends
    simp [running]
  | some visit =>
    rw [isLast] at ends
    cases ends
    simp

end

end

namespace Watch

/-- Trigger a stage, and note whom this trigger visits itself. -/
def visiting (cast : Script → Conduct) (depth : Nat) (bus : BusRef) (stage : Option String) :
    Noted (Subscription Handler) Watched Responses := do
  let listeners ← Noted.plain (start bus stage)
  runListeners
    (Noted.visit fun subscription => handler cast (trigger cast depth) subscription.listener)
    (Noted.plain (plain Run.isStopped)) listeners

section

variable {cast : Script → Conduct} {depth : Nat} {bus : BusRef} {stage : Option String}
  {watched : Watched}

/-- Where the listeners of a stage have no order, a trigger fails and visits nobody. -/
theorem settle_visiting_of_error {failure : Failure}
    (listed : (watched.scene.site.buses.get bus).listeners
      (stage.getD watched.scene.event.name) = .error failure) :
    let opened := watched.opened bus (stage.getD watched.scene.event.name)
    settle (visiting cast depth bus stage) (watched, []) = (.error failure, opened, []) ∧
      settle (trigger cast (depth + 1) bus stage) watched = (.error failure, opened) := by
  intro opened
  have starts : settle (start bus stage) watched = (.error failure, opened) := by
    rw [← listed]
    exact settle_start bus stage watched
  refine ⟨settle_bind_of_error ?_ _, settle_bind_of_error starts _⟩
  rw [Noted.settle_plain, starts]

/-- Otherwise it goes through them. -/
theorem goesThrough_visiting {order : List (Subscription Handler)}
    (listed : (watched.scene.site.buses.get bus).listeners
      (stage.getD watched.scene.event.name) = .ok order) :
    let noted := settle (visiting cast depth bus stage) (watched, [])
    settle (trigger cast (depth + 1) bus stage) watched = (noted.1, noted.2.1) ∧
      GoesThrough (fun subscription => handler cast (trigger cast depth) subscription.listener)
        (·.scene.event.stopped) order
        (watched.opened bus (stage.getD watched.scene.event.name)) noted.2.2 noted.1 noted.2.1 := by
  intro noted
  let opened := watched.opened bus (stage.getD watched.scene.event.name)
  have starts : settle (start bus stage) watched = (.ok order, opened) := by
    rw [← listed]
    exact settle_start bus stage watched
  have isLook : ∀ watched : Watched, settle (plain Run.isStopped) watched =
      (.ok watched.scene.event.stopped, watched) := fun _ => rfl
  obtain ⟨visits, result, last, eq, eq', through⟩ := exists_goesThrough
    (fun subscription => handler cast (trigger cast depth) subscription.listener) isLook order
    opened []
  have isNoted : noted = (result, last, visits) := by
    refine Eq.trans (settle_bind_of_ok ?_ _) eq
    rw [Noted.settle_plain, starts]
  rw [isNoted]
  exact ⟨(settle_bind_of_ok starts _).trans eq', through⟩

end

/-- **A trigger goes through a snapshot.** It visits the listeners that its stage had when it
started, in their order, up to the first that fails or leaves the event stopped. Whatever listeners
of any conduct do to the bus and the event, and whatever the flag was before, it has no other
influence on whom it visits and on what it returns. Where the listeners have no order, nobody is
visited and the trigger fails. With scripts that act as they say, this is the trigger of the
pipeline. -/
theorem trigger_goesThrough (cast : Script → Conduct) (depth : Nat) (bus : BusRef)
    (stage : Option String) (watched : Watched) :
    let name := stage.getD watched.scene.event.name
    let opened := watched.opened bus name
    let noted := settle (visiting cast depth bus stage) (watched, [])
    settle (trigger cast (depth + 1) bus stage) watched = (noted.1, noted.2.1) ∧
      (match (watched.scene.site.buses.get bus).listeners name with
      | .error failure => noted = (.error failure, opened, [])
      | .ok order =>
        GoesThrough (fun subscription => handler cast (trigger cast depth) subscription.listener)
          (·.scene.event.stopped) order opened noted.2.2 noted.1 noted.2.1) ∧
      Mirrors (trigger .ofScript (depth + 1) bus stage) (Run.trigger (depth + 1) bus stage) := by
  intro name opened noted
  cases listed : (watched.scene.site.buses.get bus).listeners name with
  | error failure =>
    obtain ⟨isNoted, settled⟩ := settle_visiting_of_error listed
    refine ⟨?_, isNoted, mirrors_trigger (depth + 1) bus stage⟩
    rw [show noted = _ from isNoted]
    exact settled
  | ok order =>
    obtain ⟨settled, through⟩ := goesThrough_visiting listed
    exact ⟨settled, through, mirrors_trigger (depth + 1) bus stage⟩

end Watch

end GuardedDispatch
