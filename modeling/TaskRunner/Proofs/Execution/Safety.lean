import Mathlib.Data.List.InsertIdx
import Mathlib.Data.List.Nodup
import Mathlib.Data.List.Perm.Subperm
import TaskRunner.Proofs.Execution.Brief
import TaskRunner.Proofs.Plan.Order
/- # TaskRunner.Proofs.Execution.Safety -- what no run does, in any order

The waiting entries, the states in the ledger and the recipes in flight tell the same story in every
state of a run: what waits is pending and stands in the order of the plan, and the running entries
are those in flight, each once, and not more of them than there are jobs (`Run.Consistent`).  A
recipe that has crashed is in flight until it is joined, and its entry runs on after that, to the end
of the run; nothing starts any more then.  Every move keeps all that, so every run keeps it
(`consistent_of_reaches`).

From it follow the rules of the life of an entry.  `Advance` lists the ways in which its state can
change in one turn, and `Move.departure` says that it leaves the pending state only when all of its
prerequisites unblock it, and that the verdict on it settles its next state. -/

namespace TaskRunner
set_option autoImplicit false

/-- How the state of an entry can change in one turn. -/
inductive Advance (registry : Registry) (name : String) : TargetState → TargetState → Prop where
  | stay (state : TargetState) : Advance registry name state state
  | skip : Advance registry name .pending .skipped
  /-- Only an entry without a recipe is done at once. -/
  | complete {target : Target} (found : registry.get? name = some target)
      (empty : target.recipe = []) : Advance registry name .pending .succeeded
  | launch {target : Target} (found : registry.get? name = some target)
      (nonempty : target.recipe ≠ []) : Advance registry name .pending .running
  | succeed : Advance registry name .running .succeeded
  | fail : Advance registry name .running .failed

/-- How a ready entry leaves the pending state, by the verdict on its target. -/
inductive Departure (registry : Registry) (times : FileTimes) (target : Target) :
    TargetState → Prop where
  | skip (fresh : (Staleness.check registry times [] target).isDue = false) :
      Departure registry times target .skipped
  | complete (due : (Staleness.check registry times [] target).isDue = true)
      (empty : target.recipe = []) : Departure registry times target .succeeded
  | launch (due : (Staleness.check registry times [] target).isDue = true)
      (nonempty : target.recipe ≠ []) : Departure registry times target .running

theorem Advance.of_terminal {registry : Registry} {name : String} {before after : TargetState}
    (advance : Advance registry name before after) (terminal : before.isTerminal = true) :
    after = before := by
  cases advance <;> first | rfl | cases terminal

theorem Advance.ne_pending {registry : Registry} {name : String} {before after : TargetState}
    (advance : Advance registry name before after) (left : before ≠ .pending) :
    after ≠ .pending := by
  cases advance <;> first | exact left | exact absurd rfl left | simp

/-- An entry that is pending or skipped has always been. -/
theorem Advance.of_idle {registry : Registry} {name : String} {before after : TargetState}
    (advance : Advance registry name before after) (idle : after = .pending ∨ after = .skipped) :
    before = .pending ∨ before = .skipped := by
  cases advance with
  | stay => exact idle
  | skip | complete | launch => exact .inl rfl
  | succeed | fail => simp at idle

namespace Run

/-- The targets whose recipes are in flight. -/
def inFlight (run : Run) : List String := run.flights.map (·.target)

/-- Whether the run was given up at once, for an entry that is not declared, which drops what was in
flight. -/
def Abandoned (scheduler : Scheduler) (plan : Plan) (run : Run) : Prop :=
  run.flights = [] ∧ run.halted = true ∧ ∃ name ∈ plan.targets,
    scheduler.registry.get? name = none ∧ run.error = some (.unknownTarget name)

theorem waiting_of_front {run : Run} {name : String} {ahead : List String}
    (front : run.ahead = name :: ahead) :
    run.waiting = run.passed.reverse ++ name :: ahead := by
  rw [waiting, front]

/-- What waits is the entry in front, or waits beside it. -/
theorem mem_waiting_of_front {run : Run} {name other : String} {ahead : List String}
    (front : run.ahead = name :: ahead) :
    other ∈ run.waiting ↔ other = name ∨ other ∈ run.passed.reverse ++ ahead := by
  rw [waiting_of_front front, List.mem_append, List.mem_cons, List.mem_append]
  tauto

@[simp] theorem waiting_rescan (run : Run) (names : List String) :
    (run.rescan names).waiting = names := by
  simp [waiting, rescan]

section Join

variable (scheduler : Scheduler) (run : Run) (i : Nat) (name : String)
  (failure : Option TargetFailure)

@[simp] theorem waiting_join : (scheduler.join run i name failure).waiting = run.waiting :=
  waiting_rescan run run.waiting

@[simp] theorem ledger_join :
    (scheduler.join run i name failure).ledger = run.ledger.finish name failure := rfl

@[simp] theorem halted_join :
    (scheduler.join run i name failure).halted =
      (run.halted || (failure.isSome && !scheduler.options.keepGoing)) := rfl

end Join

section Lose

variable (run : Run) (i : Nat) (error : String)

@[simp] theorem waiting_lose : (Scheduler.lose run i error).waiting = run.waiting :=
  waiting_rescan run run.waiting

@[simp] theorem ledger_lose : (Scheduler.lose run i error).ledger = run.ledger := rfl

@[simp] theorem inFlight_lose :
    (Scheduler.lose run i error).inFlight = run.inFlight.eraseIdx i :=
  (List.eraseIdx_map _ _ _).symm

end Lose

/-! ## Names in flight -/

theorem mem_inFlight_of_getElem? {run : Run} {i : Nat} {flight : Flight}
    (found : run.flights[i]? = some flight) : flight.target ∈ run.inFlight :=
  List.mem_map_of_mem (List.mem_of_getElem? found)

/-- A recipe that goes on is in flight under the same name as before. -/
theorem inFlight_setProgress {run : Run} {i : Nat} {flight : Flight} (progress : Progress)
    (found : run.flights[i]? = some flight) :
    (Scheduler.setProgress run i flight progress).inFlight = run.inFlight := by
  obtain ⟨inside, same⟩ := List.getElem?_eq_some_iff.1 found
  have inside : i < run.inFlight.length := by simpa [inFlight] using inside
  have named : run.inFlight[i] = flight.target := by simp [inFlight, same]
  change (run.flights.set i { flight with progress }).map (·.target) = run.inFlight
  rw [List.map_set, ← named]
  exact List.set_getElem_self inside

theorem inFlight_join (scheduler : Scheduler) (run : Run) (i : Nat) (name : String)
    (failure : Option TargetFailure) :
    (scheduler.join run i name failure).inFlight = run.inFlight.eraseIdx i :=
  (List.eraseIdx_map _ _ _).symm

/-- Joining a recipe takes its name, and no other, out of flight. -/
theorem mem_eraseIdx_inFlight {run : Run} {i : Nat} {flight : Flight}
    (distinct : run.inFlight.Nodup) (found : run.flights[i]? = some flight) (name : String) :
    name ∈ run.inFlight.eraseIdx i ↔ name ≠ flight.target ∧ name ∈ run.inFlight := by
  obtain ⟨inside, same⟩ := List.getElem?_eq_some_iff.1 found
  have inside : i < run.inFlight.length := by simpa [inFlight] using inside
  have named : run.inFlight[i] = flight.target := by simp [inFlight, same]
  rw [← distinct.erase_getElem i inside, distinct.mem_erase_iff, named]

/-! ## The story told -/

/-- What the parts of a run have to say about one another. -/
structure Consistent (scheduler : Scheduler) (plan : Plan) (run : Run) : Prop where
  /-- What waits stands in the order of the plan. -/
  waiting_sublist : run.waiting.Sublist plan.targets
  pending_of_waiting : ∀ name ∈ run.waiting, run.ledger.state name = .pending
  planned : ∀ name, run.ledger.state name ≠ .pending → name ∈ plan.targets
  running_of_inFlight : ∀ name ∈ run.inFlight, run.ledger.state name = .running
  inFlight_of_running : run.crash = none → ∀ name, run.ledger.state name = .running →
    name ∈ run.inFlight
  inFlight_nodup : run.inFlight.Nodup
  running_le : ∀ names : List String, names.Nodup →
    (∀ name ∈ names, run.ledger.state name = .running) → names.length ≤ scheduler.jobs
  halted_of_failures : run.ledger.failures ≠ [] → scheduler.options.keepGoing = false →
    run.halted = true
  /-- A crash halts the run, and the entry of the recipe goes on running. -/
  of_crash : run.crash ≠ none →
    run.halted = true ∧ ∃ name, run.ledger.state name = .running ∧ name ∉ run.inFlight

theorem consistent_start (scheduler : Scheduler) (plan : Plan) :
    (start plan).Consistent scheduler plan where
  waiting_sublist := by simp [waiting, start]
  pending_of_waiting := fun name _ => Ledger.state_empty name
  planned := fun name left => absurd (Ledger.state_empty name) left
  running_of_inFlight := fun name member => absurd member List.not_mem_nil
  inFlight_of_running := fun _ name running => by simp [start] at running
  inFlight_nodup := by simp [start, inFlight]
  running_le := by
    intro names distinct running
    cases names with
    | nil => exact Nat.zero_le _
    | cons name rest => simpa [start] using running name List.mem_cons_self
  halted_of_failures := fun failed => absurd rfl failed
  of_crash := fun crashed => absurd rfl crashed

namespace Consistent

open Scheduler (canScan)

variable {scheduler : Scheduler} {plan : Plan} {run : Run}

theorem waiting_nodup (consistent : run.Consistent scheduler plan)
    (distinct : plan.targets.Nodup) : run.waiting.Nodup :=
  consistent.waiting_sublist.nodup distinct

theorem mem_of_front (consistent : run.Consistent scheduler plan) {name : String}
    {ahead : List String} (front : run.ahead = name :: ahead) : name ∈ plan.targets :=
  consistent.waiting_sublist.subset ((mem_waiting_of_front front).2 (.inl rfl))

theorem pending_of_front (consistent : run.Consistent scheduler plan) {name : String}
    {ahead : List String} (front : run.ahead = name :: ahead) :
    run.ledger.state name = .pending :=
  consistent.pending_of_waiting name ((mem_waiting_of_front front).2 (.inl rfl))

theorem flights_le (consistent : run.Consistent scheduler plan) :
    run.flights.length ≤ scheduler.jobs := by
  simpa [inFlight] using
    consistent.running_le run.inFlight consistent.inFlight_nodup consistent.running_of_inFlight

/-- A run that goes on has not learnt of a crash. -/
theorem crash_of_scan (consistent : run.Consistent scheduler plan)
    (scans : canScan scheduler run = true) : run.crash = none := by
  by_contra crashed
  simp [canScan, (consistent.of_crash crashed).1] at scans

/-- What is known of the entry in front, and of the entries that wait beside it. -/
theorem front (consistent : run.Consistent scheduler plan) (distinct : plan.targets.Nodup)
    {name : String} {ahead : List String} (front : run.ahead = name :: ahead) :
    run.ledger.state name = .pending ∧ name ∉ run.passed.reverse ++ ahead ∧
      (run.passed.reverse ++ ahead).Sublist run.waiting := by
  have waiting := waiting_of_front front
  refine ⟨consistent.pending_of_front front, ?_, ?_⟩
  · have nodup := consistent.waiting_nodup distinct
    rw [waiting, List.nodup_middle, List.nodup_cons] at nodup
    exact nodup.1
  · rw [waiting]
    exact (List.Sublist.refl _).append (List.sublist_cons_self name ahead)

/-- An entry that was passed stands before the entry in front. -/
theorem stands_of_passed (consistent : run.Consistent scheduler plan) {name other : String}
    {ahead : List String} (front : run.ahead = name :: ahead) (passed : other ∈ run.passed) :
    [other, name].Sublist plan.targets := by
  refine List.Sublist.trans ?_ consistent.waiting_sublist
  rw [waiting_of_front front]
  exact (List.singleton_sublist.2 (List.mem_reverse.2 passed)).append
    (List.singleton_sublist.2 List.mem_cons_self)

/-- An entry that was not looked at stands behind the entry in front. -/
theorem stands_of_ahead (consistent : run.Consistent scheduler plan) {name other : String}
    {ahead : List String} (front : run.ahead = name :: ahead) (behind : other ∈ ahead) :
    [name, other].Sublist plan.targets := by
  refine List.Sublist.trans ?_ consistent.waiting_sublist
  rw [waiting_of_front front]
  exact ((List.singleton_sublist.2 behind).cons_cons name).trans (List.sublist_append_right _ _)

/-- An entry that stops waiting, and is not started, leaves the run consistent. -/
theorem settle (consistent : run.Consistent scheduler plan) (distinct : plan.targets.Nodup)
    {next : Run} {name : String} {ahead : List String} {state : TargetState}
    (front : run.ahead = name :: ahead) (idle : state ≠ .running)
    (waiting : next.waiting = run.passed.reverse ++ ahead)
    (ledger : next.ledger = run.ledger.setState name state)
    (flights : next.flights = run.flights) (halted : next.halted = run.halted)
    (crash : next.crash = run.crash) : next.Consistent scheduler plan := by
  obtain ⟨pending, absent, sublist⟩ := consistent.front distinct front
  have inFlight : next.inFlight = run.inFlight := by rw [Run.inFlight, flights, Run.inFlight]
  have running : ∀ other, next.ledger.state other = .running ↔
      run.ledger.state other = .running := by
    intro other
    rw [ledger, Ledger.state_setState]
    split
    · next same => simp [← same, pending, idle]
    · rfl
  refine ⟨?_, ?_, ?_, ?_, ?_, ?_, ?_, ?_, ?_⟩
  · rw [waiting]
    exact sublist.trans consistent.waiting_sublist
  · intro other member
    rw [waiting] at member
    have different : name ≠ other := fun same => absent (same ▸ member)
    rw [ledger, Ledger.state_setState, if_neg different]
    exact consistent.pending_of_waiting other (sublist.subset member)
  · intro other left
    rw [ledger, Ledger.state_setState] at left
    split at left
    · next same => exact same ▸ consistent.mem_of_front front
    · exact consistent.planned other left
  · simpa only [running, inFlight] using consistent.running_of_inFlight
  · simpa only [running, inFlight, crash] using consistent.inFlight_of_running
  · rw [inFlight]
    exact consistent.inFlight_nodup
  · simpa only [running] using consistent.running_le
  · rw [ledger, halted]
    exact consistent.halted_of_failures
  · simpa only [running, inFlight, crash, halted] using consistent.of_crash

/-- An entry whose recipe starts joins those in flight. -/
theorem launch (consistent : run.Consistent scheduler plan) (distinct : plan.targets.Nodup)
    {next : Run} {name : String} {ahead lines : List String} {progress : Progress}
    (scans : scheduler.canScan run = true) (front : run.ahead = name :: ahead)
    (waiting : next.waiting = run.passed.reverse ++ ahead)
    (ledger : next.ledger = (run.ledger.setState name .running).setCommands name lines)
    (flights : next.flights = run.flights ++ [⟨name, progress⟩])
    (halted : next.halted = run.halted) (crash : next.crash = run.crash) :
    next.Consistent scheduler plan := by
  obtain ⟨pending, absent, sublist⟩ := consistent.front distinct front
  have inFlight : next.inFlight = run.inFlight ++ [name] := by simp [Run.inFlight, flights]
  have grounded : name ∉ run.inFlight := fun member => by
    have running := consistent.running_of_inFlight name member
    rw [pending] at running
    cases running
  have intact : run.crash = none := consistent.crash_of_scan scans
  have running : ∀ other, next.ledger.state other = .running → other ∈ next.inFlight := by
    intro other running
    rw [ledger, Ledger.state_setCommands, Ledger.state_setState] at running
    rw [inFlight, List.mem_append, List.mem_singleton]
    split at running
    · next same => exact .inr same.symm
    · exact .inl (consistent.inFlight_of_running intact other running)
  refine ⟨?_, ?_, ?_, ?_, ?_, ?_, ?_, ?_, ?_⟩
  · rw [waiting]
    exact sublist.trans consistent.waiting_sublist
  · intro other member
    rw [waiting] at member
    have different : name ≠ other := fun same => absent (same ▸ member)
    rw [ledger, Ledger.state_setCommands, Ledger.state_setState, if_neg different]
    exact consistent.pending_of_waiting other (sublist.subset member)
  · intro other left
    rw [ledger, Ledger.state_setCommands, Ledger.state_setState] at left
    split at left
    · next same => exact same ▸ consistent.mem_of_front front
    · exact consistent.planned other left
  · intro other member
    rw [inFlight, List.mem_append, List.mem_singleton] at member
    rw [ledger, Ledger.state_setCommands, Ledger.state_setState]
    split
    · rfl
    · next different =>
      exact consistent.running_of_inFlight other (member.resolve_right (Ne.symm different))
  · exact fun _ => running
  · rw [inFlight]
    exact List.nodup_append.2 ⟨consistent.inFlight_nodup, List.nodup_singleton name,
      fun other member last final same =>
        grounded (List.mem_singleton.1 final ▸ same ▸ member)⟩
  · intro names distinct all
    have inside : names ⊆ next.inFlight := fun other member => running other (all other member)
    have few := (List.subperm_of_subset distinct inside).length_le
    simp only [canScan, Bool.and_eq_true, decide_eq_true_eq] at scans
    have room : next.inFlight.length ≤ scheduler.jobs := by
      simpa [Run.inFlight, flights] using Nat.succ_le_of_lt scans.2
    exact Nat.le_trans few room
  · rw [ledger, halted]
    exact consistent.halted_of_failures
  · exact fun crashed => absurd (crash.trans intact) crashed

/-- A recipe that is joined is in flight no more, and no entry starts to run. -/
theorem leave (consistent : run.Consistent scheduler plan) {i : Nat} {flight : Flight}
    (found : run.flights[i]? = some flight) {next : Run} (waiting : next.waiting = run.waiting)
    (kept : ∀ name, name ≠ flight.target → next.ledger.state name = run.ledger.state name)
    (inFlight : next.inFlight = run.inFlight.eraseIdx i)
    (intact : next.crash = none → run.crash = none ∧
      next.ledger.state flight.target ≠ .running)
    (halted : next.ledger.failures ≠ [] → scheduler.options.keepGoing = false →
      next.halted = true)
    (crashed : next.crash ≠ none →
      next.halted = true ∧ ∃ name, next.ledger.state name = .running ∧ name ∉ next.inFlight) :
    next.Consistent scheduler plan := by
  have running : run.ledger.state flight.target = .running :=
    consistent.running_of_inFlight _ (mem_inFlight_of_getElem? found)
  have member : ∀ name, name ∈ next.inFlight ↔ name ≠ flight.target ∧ name ∈ run.inFlight :=
    fun name => by rw [inFlight, mem_eraseIdx_inFlight consistent.inFlight_nodup found]
  refine ⟨waiting ▸ consistent.waiting_sublist, ?_, ?_, ?_, ?_, ?_, ?_, halted, crashed⟩
  · intro name waits
    have pending := consistent.pending_of_waiting name (waiting ▸ waits)
    rw [kept name fun same => by simp [same, running] at pending]
    exact pending
  · intro name moved
    by_cases same : name = flight.target
    · exact consistent.planned name (by simp [same, running])
    · exact consistent.planned name (kept name same ▸ moved)
  · intro name flies
    obtain ⟨different, before⟩ := (member name).1 flies
    rw [kept name different]
    exact consistent.running_of_inFlight name before
  · intro none name runs
    have different : name ≠ flight.target := fun same => (intact none).2 (same ▸ runs)
    rw [kept name different] at runs
    exact (member name).2 ⟨different, consistent.inFlight_of_running (intact none).1 name runs⟩
  · rw [inFlight]
    exact consistent.inFlight_nodup.eraseIdx i
  · intro names distinct all
    refine consistent.running_le names distinct fun name inside => ?_
    by_cases same : name = flight.target
    · rw [same, running]
    · exact kept name same ▸ all name inside

theorem join (consistent : run.Consistent scheduler plan) {i : Nat} {flight : Flight}
    {failure : Option TargetFailure} (found : run.flights[i]? = some flight) :
    (scheduler.join run i flight.target failure).Consistent scheduler plan := by
  have ended : (scheduler.join run i flight.target failure).ledger.state flight.target =
      Ledger.endState failure := by
    rw [ledger_join, Ledger.state_finish, if_pos rfl]
  have kept : ∀ name, name ≠ flight.target →
      (scheduler.join run i flight.target failure).ledger.state name = run.ledger.state name := by
    intro name different
    rw [ledger_join, Ledger.state_finish, if_neg (Ne.symm different)]
  refine consistent.leave found (waiting_join ..) kept (inFlight_join ..) (fun intact => ?_) ?_ ?_
  · refine ⟨intact, ?_⟩
    rw [ended]
    cases failure <;> simp [Ledger.endState]
  · intro failed stops
    cases failure with
    | none =>
      have failed : run.ledger.failures ≠ [] := by
        simpa [Scheduler.join, Run.rescan] using failed
      simp [Scheduler.join, Run.rescan, Run.emit, consistent.halted_of_failures failed stops]
    | some _ => simp [Scheduler.join, stops]
  · intro crashed
    obtain ⟨halted, name, runs, grounded⟩ := consistent.of_crash crashed
    refine ⟨by simp [halted], name, ?_, ?_⟩
    · rw [kept name fun same => grounded (same ▸ mem_inFlight_of_getElem? found)]
      exact runs
    · rw [inFlight_join]
      exact fun flies => grounded (List.mem_of_mem_eraseIdx flies)

/-- The entry of a recipe that has crashed runs on when the recipe is joined. -/
theorem lose (consistent : run.Consistent scheduler plan) {i : Nat} {flight : Flight}
    (found : run.flights[i]? = some flight) (error : String) :
    (Scheduler.lose run i error).Consistent scheduler plan := by
  have running : run.ledger.state flight.target = .running :=
    consistent.running_of_inFlight _ (mem_inFlight_of_getElem? found)
  refine consistent.leave found (waiting_lose ..) (fun name _ => rfl) (inFlight_lose ..)
    (fun intact => by cases intact) (fun _ _ => rfl) fun _ => ⟨rfl, flight.target, running, ?_⟩
  rw [inFlight_lose, mem_eraseIdx_inFlight consistent.inFlight_nodup found]
  exact fun flies => flies.1 rfl

theorem emit (consistent : run.Consistent scheduler plan) (event : Event) :
    (run.emit event).Consistent scheduler plan :=
  ⟨consistent.waiting_sublist, consistent.pending_of_waiting, consistent.planned,
    consistent.running_of_inFlight, consistent.inFlight_of_running, consistent.inFlight_nodup,
    consistent.running_le, consistent.halted_of_failures, consistent.of_crash⟩

theorem setProgress (consistent : run.Consistent scheduler plan) {i : Nat} {flight : Flight}
    (progress : Progress) (found : run.flights[i]? = some flight) :
    (Scheduler.setProgress run i flight progress).Consistent scheduler plan := by
  have inFlight := inFlight_setProgress progress found
  refine ⟨consistent.waiting_sublist, consistent.pending_of_waiting, consistent.planned, ?_, ?_, ?_,
    consistent.running_le, consistent.halted_of_failures, ?_⟩
  · rw [inFlight]
    exact consistent.running_of_inFlight
  · rw [inFlight]
    exact consistent.inFlight_of_running
  · rw [inFlight]
    exact consistent.inFlight_nodup
  · rw [inFlight]
    exact consistent.of_crash

/-- Entries may stop waiting, and the run may be halted, as long as nothing else changes. -/
theorem narrow (consistent : run.Consistent scheduler plan) {next : Run}
    (sublist : next.waiting.Sublist run.waiting) (states : next.ledger.states = run.ledger.states)
    (failures : next.ledger.failures = run.ledger.failures) (flights : next.flights = run.flights)
    (crash : next.crash = run.crash) (halted : run.halted = true → next.halted = true) :
    next.Consistent scheduler plan := by
  have state : next.ledger.state = run.ledger.state := by
    funext name
    rw [Ledger.state, states, Ledger.state]
  have inFlight : next.inFlight = run.inFlight := by rw [Run.inFlight, flights, Run.inFlight]
  refine ⟨sublist.trans consistent.waiting_sublist, fun name waits => ?_, ?_, ?_, ?_, ?_, ?_,
    fun failed stops => ?_, fun crashed => ?_⟩
  · rw [state]
    exact consistent.pending_of_waiting name (sublist.subset waits)
  · rw [state]
    exact consistent.planned
  · rw [state, inFlight]
    exact consistent.running_of_inFlight
  · rw [state, inFlight, crash]
    exact consistent.inFlight_of_running
  · rw [inFlight]
    exact consistent.inFlight_nodup
  · rw [state]
    exact consistent.running_le
  · exact halted (consistent.halted_of_failures (failures ▸ failed) stops)
  · rw [state, inFlight]
    exact (consistent.of_crash (crash ▸ crashed)).imp_left halted

/-- Every move keeps a run consistent, unless it gives the run up. -/
theorem move (consistent : run.Consistent scheduler plan) (distinct : plan.targets.Nodup)
    {times : FileTimes} {next : Run} (move : scheduler.Move times run next) :
    next.Abandoned scheduler plan ∨ next.Consistent scheduler plan := by
  cases move with
  | pass scans front =>
    exact .inr (consistent.narrow (by simp [Run.waiting, front]) rfl rfl rfl rfl id)
  | withhold scans front =>
    exact .inr (consistent.narrow (consistent.front distinct front).2.2 rfl rfl rfl rfl id)
  | giveUp scans front unknown =>
    exact .inl ⟨rfl, rfl, _, consistent.mem_of_front front, unknown, rfl⟩
  | skip scans front | complete scans front =>
    exact .inr (consistent.settle distinct front (by decide) (waiting_rescan run _) rfl rfl rfl rfl)
  | refuse scans front =>
    refine .inr (consistent.narrow ?_ rfl rfl rfl rfl fun _ => rfl)
    exact (waiting_rescan run _).symm ▸ (consistent.front distinct front).2.2
  | launch scans front =>
    exact .inr (consistent.launch distinct scans front (waiting_rescan run _) rfl rfl rfl rfl)
  | join idle found finished => exact .inr (consistent.join found)
  | startLine found ready => exact .inr ((consistent.emit _).setProgress _ found)
  | endLine result found busy => exact .inr (consistent.setProgress _ found)
  | crash error echoes found ready => exact .inr (consistent.setProgress _ found)
  | lose idle found crashed => exact .inr (consistent.lose found _)

end Consistent

/-- A run that was given up makes no move. -/
theorem Abandoned.no_move {scheduler : Scheduler} {plan : Plan} {times : FileTimes}
    {run next : Run} (abandoned : run.Abandoned scheduler plan) :
    ¬ scheduler.Move times run next := by
  obtain ⟨grounded, halted, -⟩ := abandoned
  have idle : scheduler.canScan run ≠ true := by simp [Scheduler.canScan, halted]
  intro move
  cases move <;> first | exact idle ‹_› | simp_all

end Run

namespace Scheduler

variable {scheduler : Scheduler} {plan : Plan} {times : FileTimes} {run next : Run}

/-! ## The life of an entry -/

/-- What a move can do to the state of an entry, and when it does it. -/
inductive Change (scheduler : Scheduler) (times : FileTimes) (run : Run) (name : String) :
    TargetState → Prop where
  | stay : Change scheduler times run name (run.ledger.state name)
  | depart {target : Target} {state : TargetState} (scans : scheduler.canScan run = true)
      (pending : run.ledger.state name = .pending)
      (found : scheduler.registry.get? name = some target)
      (ready : run.ledger.readiness target = .ready)
      (departure : Departure scheduler.registry times target state) :
      Change scheduler times run name state
  | finish {failure : Option TargetFailure} (running : run.ledger.state name = .running)
      (inFlight : ⟨name, .finished failure⟩ ∈ run.flights) :
      Change scheduler times run name (Ledger.endState failure)

/-- Three moves set the state of the entry in front, and the join of a recipe that of its target. -/
theorem Move.change (move : scheduler.Move times run next)
    (consistent : run.Consistent scheduler plan) (name : String) :
    Change scheduler times run name (next.ledger.state name) := by
  cases move with
  | pass | withhold | giveUp | refuse | startLine | endLine | crash | lose => exact .stay
  | skip scans front found ready fresh =>
    rw [Ledger.state_setState]
    split
    · next same =>
      obtain rfl := same
      exact .depart scans (consistent.pending_of_front front) found ready (.skip fresh)
    · exact .stay
  | complete scans front found ready due empty =>
    rw [Ledger.state_setState]
    split
    · next same =>
      obtain rfl := same
      exact .depart scans (consistent.pending_of_front front) found ready
        (.complete due (List.isEmpty_iff.1 empty))
    · exact .stay
  | launch scans front found ready due nonempty expanded =>
    rw [Ledger.state_setCommands, Ledger.state_setState]
    split
    · next same =>
      obtain rfl := same
      exact .depart scans (consistent.pending_of_front front) found ready
        (.launch due (List.isEmpty_eq_false_iff.1 nonempty))
    · exact .stay
  | @join i flight failure idle found finished =>
    rw [Run.ledger_join, Ledger.state_finish]
    split
    · next same =>
      obtain rfl := same
      refine .finish (consistent.running_of_inFlight _ (Run.mem_inFlight_of_getElem? found)) ?_
      rw [← finished]
      exact List.mem_of_getElem? found
    · exact .stay

theorem Move.advance (move : scheduler.Move times run next)
    (consistent : run.Consistent scheduler plan) (name : String) :
    Advance scheduler.registry name (run.ledger.state name) (next.ledger.state name) := by
  generalize eq : next.ledger.state name = after
  have change := eq ▸ move.change consistent name
  cases change with
  | stay => exact .stay _
  | depart scans pending found ready departure =>
    rw [pending]
    cases departure with
    | skip fresh => exact .skip
    | complete due empty => exact .complete found empty
    | launch due nonempty => exact .launch found nonempty
  | @finish failure running inFlight =>
    rw [running]
    cases failure with
    | none => exact .succeed
    | some _ => exact .fail

/-- An entry leaves the pending state only when it is ready, and the verdict on it settles how. -/
theorem Move.departure (move : scheduler.Move times run next)
    (consistent : run.Consistent scheduler plan) {name : String}
    (pending : run.ledger.state name = .pending) (left : next.ledger.state name ≠ .pending) :
    scheduler.canScan run = true ∧ ∃ target, scheduler.registry.get? name = some target ∧
      run.ledger.readiness target = .ready ∧
        Departure scheduler.registry times target (next.ledger.state name) := by
  generalize eq : next.ledger.state name = after at left
  have change := eq ▸ move.change consistent name
  cases change with
  | stay => exact absurd pending left
  | depart scans _ found ready departure => exact ⟨scans, _, found, ready, departure⟩
  | finish running =>
    rw [pending] at running
    cases running

/-- An entry leaves the running state when its recipe, which is over, is joined. -/
theorem Move.finished (move : scheduler.Move times run next)
    (consistent : run.Consistent scheduler plan) {name : String}
    (running : run.ledger.state name = .running) (left : next.ledger.state name ≠ .running) :
    ∃ failure, ⟨name, .finished failure⟩ ∈ run.flights ∧
      next.ledger.state name = Ledger.endState failure := by
  generalize eq : next.ledger.state name = after at left
  have change := eq ▸ move.change consistent name
  cases change with
  | stay => exact absurd running left
  | depart _ pending =>
    rw [running] at pending
    cases pending
  | finish _ inFlight => exact ⟨_, inFlight, rfl⟩

/-- A failure was noted before, or is the end of a recipe in flight. -/
theorem Move.noted_failure (move : scheduler.Move times run next) {failure : TargetFailure}
    (noted : failure ∈ next.ledger.failures) :
    failure ∈ run.ledger.failures ∨
      ∃ flight ∈ run.flights, flight.progress = .finished (some failure) := by
  cases move with
  | @join i flight result idle found finished =>
    rw [Run.ledger_join, Ledger.failures_finish, List.mem_append] at noted
    refine noted.imp_right fun last => ⟨flight, List.mem_of_getElem? found, ?_⟩
    rw [finished, Option.mem_toList.1 last]
  | _ => exact .inl noted

theorem Move.halted (move : scheduler.Move times run next) (halted : run.halted = true) :
    next.halted = true := by
  cases move with
  | join => simp [Scheduler.join, Run.rescan, Run.emit, halted]
  | giveUp | refuse | lose => rfl
  | pass | withhold | skip | complete | launch | startLine | endLine | crash => exact halted

variable {World : Type} {host : Host World} {origin world : World}

theorem consistent_of_reaches (distinct : plan.targets.Nodup)
    (reached : scheduler.Reaches host (.start plan, origin) (run, world)) :
    run.Abandoned scheduler plan ∨ run.Consistent scheduler plan := by
  refine reached.keeps
    (P := fun run => run.Abandoned scheduler plan ∨ run.Consistent scheduler plan)
    (fun move holds => ?_) (.inr (Run.consistent_start scheduler plan))
  rcases holds with abandoned | consistent
  · exact absurd move abandoned.no_move
  · exact consistent.move distinct move

/-- The run of a plan of declared targets is never given up. -/
theorem not_abandoned_of_sorted (sorted : Plan.Sorted scheduler.registry plan.targets) :
    ¬ run.Abandoned scheduler plan := by
  rintro ⟨-, -, name, member, unknown, -⟩
  obtain ⟨target, found⟩ := sorted.declared member
  rw [unknown] at found
  cases found

theorem consistent_of_sorted (sorted : Plan.Sorted scheduler.registry plan.targets)
    (reached : scheduler.Reaches host (.start plan, origin) (run, world)) :
    run.Consistent scheduler plan :=
  (consistent_of_reaches sorted.nodup reached).resolve_left (not_abandoned_of_sorted sorted)

/-- A run from which there is a turn was not given up. -/
theorem consistent_of_turn (distinct : plan.targets.Nodup) {before after : Run × World}
    (reached : scheduler.Reaches host (.start plan, origin) before)
    (turn : scheduler.Turn host before after) : before.1.Consistent scheduler plan :=
  (consistent_of_reaches distinct reached).resolve_left fun abandoned =>
    abandoned.no_move turn.move

theorem advance_of_turn (distinct : plan.targets.Nodup) {before after : Run × World}
    (reached : scheduler.Reaches host (.start plan, origin) before)
    (turn : scheduler.Turn host before after) (name : String) :
    Advance scheduler.registry name (before.1.ledger.state name) (after.1.ledger.state name) :=
  turn.move.advance (consistent_of_turn distinct reached turn) name

/-! ## Along a run -/

section Along

variable {before after : Run × World} {name : String}
  (distinct : plan.targets.Nodup)
  (reached : scheduler.Reaches host (.start plan, origin) before)
  (onward : scheduler.Reaches host before after)

include distinct reached onward

/-- A state that ends the life of an entry stays. -/
theorem state_of_terminal (terminal : (before.1.ledger.state name).isTerminal = true) :
    after.1.ledger.state name = before.1.ledger.state name := by
  induction onward with
  | refl => rfl
  | tail earlier turn ih =>
    have advance := advance_of_turn distinct (reached.trans earlier) turn name
    rw [ih] at advance
    exact advance.of_terminal terminal

/-- An entry that has left the pending state does not come back to it. -/
theorem ne_pending_of_ne_pending (left : before.1.ledger.state name ≠ .pending) :
    after.1.ledger.state name ≠ .pending := by
  induction onward with
  | refl => exact left
  | tail earlier turn ih =>
    exact (advance_of_turn distinct (reached.trans earlier) turn name).ne_pending ih

/-- An entry that is pending or skipped was so all along. -/
theorem idle_of_idle
    (idle : after.1.ledger.state name = .pending ∨ after.1.ledger.state name = .skipped) :
    before.1.ledger.state name = .pending ∨ before.1.ledger.state name = .skipped := by
  induction onward with
  | refl => exact idle
  | tail earlier turn ih =>
    exact ih ((advance_of_turn distinct (reached.trans earlier) turn name).of_idle idle)

/-- A run that was halted starts nothing more. -/
theorem pending_of_halted (halted : before.1.halted = true)
    (pending : before.1.ledger.state name = .pending) :
    after.1.ledger.state name = .pending := by
  suffices h : after.1.halted = true ∧ after.1.ledger.state name = .pending from h.2
  induction onward with
  | refl => exact ⟨halted, pending⟩
  | @tail middle last earlier turn ih =>
    refine ⟨turn.move.halted ih.1, ?_⟩
    by_contra left
    have consistent := consistent_of_turn distinct (reached.trans earlier) turn
    have scans := (turn.move.departure consistent ih.2 left).1
    simp [canScan, ih.1] at scans

/-- A run in which a recipe failed starts nothing more, unless it is to keep going. -/
theorem pending_of_failures (failed : before.1.ledger.failures ≠ [])
    (stops : scheduler.options.keepGoing = false)
    (pending : before.1.ledger.state name = .pending) :
    after.1.ledger.state name = .pending := by
  refine pending_of_halted distinct reached onward ?_ pending
  rcases consistent_of_reaches distinct reached with abandoned | consistent
  · exact abandoned.2.1
  · exact consistent.halted_of_failures failed stops

end Along

/-! ## The end of a run -/

section Close

variable (host : Host World) (plan : Plan) (run : Run) (world : World)

/-- What is done when a run ends fails running entries, and changes no others. -/
theorem advance_close {registry : Registry} (name : String) :
    Advance registry name (run.ledger.state name)
      ((close host plan run world).ledger.state name) := by
  cases crash : run.crash with
  | none =>
    rw [close_of_crash_eq_none host plan run world crash]
    exact .stay _
  | some error =>
    rw [state_close_of_crash host plan run world crash]
    split
    · next runs =>
      rw [(mem_running plan run).1 runs |>.2]
      exact .fail
    · exact .stay _

end Close

end Scheduler

namespace Run.Consistent

variable {World : Type} {scheduler : Scheduler} {host : Host World} {plan : Plan} {run : Run}
  {world : World} (consistent : run.Consistent scheduler plan)
  (final : scheduler.step host run world = none)

include consistent final

/-- Without a crash nothing is running when a run is over. -/
theorem running_eq_nil (intact : run.crash = none) : run.running plan = [] := by
  refine List.eq_nil_iff_forall_not_mem.2 fun name runs => ?_
  have flies := consistent.inFlight_of_running intact name ((Scheduler.mem_running plan run).1 runs).2
  simp [inFlight, (Scheduler.over_of_step_eq_none final).1] at flies

omit final in
theorem mem_running {name : String} :
    name ∈ run.running plan ↔ run.ledger.state name = .running := by
  rw [Scheduler.mem_running, and_iff_right_iff_imp]
  exact fun runs => consistent.planned name (by simp [runs])

/-- When a run is over, just the entries that are still running fail. -/
theorem state_close (name : String) :
    (Scheduler.close host plan run world).ledger.state name =
      if run.ledger.state name = .running then .failed else run.ledger.state name := by
  cases crash : run.crash with
  | none =>
    have rests : run.ledger.state name ≠ .running := fun runs => by
      simpa [consistent.running_eq_nil final crash] using consistent.mem_running.2 runs
    rw [Scheduler.close_of_crash_eq_none host plan run world crash, if_neg rests]
  | some error =>
    simp only [Scheduler.state_close_of_crash host plan run world crash, consistent.mem_running]

/-- Only entries that have started are closed. -/
theorem pending_close_iff (name : String) :
    (Scheduler.close host plan run world).ledger.state name = .pending ↔
      run.ledger.state name = .pending := by
  rw [consistent.state_close final]
  split
  · next runs => simp [runs]
  · rfl

theorem planned_close {name : String}
    (left : (Scheduler.close host plan run world).ledger.state name ≠ .pending) :
    name ∈ plan.targets :=
  consistent.planned name fun pending => left ((consistent.pending_close_iff final name).2 pending)

/-- When a run is over, one failure is noted of each entry that is still running, in some order. -/
theorem failures_close : ∃ error order, order.Perm (run.running plan) ∧
    (order ≠ [] → run.crash = some error) ∧
      (Scheduler.close host plan run world).ledger.failures =
        run.ledger.failures ++ order.map (.ofCrash error) := by
  cases crash : run.crash with
  | none =>
    refine ⟨"", [], ?_, fun some => absurd rfl some, ?_⟩
    · rw [consistent.running_eq_nil final crash]
    · rw [Scheduler.close_of_crash_eq_none host plan run world crash, List.map_nil, List.append_nil]
  | some error =>
    exact ⟨error, _, host.arrange_perm (run.running plan) world, fun _ => rfl,
      Scheduler.failures_close_of_crash host plan run world crash⟩

theorem not_running_close (name : String) :
    (Scheduler.close host plan run world).ledger.state name ≠ .running := by
  rw [consistent.state_close final]
  split
  · simp
  · next rests => exact rests

end Run.Consistent

namespace Scheduler

variable {scheduler : Scheduler} {plan : Plan} {run : Run} {World : Type} {host : Host World}
  {origin world : World}

/-! ## The rules of a run -/

/-- The rules that a run obeys in one of its states and from it on. -/
structure Safe (scheduler : Scheduler) (host : Host World) (plan : Plan) (run : Run)
    (world : World) : Prop where
  /-- An entry leaves the pending state only when all of its prerequisites unblock it. -/
  unblocked : ∀ {next : Run} {after : World},
    scheduler.Turn host (run, world) (next, after) → ∀ name, run.ledger.state name = .pending →
      next.ledger.state name ≠ .pending →
        ∃ target, scheduler.registry.get? name = some target ∧
          ∀ prerequisite ∈ target.prerequisites,
            run.ledger.state prerequisite = .succeeded ∨ run.ledger.state prerequisite = .skipped
  advance : ∀ {next : Run} {after : World},
    scheduler.Turn host (run, world) (next, after) → ∀ name,
      Advance scheduler.registry name (run.ledger.state name) (next.ledger.state name)
  leaves_once : ∀ {later : Run} {after : World},
    scheduler.Reaches host (run, world) (later, after) → ∀ name,
      run.ledger.state name ≠ .pending → later.ledger.state name ≠ .pending
  terminal : ∀ {later : Run} {after : World},
    scheduler.Reaches host (run, world) (later, after) → ∀ name,
      (run.ledger.state name).isTerminal = true →
        later.ledger.state name = run.ledger.state name
  /-- While no recipe that has crashed was joined, the running entries are those in flight, unless
  the run is over because the plan names a target that is not declared. -/
  running_iff : run.crash = none →
    run.Abandoned scheduler plan ∧ scheduler.step host run world = none ∨
      ∀ name, run.ledger.state name = .running ↔ ∃ flight ∈ run.flights, flight.target = name
  running_of_inFlight : ∀ flight ∈ run.flights, run.ledger.state flight.target = .running
  inFlight_nodup : run.inFlight.Nodup
  flights_le : run.flights.length ≤ max scheduler.options.jobs 1
  /-- After a failure nothing starts any more, unless the run is to keep going. -/
  stops : run.ledger.failures ≠ [] → scheduler.options.keepGoing = false →
    ∀ {later : Run} {after : World}, scheduler.Reaches host (run, world) (later, after) →
      ∀ name, run.ledger.state name = .pending → later.ledger.state name = .pending
  /-- After a recipe that has crashed was joined nothing starts any more. -/
  stops_of_crash : run.crash ≠ none →
    ∀ {later : Run} {after : World}, scheduler.Reaches host (run, world) (later, after) →
      ∀ name, run.ledger.state name = .pending → later.ledger.state name = .pending
  /-- In the end the entries of recipes that have crashed fail, and no other entry changes. -/
  closing : ∀ name, Advance scheduler.registry name (run.ledger.state name)
    ((close host plan run world).ledger.state name)
  closed : scheduler.step host run world = none → run.Abandoned scheduler plan ∨
    ∀ name, (close host plan run world).ledger.state name ≠ .running

theorem reaches_bereft :
    Fork.persistent.Reaches Fork.mute (.start Fork.plan, ()) (Fork.bereft, ()) := by
  rw [← Fork.loop_mute]
  exact (loop_reaches Fork.persistent Fork.mute (.start Fork.plan) ()).1

end Scheduler

end TaskRunner
