import Mathlib.Data.Nat.Choose.Basic
import TaskRunner.Proofs.Execution.Completion
import TaskRunner.Proofs.Execution.Confluence
/- # TaskRunner.Proofs.Execution.Scan -- a scan leaves no job idle

While it has an entry to look at the coordinator scans: it goes through the waiting entries from the
front, takes out what it can settle or start, and begins again.  `Scheduler.Scan` is a stretch of such
turns, with recipes going on in between, and counts the entries that are looked at.

* A scan ends, whatever the host does.  Each look either goes one entry on or takes an entry out, so
  from `n` waiting entries there are at most `n * (n + 1) / 2` looks (`Run.scanBound`).
* What was passed still waits (`Run.Patient`), since only entries behind it can have been withheld
  and those are none that it needs.  So the entry that is settled or started next is the earliest of
  the plan that may be, and where a scan ends for want of entries all that are left have to wait. -/

namespace TaskRunner
set_option autoImplicit false

/-- Withholding an entry that a target does not need leaves the target waiting. -/
theorem Ledger.waiting_withhold {ledger : Ledger} {target : Target} {name : String}
    (unneeded : name ∉ target.prerequisites) (waits : ledger.readiness target = .waiting) :
    (ledger.withhold name).readiness target = .waiting := by
  rw [readiness_eq_waiting_iff] at waits ⊢
  obtain ⟨kept, blocked⟩ := waits
  refine ⟨fun other needed => ?_, blocked⟩
  have different : other ≠ name := fun same => unneeded (same ▸ needed)
  simpa [isLost, different] using kept other needed

/-- Of two entries without duplicates around them, the one that stands in front has the lower
position. -/
theorem Plan.idxOf_lt_of_sublist {names : List String} (distinct : names.Nodup)
    {name other : String} (stand : [name, other].Sublist names) :
    names.idxOf name < names.idxOf other := by
  obtain ⟨before, after, rfl, front, behind⟩ := List.cons_sublist_iff.1 stand
  have behind : other ∈ after := List.singleton_sublist.1 behind
  have absent : other ∉ before := fun member =>
    (List.nodup_append.1 distinct).2.2 other member other behind rfl
  calc (before ++ after).idxOf name
      = before.idxOf name := List.idxOf_append_of_mem front
    _ < before.length := List.idxOf_lt_length_iff.2 front
    _ ≤ before.length + after.idxOf other := Nat.le_add_right ..
    _ = (before ++ after).idxOf other := (List.idxOf_append_of_notMem absent).symm

namespace Run

/-- A bound on how many entries are looked at before a scan is over. -/
def scanBound (run : Run) : Nat := run.ahead.length + run.waiting.length.choose 2

/-- Whether every prerequisite of an entry was skipped or has succeeded. -/
def Cleared (registry : Registry) (run : Run) (name : String) : Prop :=
  ∃ target, registry.get? name = some target ∧ ∀ prerequisite ∈ target.prerequisites,
    run.ledger.state prerequisite = .skipped ∨ run.ledger.state prerequisite = .succeeded

/-- Whether an entry is the earliest of the plan, among those that wait, that may start. -/
structure Foremost (registry : Registry) (plan : Plan) (run : Run) (name : String) : Prop where
  waits : name ∈ run.waiting
  cleared : run.Cleared registry name
  earliest : ∀ other ∈ run.waiting, run.Cleared registry other →
    plan.targets.idxOf name ≤ plan.targets.idxOf other

/-- Whether a target can neither start nor be withheld. -/
structure Stuck (run : Run) (target : Target) : Prop where
  readiness : run.ledger.readiness target = .waiting
  kept : ∀ prerequisite ∈ target.prerequisites,
    run.ledger.state prerequisite ≠ .failed ∧ prerequisite ∉ run.ledger.withheld
  because : ∃ prerequisite ∈ target.prerequisites,
    run.ledger.state prerequisite = .running ∨ prerequisite ∈ run.waiting

/-- Whether every entry that was passed still has to wait. -/
def Patient (scheduler : Scheduler) (run : Run) : Prop :=
  ∀ name ∈ run.passed, ∃ target, scheduler.registry.get? name = some target ∧
    run.ledger.readiness target = .waiting

variable {scheduler : Scheduler} {plan : Plan} {run next : Run} {times : FileTimes}

/-! ## What was passed -/

theorem Patient.move (patient : run.Patient scheduler) (consistent : run.Consistent scheduler plan)
    (sorted : Plan.Sorted scheduler.registry plan.targets)
    (move : scheduler.Move times run next) : next.Patient scheduler := by
  cases move with
  | pass scans front found waits =>
    intro name member
    rcases List.mem_cons.1 member with rfl | earlier
    · exact ⟨_, found, waits⟩
    · exact patient name earlier
  | @withhold front prerequisite ahead _ scans eq =>
    intro name member
    obtain ⟨target, found, waits⟩ := patient name member
    have stand := consistent.stands_of_passed eq member
    refine ⟨target, found, Ledger.waiting_withhold (fun needed => ?_) waits⟩
    exact sorted.not_needs_of_sublist stand (by simp) ⟨target, found, needed⟩
  | skip | complete | refuse | launch | join | lose => exact fun name member => nomatch member
  | giveUp | startLine | endLine | crash => exact patient

/-- An entry of which every prerequisite is through does not wait. -/
theorem not_cleared_of_waiting {name : String} {target : Target}
    (found : scheduler.registry.get? name = some target)
    (waits : run.ledger.readiness target = .waiting) : ¬ run.Cleared scheduler.registry name := by
  rintro ⟨other, known, through⟩
  obtain rfl := Option.some.inj (found.symm.trans known)
  obtain ⟨-, prerequisite, needed, blocks⟩ := (Ledger.readiness_eq_waiting_iff ..).1 waits
  have unblocks := (TargetState.unblocks_iff _).2 (through prerequisite needed)
  rw [unblocks] at blocks
  cases blocks

/-- Only the entry in front leaves the pending state. -/
theorem front_of_left (move : scheduler.Move times run next)
    (consistent : run.Consistent scheduler plan) {name : String}
    (pending : run.ledger.state name = .pending) (left : next.ledger.state name ≠ .pending) :
    ∃ ahead, run.ahead = name :: ahead := by
  cases move with
  | @skip front ahead _ scans eq | @complete front ahead _ scans eq
  | @launch front ahead _ _ scans eq =>
    by_cases same : front = name
    · exact ⟨ahead, same ▸ eq⟩
    · simp [Ledger.state_setState, same, pending] at left
  | @join i flight failure idle found =>
    have running := consistent.running_of_inFlight _ (mem_inFlight_of_getElem? found)
    have different : flight.target ≠ name := fun same => by simp [same, pending] at running
    simp [Ledger.state_finish, different, pending] at left
  | pass | withhold | giveUp | refuse | startLine | endLine | crash | lose =>
    exact absurd pending left

/-- The entry in front is the earliest that may start, if it may. -/
theorem Patient.foremost (patient : run.Patient scheduler)
    (consistent : run.Consistent scheduler plan) (distinct : plan.targets.Nodup)
    {name : String} {ahead : List String} (front : run.ahead = name :: ahead)
    (cleared : run.Cleared scheduler.registry name) :
    run.Foremost scheduler.registry plan name := by
  refine ⟨(mem_waiting_of_front front).2 (.inl rfl), cleared, fun other waits free => ?_⟩
  rcases (mem_waiting_of_front front).1 waits with rfl | beside
  · exact Nat.le_refl _
  rcases List.mem_append.1 beside with passed | behind
  · obtain ⟨target, found, still⟩ := patient other (List.mem_reverse.1 passed)
    exact absurd free (not_cleared_of_waiting found still)
  · have stand := consistent.stands_of_ahead front behind
    exact Nat.le_of_lt (Plan.idxOf_lt_of_sublist distinct stand)

/-- A waiting entry needs what waits too or is running, and nothing that is lost. -/
theorem stuck_of_waiting (accounted : run.Accounted scheduler plan)
    (sorted : Plan.Sorted scheduler.registry plan.targets) {name : String} {target : Target}
    (member : name ∈ plan.targets) (found : scheduler.registry.get? name = some target)
    (waits : run.ledger.readiness target = .waiting) : run.Stuck target := by
  obtain ⟨unlost, prerequisite, needed, blocks⟩ := (Ledger.readiness_eq_waiting_iff ..).1 waits
  have kept : ∀ other ∈ target.prerequisites,
      run.ledger.state other ≠ .failed ∧ other ∉ run.ledger.withheld := by
    intro other needed
    have unlost := unlost other needed
    rw [← Bool.not_eq_true, Ledger.isLost_iff, not_or] at unlost
    exact unlost.symm
  refine ⟨waits, kept, prerequisite, needed, ?_⟩
  have planned : prerequisite ∈ plan.targets := sorted.mem_of_needs member ⟨target, found, needed⟩
  cases state : run.ledger.state prerequisite with
  | pending =>
    exact .inr ((accounted.waits_or_withheld prerequisite planned state).resolve_right
      (kept prerequisite needed).2)
  | running => exact .inl rfl
  | failed => exact absurd state (kept prerequisite needed).1
  | skipped | succeeded =>
    rw [state] at blocks
    cases blocks

/-- A mistake halts a run. -/
theorem halted_of_error (move : scheduler.Move times run next)
    (halts : run.error ≠ none → run.halted = true) (mistaken : next.error ≠ none) :
    next.halted = true := by
  cases move with
  | giveUp | refuse | lose => rfl
  | join => simp [Scheduler.join, Run.rescan, Run.emit, halts mistaken]
  | pass | withhold | skip | complete | launch | startLine | endLine | crash =>
    exact halts mistaken

/-- While the coordinator scans, only a mistake halts a run. -/
theorem error_of_halted (move : scheduler.Move times run next)
    (scans : scheduler.canScan run = true) (halted : next.halted = true) : next.error ≠ none := by
  have goes : run.halted = false := by
    simp only [Scheduler.canScan, Bool.and_eq_true, Bool.not_eq_true'] at scans
    exact scans.1.1
  cases move with
  | giveUp | refuse => simp
  | join idle | lose idle =>
    rw [scans] at idle
    cases idle
  | pass | withhold | skip | complete | launch | startLine | endLine | crash =>
    exact absurd halted (by simp [Scheduler.setProgress, Run.emit, Run.rescan, goes])

end Run

namespace Scheduler

variable {World : Type}

/-- A stretch of a scan, from a run and its surroundings to what comes of them, with the number of
entries that are looked at.  In between recipes go on that are not over. -/
inductive Scan (scheduler : Scheduler) (host : Host World) :
    Nat → Run × World → Run × World → Prop where
  | here (state : Run × World) : Scan scheduler host 0 state state
  | look {looks : Nat} {first before after : Run × World} {name : String} {ahead : List String}
      (scan : Scan scheduler host looks first before)
      (scans : scheduler.canScan before.1 = true) (turn : scheduler.Turn host before after)
      (front : before.1.ahead = name :: ahead)
      (looked : after.1 = scheduler.look host before.1 after.2 name ahead) :
      Scan scheduler host (looks + 1) first after
  | work {looks : Nat} {first before after : Run × World} {i : Nat} {flight : Flight}
      {world : World} (scan : Scan scheduler host looks first before)
      (scans : scheduler.canScan before.1 = true) (turn : scheduler.Turn host before after)
      (found : before.1.flights[i]? = some flight)
      (unfinished : flight.progress.isFinished = false)
      (worked : after = scheduler.advance host before.1 world i flight) :
      Scan scheduler host looks first after

/-- The rules of a scan from one of its states on. -/
structure Diligent (scheduler : Scheduler) (host : Host World) (plan : Plan)
    (state : Run × World) : Prop where
  ends : ∃ looks last, scheduler.Scan host looks state last ∧ scheduler.canScan last.1 = false
  bounded : ∀ {looks : Nat} {last : Run × World},
    scheduler.Scan host looks state last → looks ≤ state.1.scanBound
  /-- What is skipped, completed or started is always the earliest entry that may be. -/
  foremost : ∀ {looks : Nat} {before after : Run × World},
    scheduler.Scan host looks state before → scheduler.canScan before.1 = true →
      scheduler.Turn host before after → ∀ name, before.1.ledger.state name = .pending →
        after.1.ledger.state name ≠ .pending → before.1.Foremost scheduler.registry plan name
  /-- A scan that no mistake ends has put every job to work, or left over only what has to wait. -/
  exhausted : ∀ {looks : Nat} {last : Run × World},
    scheduler.Scan host looks state last → scheduler.canScan last.1 = false →
      last.1.error = none → last.1.flights.length = max scheduler.options.jobs 1 ∨
        ∀ name ∈ last.1.waiting, ∃ target, scheduler.registry.get? name = some target ∧
          last.1.Stuck target

variable {scheduler : Scheduler} {host : Host World} {plan : Plan} {origin : World}

/-! ## How long a scan is -/

variable (scheduler host) in
/-- A look goes one entry on, or takes the entry out. -/
theorem position_look (run : Run) (world : World) (name : String) (ahead : List String) :
    (scheduler.look host run world name ahead).passed = name :: run.passed ∧
        (scheduler.look host run world name ahead).ahead = ahead ∨
      (scheduler.look host run world name ahead).waiting = run.passed.reverse ++ ahead := by
  unfold look
  split
  · exact .inr rfl
  · split
    · exact .inl ⟨rfl, rfl⟩
    · exact .inr rfl
    · right
      unfold dispatch
      dsimp only
      split
      · exact Run.waiting_rescan run _
      · split
        · exact Run.waiting_rescan run _
        · split <;> exact Run.waiting_rescan run _

theorem scanBound_look {run : Run} {name : String} {ahead : List String}
    (front : run.ahead = name :: ahead) (world : World) :
    (scheduler.look host run world name ahead).scanBound < run.scanBound := by
  have held : run.waiting.length = (run.passed.length + ahead.length) + 1 := by
    simp [Run.waiting, front]
    omega
  have front : run.ahead.length = ahead.length + 1 := by rw [front, List.length_cons]
  -- Taking an entry out costs a look, and pays for going through all the others again.
  have paid : (run.passed.length + ahead.length + 1).choose 2 =
      (run.passed.length + ahead.length) + (run.passed.length + ahead.length).choose 2 := by
    rw [Nat.choose_succ_succ', Nat.choose_one_right]
  unfold Run.scanBound
  rw [held, front]
  rcases position_look scheduler host run world name ahead with ⟨passed, rest⟩ | taken
  · have same : (scheduler.look host run world name ahead).waiting.length =
        run.passed.length + ahead.length + 1 := by
      rw [Run.waiting, passed, rest]
      simp
      omega
    rw [same, rest]
    omega
  · have left : (scheduler.look host run world name ahead).waiting.length =
        run.passed.length + ahead.length := by
      rw [taken]
      simp
    have shorter : (scheduler.look host run world name ahead).ahead.length ≤
        run.passed.length + ahead.length := by
      rw [← left, Run.waiting, List.length_append]
      omega
    rw [left, paid]
    omega

theorem scanBound_advance {run : Run} {world : World} {i : Nat} {flight : Flight}
    (unfinished : flight.progress.isFinished = false) :
    (scheduler.advance host run world i flight).1.scanBound = run.scanBound := by
  unfold advance
  split
  · unfold startLine
    split <;> rfl
  · rfl
  all_goals
    next ended =>
      rw [ended] at unfinished
      cases unfinished

namespace Scan

variable {looks : Nat} {first last : Run × World}

theorem reaches (scan : scheduler.Scan host looks first last) :
    scheduler.Reaches host first last := by
  induction scan with
  | here => exact .refl
  | look _ _ turn _ _ ih => exact ih.tail turn
  | work _ _ turn _ _ _ ih => exact ih.tail turn

/-- Each look uses up some of the bound. -/
theorem looks_le (scan : scheduler.Scan host looks first last) :
    looks + last.1.scanBound ≤ first.1.scanBound := by
  induction scan with
  | here => omega
  | @look looks first before after name ahead _ _ _ front looked ih =>
    have less : after.1.scanBound < before.1.scanBound := looked ▸ scanBound_look front after.2
    omega
  | @work looks first before after i flight world _ _ _ _ unfinished worked ih =>
    have same : after.1.scanBound = before.1.scanBound := by
      rw [worked]
      exact scanBound_advance unfinished
    omega

/-- A scan goes on until there is nothing to look at. -/
theorem exists_end {run : Run} {world : World}
    (scan : scheduler.Scan host looks first (run, world)) :
    ∃ more last, scheduler.Scan host more first last ∧ scheduler.canScan last.1 = false := by
  fun_induction loop scheduler host run world generalizing looks with
  | case1 run world final =>
    obtain ⟨-, halted | looked⟩ := over_of_step_eq_none final
    · exact ⟨looks, _, scan, by simp [canScan, halted]⟩
    · exact ⟨looks, _, scan, by simp [canScan, looked]⟩
  | case2 run world next after turn ih =>
    by_cases scans : scheduler.canScan run = true
    · rcases step_cases scheduler host turn with
        ⟨name, ahead, -, front, looked, -⟩ | ⟨i, flight, found, idle, worked⟩
      · exact ih (.look scan scans turn front looked)
      · have unfinished : flight.progress.isFinished = false := by
          by_contra finished
          have idle := idle (by simpa using finished)
          rw [scans] at idle
          cases idle
        exact ih (.work scan scans turn found unfinished worked)
    · exact ⟨looks, _, scan, by simpa using scans⟩

/-- A scan that no mistake ends does not halt the run. -/
theorem not_halted (scan : scheduler.Scan host looks first last)
    (goes : first.1.halted = false) (fine : last.1.error = none) : last.1.halted = false := by
  by_contra halted
  have halted : last.1.halted = true := by simpa using halted
  cases scan with
  | here =>
    rw [goes] at halted
    cases halted
  | look _ scans turn => exact Run.error_of_halted turn.move scans halted fine
  | work _ scans turn => exact Run.error_of_halted turn.move scans halted fine

end Scan

/-! ## What a scan finds -/

section Reached

variable {state : Run × World} (sorted : Plan.Sorted scheduler.registry plan.targets)
  (reached : scheduler.Reaches host (.start plan, origin) state)

include sorted reached in
theorem patient_of_reaches : state.1.Patient scheduler := by
  induction reached with
  | refl => exact fun name member => nomatch member
  | tail reached turn ih =>
    exact ih.move (consistent_of_turn sorted.nodup reached turn) sorted turn.move

include reached in
theorem error_of_not_halted (goes : state.1.halted = false) : state.1.error = none := by
  have halts : state.1.error ≠ none → state.1.halted = true :=
    reached.keeps (P := fun run => run.error ≠ none → run.halted = true)
      (fun move => Run.halted_of_error move) (fun mistaken => absurd rfl mistaken)
  by_contra mistaken
  rw [halts mistaken] at goes
  cases goes

include sorted reached

/-- What leaves the pending state is the earliest entry that may. -/
theorem foremost_of_turn {after : Run × World} (turn : scheduler.Turn host state after)
    {name : String} (pending : state.1.ledger.state name = .pending)
    (left : after.1.ledger.state name ≠ .pending) :
    state.1.Foremost scheduler.registry plan name := by
  have consistent := consistent_of_turn sorted.nodup reached turn
  have patient := patient_of_reaches sorted reached
  obtain ⟨scans, target, found, ready, -⟩ := turn.move.departure consistent pending left
  have unblocked := ((Ledger.readiness_eq_ready_iff ..).1 ready).2
  have cleared : state.1.Cleared scheduler.registry name :=
    ⟨target, found, fun prerequisite needed =>
      (TargetState.unblocks_iff _).1 (unblocked prerequisite needed)⟩
  obtain ⟨ahead, front⟩ := Run.front_of_left turn.move consistent pending left
  exact patient.foremost consistent sorted.nodup front cleared

/-- Where the coordinator has nothing to look at, though it may, all jobs are taken or every waiting
entry has to wait. -/
theorem exhausted_of_idle (goes : state.1.halted = false)
    (idle : scheduler.canScan state.1 = false) :
    state.1.flights.length = max scheduler.options.jobs 1 ∨
      ∀ name ∈ state.1.waiting, ∃ target, scheduler.registry.get? name = some target ∧
        state.1.Stuck target := by
  have consistent := consistent_of_sorted sorted reached
  have accounted := accounted_of_reaches sorted reached (error_of_not_halted reached goes)
  by_cases full : state.1.flights.length < scheduler.jobs
  · right
    intro name waits
    have looked : state.1.ahead = [] := by simpa [canScan, goes, full] using idle
    have passed : name ∈ state.1.passed := by simpa [Run.waiting, looked] using waits
    obtain ⟨target, found, still⟩ := patient_of_reaches sorted reached name passed
    exact ⟨target, found, Run.stuck_of_waiting accounted sorted
      (consistent.waiting_sublist.subset waits) found still⟩
  · left
    have enough : state.1.flights.length ≤ scheduler.jobs := consistent.flights_le
    have jobs : scheduler.jobs = max scheduler.options.jobs 1 := rfl
    omega

end Reached

/-- **A scan leaves no job idle and keeps to the order of the plan**, from every state of every run
that is not halted, whatever the commands do and in which order they end. -/
theorem diligent_of_reaches {roots : List String} {state : Run × World}
    (planned : scheduler.registry.plan roots = .ok plan)
    (reached : scheduler.Reaches host (.start plan, origin) state)
    (goes : state.1.halted = false) : scheduler.Diligent host plan state := by
  have sorted := Plan.sorted_of_plan planned
  refine ⟨?_, ?_, ?_, ?_⟩
  · exact (Scan.here state).exists_end
  · intro looks last scan
    have used := scan.looks_le
    omega
  · intro looks before after scan _ turn name pending left
    exact foremost_of_turn sorted (reached.trans scan.reaches) turn pending left
  · intro looks last scan idle fine
    exact exhausted_of_idle sorted (reached.trans scan.reaches) (scan.not_halted goes fine) idle

end Scheduler

/-! ## A scan after a join -/

namespace Fork

/-- The fork is run by more recipes at once than it has, whatever fails. -/
def plentiful : Scheduler := scheduler.withOptions { jobs := 3, keepGoing := true }

/-- A host on which the first recipe fails, and goes on before the second. -/
def eager : Host Unit := host fun _ => none

/-- The first recipe is in flight. -/
def first : Run := .opened "one" "first" ["two", "both"]

/-- The second recipe is in flight too. -/
def second : Run :=
  { first with
    ledger := (first.ledger.setState "two" .running).setCommands "two" ["second"]
    ahead := ["both"]
    flights := [⟨"one", .ready 0 "first" []⟩, ⟨"two", .ready 0 "second" []⟩]
    events := .started "two" :: first.events }

/-- The entry that needs both was passed, and the scan is over. -/
def scanned : Run := { second with passed := ["both"], ahead := [] }

/-- The first recipe runs. -/
def engaged : Run :=
  { scanned with
    flights := [⟨"one", .busy 0 "first" []⟩, ⟨"two", .ready 0 "second" []⟩]
    events := .command "one" 0 "first" :: scanned.events }

def failure : TargetFailure := ⟨"one", 0, "first", .exit 1⟩

/-- The first recipe has failed. -/
def failing : Run :=
  { engaged with flights := [⟨"one", .finished (some failure)⟩, ⟨"two", .ready 0 "second" []⟩] }

/-- The first recipe was joined while the second is in flight, and another scan begins. -/
def joined : Run :=
  { failing with
    ledger := failing.ledger.finish "one" (some failure)
    passed := []
    ahead := ["both"]
    flights := [⟨"two", .ready 0 "second" []⟩]
    events := .failed failure :: failing.events }

section Steps

open Scheduler

theorem jobs_plentiful : plentiful.jobs = 3 := rfl

theorem registry_plentiful : plentiful.registry = registry := rfl

theorem step_start : plentiful.step eager (.start plan) () = some (first, ()) := by
  have expanded : plentiful.table.substituteAll ["first"] = .ok ["first"] := substituteAll_one
  have found := get?_registry.1
  simp only [one] at found
  simp [step, canScan, Run.start, plan, jobs_plentiful, eager, host, chosen?, look,
    registry_plentiful, found, dispatch, Ledger.readiness, Staleness.check, Target.alwaysDue,
    Staleness.isDue, Target.isAggregate, expanded, Run.rescan, Run.emit, Progress.ofLines, first,
    Run.opened]

theorem step_first : plentiful.step eager first () = some (second, ()) := by
  have expanded : plentiful.table.substituteAll ["second"] = .ok ["second"] := substituteAll_two
  have found := get?_registry.2.1
  simp only [two] at found
  simp [step, canScan, jobs_plentiful, eager, host, chosen?, look, registry_plentiful, found,
    dispatch, Ledger.readiness, Staleness.check, Target.alwaysDue, Staleness.isDue,
    Target.isAggregate, expanded, Run.rescan, Run.emit, Progress.ofLines, first, second,
    Run.opened]

theorem step_second : plentiful.step eager second () = some (scanned, ()) := by
  have found := get?_registry.2.2
  simp only [both] at found
  simp [step, canScan, jobs_plentiful, eager, host, chosen?, look, registry_plentiful, found,
    Ledger.readiness, Ledger.isLost, Ledger.state_setState, TargetState.unblocks, first, second,
    scanned, Run.opened]

theorem step_scanned : plentiful.step eager scanned () = some (engaged, ()) := by
  have echoes : plentiful.options.echo = true := rfl
  simp [step, canScan, eager, host, chosen?, advance, startLine, echo, echoes, setProgress,
    Run.emit, first, second, scanned, engaged]

theorem step_engaged : plentiful.step eager engaged () = some (failing, ()) := by
  simp [step, canScan, eager, host, chosen?, advance, awaitLine, setProgress, Progress.afterLine,
    scanned, engaged, failing, failure]

theorem step_failing : plentiful.step eager failing () = some (joined, ()) := by
  have goes : plentiful.options.keepGoing = true := rfl
  simp [step, canScan, eager, host, chosen?, advance, join, goes, Run.rescan, Run.waiting,
    Run.emit, first, second, scanned, engaged, failing, joined]

end Steps

theorem reaches_joined : plentiful.Reaches eager (.start plan, ()) (joined, ()) :=
  .head step_start <| .head step_first <| .head step_second <| .head step_scanned <|
    .head step_engaged <| .single step_failing

/-- The scan that begins when one recipe of the fork has failed and the other is in flight is
diligent. -/
theorem diligent_fork :
    plentiful.registry.plan ["both"] = .ok plan ∧
      plentiful.Reaches eager (.start plan, ()) (joined, ()) ∧
      joined.halted = false ∧ joined.flights = [⟨"two", .ready 0 "second" []⟩] ∧
      joined.ahead = ["both"] ∧ plentiful.Diligent eager plan (joined, ()) :=
  ⟨plan_registry, reaches_joined, rfl, rfl, rfl,
    Scheduler.diligent_of_reaches plan_registry reaches_joined rfl⟩

end Fork
end TaskRunner
