import Mathlib.Logic.Relation
import TaskRunner.Execution.Scheduler
import TaskRunner.Proofs.Plan.Order
/- # TaskRunner.Proofs.Execution.Turn -- what one turn of a run can do

`Scheduler.Move` lists everything that a turn can do to a run, with the conditions under which it is
done.  The only thing that a move takes from the surroundings is how old files are, and it takes
that at one moment.  `move_of_step` says that there are no other moves, whatever the host does, so
what every move keeps holds all along a run.

A run goes from state to state by `Turn`; `Reaches` is the chain of any number of turns.  A host
fixes every choice, and the theorems are about all hosts, so they are about all orders in which
recipes can go on and end.  `loop_reaches` says that a run always comes to a state in which no turn
is left. -/

namespace TaskRunner
set_option autoImplicit false

namespace Scheduler

/-- What a turn can do to a run, where `times` are the file times that the coordinator sees. -/
inductive Move (scheduler : Scheduler) (times : FileTimes) : Run → Run → Prop where
  /-- An entry has to wait for a prerequisite. -/
  | pass {run : Run} {name : String} {ahead : List String} {target : Target}
      (scans : scheduler.canScan run = true) (front : run.ahead = name :: ahead)
      (found : scheduler.registry.get? name = some target)
      (waits : run.ledger.readiness target = .waiting) :
      Move scheduler times run { run with passed := name :: run.passed, ahead }
  /-- An entry can never start. -/
  | withhold {run : Run} {name prerequisite : String} {ahead : List String} {target : Target}
      (scans : scheduler.canScan run = true) (front : run.ahead = name :: ahead)
      (found : scheduler.registry.get? name = some target)
      (lost : run.ledger.readiness target = .withheld prerequisite) :
      Move scheduler times run { run with ahead, ledger := run.ledger.withhold name }
  /-- An entry is not declared: the run is over at once. -/
  | giveUp {run : Run} {name : String} {ahead : List String}
      (scans : scheduler.canScan run = true) (front : run.ahead = name :: ahead)
      (unknown : scheduler.registry.get? name = none) :
      Move scheduler times run
        { run with ahead, flights := [], halted := true, error := some (.unknownTarget name) }
  | skip {run : Run} {name : String} {ahead : List String} {target : Target}
      (scans : scheduler.canScan run = true) (front : run.ahead = name :: ahead)
      (found : scheduler.registry.get? name = some target)
      (ready : run.ledger.readiness target = .ready)
      (fresh : (Staleness.check scheduler.registry times [] target).isDue = false) :
      Move scheduler times run
        { (run.rescan (run.passed.reverse ++ ahead)).emit
            (.skipped name (Staleness.check scheduler.registry times [] target).message) with
          ledger := run.ledger.setState name .skipped }
  /-- An entry without a recipe is done as soon as it is due. -/
  | complete {run : Run} {name : String} {ahead : List String} {target : Target}
      (scans : scheduler.canScan run = true) (front : run.ahead = name :: ahead)
      (found : scheduler.registry.get? name = some target)
      (ready : run.ledger.readiness target = .ready)
      (due : (Staleness.check scheduler.registry times [] target).isDue = true)
      (empty : target.isAggregate = true) :
      Move scheduler times run
        { ((run.rescan (run.passed.reverse ++ ahead)).emit (.started name)).emit
            (.completed name) with
          ledger := run.ledger.setState name .succeeded }
  /-- A reference in the recipe of an entry cannot be replaced. -/
  | refuse {run : Run} {name : String} {ahead : List String} {target : Target} {e : ConfigError}
      (scans : scheduler.canScan run = true) (front : run.ahead = name :: ahead)
      (found : scheduler.registry.get? name = some target)
      (ready : run.ledger.readiness target = .ready)
      (due : (Staleness.check scheduler.registry times [] target).isDue = true)
      (nonempty : target.isAggregate = false)
      (failed : scheduler.table.substituteAll target.recipe = .error e) :
      Move scheduler times run
        { run.rescan (run.passed.reverse ++ ahead) with halted := true, error := some e }
  | launch {run : Run} {name : String} {ahead : List String} {target : Target}
      {lines : List String}
      (scans : scheduler.canScan run = true) (front : run.ahead = name :: ahead)
      (found : scheduler.registry.get? name = some target)
      (ready : run.ledger.readiness target = .ready)
      (due : (Staleness.check scheduler.registry times [] target).isDue = true)
      (nonempty : target.isAggregate = false)
      (expanded : scheduler.table.substituteAll target.recipe = .ok lines) :
      Move scheduler times run
        { (run.rescan (run.passed.reverse ++ ahead)).emit (.started name) with
          ledger := (run.ledger.setState name .running).setCommands name lines
          flights := run.flights ++ [⟨name, Progress.ofLines 0 lines⟩] }
  /-- The coordinator takes note of a recipe that is over. -/
  | join {run : Run} {i : Nat} {flight : Flight} {failure : Option TargetFailure}
      (idle : scheduler.canScan run = false) (found : run.flights[i]? = some flight)
      (finished : flight.progress = .finished failure) :
      Move scheduler times run (scheduler.join run i flight.target failure)
  | startLine {run : Run} {i : Nat} {flight : Flight} {line : Nat} {command : String}
      {rest : List String}
      (found : run.flights[i]? = some flight)
      (ready : flight.progress = .ready line command rest) :
      Move scheduler times run
        (setProgress (run.emit (.command flight.target line command)) i flight
          (.busy line command rest))
  | endLine {run : Run} {i : Nat} {flight : Flight} {line : Nat} {command : String}
      {rest : List String} (result : Option LineFailure)
      (found : run.flights[i]? = some flight)
      (busy : flight.progress = .busy line command rest) :
      Move scheduler times run
        (setProgress run i flight (.afterLine flight.target line command rest result))
  /-- The command of a line cannot be printed. -/
  | crash {run : Run} {i : Nat} {flight : Flight} {line : Nat} {command : String}
      {rest : List String} (error : String) (echoes : scheduler.options.echo = true)
      (found : run.flights[i]? = some flight)
      (ready : flight.progress = .ready line command rest) :
      Move scheduler times run (setProgress run i flight (.crashed line command rest error))
  /-- The coordinator learns that a recipe has crashed. -/
  | lose {run : Run} {i : Nat} {flight : Flight} {line : Nat} {command : String}
      {rest : List String} {error : String}
      (idle : scheduler.canScan run = false) (found : run.flights[i]? = some flight)
      (crashed : flight.progress = .crashed line command rest error) :
      Move scheduler times run (lose run i error)

variable {World : Type} {scheduler : Scheduler} {host : Host World}

/-- What the coordinator does when it looks at the entry in front is a move. -/
theorem move_look {run : Run} {world : World} {name : String} {ahead : List String}
    (scans : scheduler.canScan run = true) (front : run.ahead = name :: ahead) :
    Move scheduler (host.times world) run (scheduler.look host run world name ahead) := by
  unfold look
  split
  · next unknown => exact .giveUp scans front unknown
  · next target found =>
    split
    · next waits => exact .pass scans front found waits
    · next lost => exact .withhold scans front found lost
    · next ready =>
      have named : target.name = name := Registry.name_of_get? found
      unfold dispatch
      simp only [named]
      split
      · next fresh => exact .skip scans front found ready (by simpa using fresh)
      · next due =>
        have due : (Staleness.check scheduler.registry (host.times world) [] target).isDue =
            true := by simpa using due
        split
        · next empty => exact .complete scans front found ready due empty
        · next nonempty =>
          have nonempty : target.isAggregate = false := by simpa using nonempty
          split
          · next e failed => exact .refuse scans front found ready due nonempty failed
          · next lines expanded => exact .launch scans front found ready due nonempty expanded

/-- Only what is printed can fail to be. -/
theorem echoes_of_echo {command error : String} {world after : World}
    (echoed : scheduler.echo host command world = (some error, after)) :
    scheduler.options.echo = true := by
  by_contra quiet
  simp [echo, quiet] at echoed

/-- What a recipe does in its turn is a move; the coordinator joins it only when it has nothing to
look at. -/
theorem move_advance {run : Run} {world : World} {times : FileTimes} {i : Nat} {flight : Flight}
    (found : run.flights[i]? = some flight)
    (idle : flight.progress.isFinished = true → scheduler.canScan run = false) :
    Move scheduler times run (scheduler.advance host run world i flight).1 := by
  unfold advance
  split
  · next ready =>
    unfold startLine
    split
    · next error world echoed => exact .crash error (echoes_of_echo echoed) found ready
    · exact .startLine found ready
  · next busy => exact .endLine _ found busy
  · next finished => exact .join (idle (by rw [finished]; rfl)) found finished
  · next crashed => exact .lose (idle (by rw [crashed]; rfl)) found crashed

/-- There are no other moves. -/
theorem move_of_step {run next : Run} {world after : World}
    (h : scheduler.step host run world = some (next, after)) :
    Move scheduler (host.times after) run next := by
  rcases step_cases scheduler host h with
    ⟨name, ahead, scans, front, rfl, -⟩ | ⟨i, flight, found, idle, turn⟩
  · exact move_look scans front
  · obtain rfl := congrArg Prod.fst turn
    exact move_advance found idle

/-! ## Recipes in flight -/

variable (scheduler host) in
/-- Where a recipe that is in flight after a turn comes from, and what the host has said of it. -/
inductive Proceeds (run : Run) : Flight → Prop where
  | stay {flight : Flight} (member : flight ∈ run.flights) : Proceeds run flight
  | launch {target : Target} {lines : List String} (nonempty : target.isAggregate = false)
      (expanded : scheduler.table.substituteAll target.recipe = .ok lines) :
      Proceeds run ⟨target.name, Progress.ofLines 0 lines⟩
  | startLine {flight : Flight} {line : Nat} {command : String} {rest : List String}
      (member : flight ∈ run.flights) (ready : flight.progress = .ready line command rest) :
      Proceeds run { flight with progress := .busy line command rest }
  | endLine {flight : Flight} {line : Nat} {command : String} {rest : List String} (world : World)
      (member : flight ∈ run.flights) (busy : flight.progress = .busy line command rest) :
      Proceeds run { flight with
        progress := .afterLine flight.target line command rest (host.await flight.target world).1 }
  | crash {flight : Flight} {line : Nat} {command : String} {rest : List String} {error : String}
      {world after : World} (member : flight ∈ run.flights)
      (ready : flight.progress = .ready line command rest)
      (echoed : scheduler.echo host command world = (some error, after)) :
      Proceeds run { flight with progress := .crashed line command rest error }

variable (host) in
/-- The coordinator starts no recipe but that of the entry at which it looks. -/
theorem flights_of_look (run : Run) (world : World) (name : String) (ahead : List String) :
    (scheduler.look host run world name ahead).flights ⊆ run.flights ∨
      ∃ target lines, scheduler.registry.get? name = some target ∧ target.isAggregate = false ∧
        scheduler.table.substituteAll target.recipe = .ok lines ∧
        (scheduler.look host run world name ahead).flights =
          run.flights ++ [⟨name, Progress.ofLines 0 lines⟩] ∧
        (scheduler.look host run world name ahead).ledger.linesOf name = lines := by
  have same : run.flights ⊆ run.flights := List.Subset.refl _
  unfold look
  split
  · exact .inl (List.nil_subset _)
  · next target found =>
    obtain rfl : target.name = name := Registry.name_of_get? found
    split
    · exact .inl same
    · exact .inl same
    · unfold dispatch
      dsimp only
      split
      · exact .inl same
      · split
        · exact .inl same
        · next nonempty =>
          split
          · exact .inl same
          · next lines expanded =>
            exact .inr ⟨target, lines, found, by simpa using nonempty, expanded, rfl,
              (Ledger.linesOf_setCommands ..).trans (if_pos rfl)⟩

theorem proceeds_of_look {run : Run} {world : World} {name : String} {ahead : List String} :
    ∀ flight ∈ (scheduler.look host run world name ahead).flights,
      Proceeds scheduler host run flight := by
  intro flight member
  rcases flights_of_look host run world name ahead with
    before | ⟨target, lines, found, nonempty, expanded, flights, -⟩
  · exact .stay (before member)
  · rw [flights, List.mem_append, List.mem_singleton] at member
    rcases member with earlier | rfl
    · exact .stay earlier
    · rw [← Registry.name_of_get? found]
      exact .launch nonempty expanded

theorem proceeds_of_advance {run : Run} {world : World} {i : Nat} {flight : Flight}
    (found : run.flights[i]? = some flight) :
    ∀ other ∈ (scheduler.advance host run world i flight).1.flights,
      Proceeds scheduler host run other := by
  have mine : flight ∈ run.flights := List.mem_of_getElem? found
  intro other member
  unfold advance at member
  split at member
  · next ready =>
    unfold startLine at member
    split at member <;> rcases List.mem_or_eq_of_mem_set member with before | rfl
    · exact .stay before
    · next echoed => exact .crash mine ready echoed
    · exact .stay before
    · exact .startLine mine ready
  · next busy =>
    rcases List.mem_or_eq_of_mem_set member with before | rfl
    · exact .stay before
    · exact .endLine world mine busy
  all_goals exact .stay ((List.eraseIdx_sublist ..).subset member)

/-- A turn does to recipes in flight what the host says, and nothing else. -/
theorem proceeds_of_step {run next : Run} {world after : World}
    (h : scheduler.step host run world = some (next, after)) :
    ∀ flight ∈ next.flights, Proceeds scheduler host run flight := by
  rcases step_cases scheduler host h with
    ⟨name, ahead, -, -, rfl, -⟩ | ⟨i, flight, found, -, turn⟩
  · exact proceeds_of_look
  · obtain rfl := congrArg Prod.fst turn
    exact proceeds_of_advance found

/-! ## Chains of turns -/

variable (scheduler host)

/-- One turn, from a run and its surroundings to what comes of them. -/
def Turn (before after : Run × World) : Prop := scheduler.step host before.1 before.2 = some after

/-- Any number of turns. -/
def Reaches : Run × World → Run × World → Prop := Relation.ReflTransGen (scheduler.Turn host)

variable {scheduler host}

theorem Turn.move {before after : Run × World} (turn : scheduler.Turn host before after) :
    Move scheduler (host.times after.2) before.1 after.1 := move_of_step turn

/-- What every turn keeps holds wherever turns lead to. -/
theorem Reaches.keeps {P : Run → Prop} {before after : Run × World}
    (reached : scheduler.Reaches host before after)
    (step : ∀ {times : FileTimes} {run next : Run}, Move scheduler times run next → P run → P next)
    (holds : P before.1) : P after.1 := by
  induction reached with
  | refl => exact holds
  | tail _ turn ih => exact step turn.move ih

variable (scheduler host) in
/-- A run comes to a state from which there is no turn. -/
theorem loop_reaches (run : Run) (world : World) :
    scheduler.Reaches host (run, world) (scheduler.loop host run world) ∧
      scheduler.step host (scheduler.loop host run world).1 (scheduler.loop host run world).2 =
        none := by
  fun_induction loop scheduler host run world with
  | case1 run world final => exact ⟨.refl, final⟩
  | case2 run world next after turn ih => exact ⟨ih.1.head turn, ih.2⟩

theorem loop_of_turn {run next : Run} {world after : World}
    (turn : scheduler.step host run world = some (next, after)) :
    scheduler.loop host run world = scheduler.loop host next after := by
  rw [loop]
  split
  · next final => rw [final] at turn; cases turn
  · next same => rw [same] at turn; cases turn; rfl

theorem loop_of_over {run : Run} {world : World} (final : scheduler.step host run world = none) :
    scheduler.loop host run world = (run, world) := by
  rw [loop]
  split
  · rfl
  · next turn => rw [final] at turn; cases turn

/-- When no turn is left, nothing is in flight and the coordinator has no entry to look at. -/
theorem over_of_step_eq_none {run : Run} {world : World}
    (final : scheduler.step host run world = none) :
    run.flights = [] ∧ (run.halted = true ∨ run.ahead = []) := by
  unfold step at final
  split at final
  · next scans =>
    simp only [canScan, Bool.and_eq_true, Bool.not_eq_true', List.isEmpty_eq_false_iff] at scans
    split at final
    · next empty => exact absurd empty scans.1.2
    · dsimp only at final
      split at final
      · cases final
      · split at final <;> cases final
  · next idle =>
    split at final
    · next empty =>
      have slots : 0 < scheduler.jobs := by unfold jobs; omega
      have looked : run.halted = false → run.ahead = [] := by
        simpa [canScan, empty, slots] using idle
      cases halted : run.halted with
      | true => exact ⟨empty, .inl rfl⟩
      | false => exact ⟨empty, .inr (looked halted)⟩
    · cases final

section Close

variable (host) (plan : Plan) (run : Run) (world : World)

@[simp] theorem error_close : (close host plan run world).error = run.error := by
  unfold close
  split <;> rfl

@[simp] theorem events_close : (close host plan run world).events = run.events := by
  unfold close
  split <;> rfl

@[simp] theorem linesOf_close (name : String) :
    (close host plan run world).ledger.linesOf name = run.ledger.linesOf name := by
  unfold close
  split
  · rfl
  · exact Ledger.linesOf_noteCrashes ..

theorem mem_running {name : String} :
    name ∈ run.running plan ↔ name ∈ plan.targets ∧ run.ledger.state name = .running := by
  simp [Run.running]

theorem close_of_crash_eq_none (intact : run.crash = none) : close host plan run world = run := by
  unfold close
  rw [intact]

theorem state_close_of_crash {error : String} (crashed : run.crash = some error) (name : String) :
    (close host plan run world).ledger.state name =
      if name ∈ run.running plan then .failed else run.ledger.state name := by
  unfold close
  rw [crashed]
  refine (Ledger.state_noteCrashes ..).trans ?_
  simp only [(host.arrange_perm (run.running plan) world).mem_iff]

theorem failures_close_of_crash {error : String} (crashed : run.crash = some error) :
    (close host plan run world).ledger.failures =
      run.ledger.failures ++
        (host.arrange (run.running plan) world).map (.ofCrash error) := by
  unfold close
  rw [crashed]
  exact Ledger.failures_noteCrashes ..

end Close

/-- A run that reports was not stopped by a mistake, and reports what its ledger holds in the end. -/
theorem report_of_execute {plan : Plan} {origin : World} {report : Report}
    (reported : (scheduler.execute host plan origin).1.result = .ok report) :
    (scheduler.loop host (.start plan) origin).1.error = none ∧
      report = (close host plan (scheduler.loop host (.start plan) origin).1
        (scheduler.loop host (.start plan) origin).2).ledger.report plan false := by
  unfold execute at reported
  dsimp only at reported
  split at reported
  · cases reported
  · next fine =>
    cases reported
    exact ⟨by rwa [error_close] at fine, rfl⟩

/-- What a run reports that neither a mistake nor a crash has stopped. -/
theorem result_execute_of_intact {plan : Plan} {origin : World}
    (fine : (scheduler.loop host (.start plan) origin).1.error = none)
    (intact : (scheduler.loop host (.start plan) origin).1.crash = none) :
    (scheduler.execute host plan origin).1.result =
      .ok ((scheduler.loop host (.start plan) origin).1.ledger.report plan false) := by
  simp [execute, fine, close_of_crash_eq_none host plan _ _ intact]

/-- Turns do not lead out of states that no turn leaves. -/
theorem Reaches.mem_of_closed {states : List (Run × World)} {before after : Run × World}
    (reached : scheduler.Reaches host before after) (inside : before ∈ states)
    (closed : ∀ state ∈ states, ∀ next, scheduler.Turn host state next → next ∈ states) :
    after ∈ states := by
  induction reached with
  | refl => exact inside
  | tail _ turn ih => exact closed _ ih _ turn

end Scheduler

/-! ## A small run -/

namespace Small

/-- A host on which there is one file, and every command makes it. -/
def host : Host (Option FileTime) where
  times time path := if path = "lib.o" then time else none
  print _ made := made
  echo _ made := (none, made)
  start _ _ made := made
  await _ _ := (none, some 1)
  choose _ _ made := (none, made)

@[simp] theorem times_host (made : Option FileTime) (path : String) :
    host.times made path = if path = "lib.o" then made else none := rfl

def scheduler : Scheduler := ⟨registry, .empty, {}⟩

theorem substituteAll_lib : scheduler.table.substituteAll lib.recipe = .ok ["cc lib.c"] := by
  cbv

def launched : Run where
  ledger := (Ledger.empty.setState "lib" .running).setCommands "lib" ["cc lib.c"]
  ahead := ["all"]
  flights := [⟨"lib", .ready 0 "cc lib.c" []⟩]
  events := [.started "lib"]

def busy : Run :=
  { launched with
    flights := [⟨"lib", .busy 0 "cc lib.c" []⟩]
    events := [.command "lib" 0 "cc lib.c", .started "lib"] }

def made : Run := { busy with flights := [⟨"lib", .finished none⟩] }

def joined : Run :=
  { made with
    ledger := made.ledger.setState "lib" .succeeded
    flights := []
    events := .completed "lib" :: made.events }

def done : Run :=
  { joined with
    ledger := joined.ledger.setState "all" .succeeded
    ahead := []
    events := .completed "all" :: .started "all" :: joined.events }

section Steps

open Scheduler

/-- What the turns of the small run come to. -/
theorem step_start : scheduler.step host (.start plan) none = some (launched, none) := by
  have jobs : scheduler.jobs = 1 := rfl
  have declared : scheduler.registry = registry := rfl
  have expanded := substituteAll_lib
  simp only [lib] at expanded
  simp [step, canScan, Run.start, plan, jobs, host, chosen?, look, declared, lib, dispatch,
    Ledger.readiness, Staleness.check, Target.alwaysDue, Staleness.isDue, Target.isAggregate,
    expanded, Run.rescan, Run.emit, Progress.ofLines, launched]

theorem step_launched : scheduler.step host launched none = some (busy, none) := by
  have jobs : scheduler.jobs = 1 := rfl
  simp [step, canScan, launched, jobs, host, chosen?, advance, startLine, echo, setProgress,
    Run.emit, busy]

theorem step_busy : scheduler.step host busy none = some (made, some 1) := by
  have jobs : scheduler.jobs = 1 := rfl
  simp [step, canScan, busy, launched, jobs, host, chosen?, advance, awaitLine, setProgress,
    Progress.afterLine, Progress.ofLines, made]

theorem step_made : scheduler.step host made (some 1) = some (joined, some 1) := by
  have jobs : scheduler.jobs = 1 := rfl
  simp [step, canScan, made, busy, launched, jobs, host, chosen?, advance, join, Run.rescan,
    Run.waiting, Run.emit, Ledger.finish, joined]

theorem step_joined : scheduler.step host joined (some 1) = some (done, some 1) := by
  have jobs : scheduler.jobs = 1 := rfl
  have declared : scheduler.registry = registry := rfl
  simp [step, canScan, joined, made, busy, launched, jobs, host, chosen?, look, declared, all,
    dispatch, Ledger.readiness, Ledger.isLost, Ledger.state_setState, TargetState.unblocks,
    Staleness.check, Target.alwaysDue, Staleness.isDue, Target.isAggregate, Run.rescan, Run.emit,
    done]

theorem step_done : scheduler.step host done (some 1) = none := by
  simp [step, canScan, done, joined]

end Steps

theorem loop_start : scheduler.loop host (.start plan) none = (done, some 1) := by
  rw [Scheduler.loop_of_turn step_start, Scheduler.loop_of_turn step_launched,
    Scheduler.loop_of_turn step_busy, Scheduler.loop_of_turn step_made,
    Scheduler.loop_of_turn step_joined, Scheduler.loop_of_over step_done]

/-- The states of the small run, each with the time of its file. -/
def history : List (Run × Option FileTime) := [
  (.start plan, none), (launched, none), (busy, none), (made, some 1), (joined, some 1),
  (done, some 1)]

/-- The turns of the small run. -/
theorem mem_zip_of_turn : ∀ state ∈ history, ∀ next, scheduler.Turn host state next →
    (state, next) ∈ history.zip history.tail := by
  simp [history, Scheduler.Turn, step_start, step_launched, step_busy, step_made, step_joined,
    step_done]

theorem mem_history_of_reaches {after : Run × Option FileTime}
    (reached : scheduler.Reaches host (.start plan, none) after) : after ∈ history :=
  reached.mem_of_closed (by simp [history]) fun state member next turn =>
    List.mem_of_mem_tail (List.of_mem_zip (mem_zip_of_turn state member next turn)).2

end Small
end TaskRunner
