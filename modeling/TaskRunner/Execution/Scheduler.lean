import TaskRunner.Execution.Host
import TaskRunner.Execution.Ledger
import TaskRunner.Variable.Substitution
/- # TaskRunner.Execution.Scheduler -- running a plan

A coordinator and the recipes in flight take turns; the host says whose turn it is.  The coordinator
goes through the waiting entries in the order of the plan and looks at the first that it has not
looked at: it passes an entry that has to wait, withholds one that can never start, and otherwise
skips it, completes it or starts its recipe, after which it begins again with the first waiting
entry.  It does so while fewer recipes are in flight than there are jobs.  Then it joins a recipe
that is over, notes how it ended, and begins again.

After a failure no further entry is looked at, unless the options say to keep going.  A recipe line
in which a reference cannot be replaced ends the scan too, and the run has no report.  So does a
recipe that has crashed, whatever the options say.  Nobody can tell then which entry it was of: the
entry stays running until nothing is in flight any more, and fails then, without an event. -/

namespace TaskRunner
set_option autoImplicit false

/-- What stays the same during a run. -/
structure Scheduler where
  registry : Registry
  table : Variable.Table
  options : RunOptions

/-- The state of a run. -/
structure Run where
  ledger : Ledger := .empty
  /-- The waiting entries that were looked at since the scan began, the last one first. -/
  passed : List String := []
  /-- The waiting entries that were not. -/
  ahead : List String
  flights : List Flight := []
  /-- Whether no further entry may start. -/
  halted : Bool := false
  /-- What became of the recipe that was joined last of those that have crashed. -/
  crash : Option String := none
  /-- The mistake that stopped the run. -/
  error : Option ConfigError := none
  /-- What happened so far, the latest first. -/
  events : List Event := []

namespace Run

/-- The state in which the run of a plan begins. -/
def start (plan : Plan) : Run := { ahead := plan.targets }

/-- The entries that have not started, in the order of the plan. -/
def waiting (run : Run) : List String := run.passed.reverse ++ run.ahead

def emit (run : Run) (event : Event) : Run := { run with events := event :: run.events }

/-- Begins again with the first of the given waiting entries. -/
def rescan (run : Run) (waiting : List String) : Run :=
  { run with passed := [], ahead := waiting }

/-- The entries of a plan that are running, in order. -/
def running (plan : Plan) (run : Run) : List String :=
  plan.targets.filter (run.ledger.state · == .running)

/-- A bound on the steps that are left, taken in lexicographic order. -/
def measure (run : Run) : Nat × Nat × Nat :=
  (run.passed.length + run.ahead.length, Flight.totalWork run.flights, run.ahead.length)

end Run

namespace Scheduler
variable {World : Type} (scheduler : Scheduler) (host : Host World)

/-- How many recipes may be in flight. -/
def jobs : Nat := max scheduler.options.jobs 1

/-- Whether the coordinator has an entry to look at. -/
def canScan (run : Run) : Bool :=
  !run.halted && !run.ahead.isEmpty && run.flights.length < scheduler.jobs

/-! ## The turn of the coordinator -/

/-- Deals with an entry that may start, where `waiting` are the others that have not. -/
def dispatch (run : Run) (world : World) (target : Target) (waiting : List String) : Run :=
  let run := run.rescan waiting
  let name := target.name
  let verdict := Staleness.check scheduler.registry (host.times world) [] target
  if !verdict.isDue then
    { run.emit (.skipped name verdict.message) with ledger := run.ledger.setState name .skipped }
  else if target.isAggregate then
    { (run.emit (.started name)).emit (.completed name) with
      ledger := run.ledger.setState name .succeeded }
  else
    match scheduler.table.substituteAll target.recipe with
    | .error e => { run with halted := true, error := some e }
    | .ok lines =>
      { run.emit (.started name) with
        ledger := (run.ledger.setState name .running).setCommands name lines
        flights := run.flights ++ [⟨name, Progress.ofLines 0 lines⟩] }

/-- Looks at a waiting entry, where `ahead` are those that come after it. -/
def look (run : Run) (world : World) (name : String) (ahead : List String) : Run :=
  match scheduler.registry.get? name with
  | none =>
    { run with ahead, flights := [], halted := true, error := some (.unknownTarget name) }
  | some target =>
    match run.ledger.readiness target with
    | .waiting => { run with passed := name :: run.passed, ahead }
    | .withheld _ => { run with ahead, ledger := run.ledger.withhold name }
    | .ready => scheduler.dispatch host run world target (run.passed.reverse ++ ahead)

/-- Joins a recipe that is over, the one at position `i`. -/
def join (run : Run) (i : Nat) (name : String) (failure : Option TargetFailure) : Run :=
  let run := run.rescan run.waiting
  let event := match failure with
    | none => Event.completed name
    | some failure => .failed failure
  { run.emit event with
    ledger := run.ledger.finish name failure
    flights := run.flights.eraseIdx i
    halted := run.halted || (failure.isSome && !scheduler.options.keepGoing) }

/-- Joins a recipe that has crashed, the one at position `i`. -/
def lose (run : Run) (i : Nat) (error : String) : Run :=
  { run.rescan run.waiting with
    flights := run.flights.eraseIdx i, halted := true, crash := some error }

/-! ## The turn of a recipe -/

/-- A recipe in flight with another progress. -/
def setProgress (run : Run) (i : Nat) (flight : Flight) (progress : Progress) : Run :=
  { run with flights := run.flights.set i { flight with progress } }

/-- Prints the command of a line, if the options say so; the recipe crashes if that fails. -/
def echo (command : String) (world : World) : Option String × World :=
  if scheduler.options.echo then host.echo command world else (none, world)

/-- Starts the next line of a recipe. -/
def startLine (run : Run) (world : World) (i : Nat) (flight : Flight) (line : Nat)
    (command : String) (rest : List String) : Run × World :=
  match scheduler.echo host command world with
  | (some error, world) => (setProgress run i flight (.crashed line command rest error), world)
  | (none, world) =>
    (setProgress (run.emit (.command flight.target line command)) i flight
        (.busy line command rest),
      host.start flight.target command world)

/-- Waits for the running line of a recipe. -/
def awaitLine (run : Run) (world : World) (i : Nat) (flight : Flight) (line : Nat)
    (command : String) (rest : List String) : Run × World :=
  let (result, world) := host.await flight.target world
  (setProgress run i flight (.afterLine flight.target line command rest result), world)

/-- The turn of the recipe at position `i`; the coordinator joins one that is over. -/
def advance (run : Run) (world : World) (i : Nat) (flight : Flight) : Run × World :=
  match flight.progress with
  | .ready line command rest => scheduler.startLine host run world i flight line command rest
  | .busy line command rest => awaitLine host run world i flight line command rest
  | .finished failure => (scheduler.join run i flight.target failure, world)
  | .crashed _ _ _ error => (lose run i error, world)

/-! ## Turns -/

/-- The recipe that a host chose, if there is one at that position. -/
def chosen? (run : Run) (choice : Option Nat) : Option (Nat × Flight) :=
  choice.bind fun i => run.flights[i]?.map (i, ·)

/-- One turn, or nothing if the run is over.  A recipe that is over takes no turn while the
coordinator has entries to look at, and otherwise the first recipe stands in for a choice that is
none of them. -/
def step (run : Run) (world : World) : Option (Run × World) :=
  if scheduler.canScan run then
    match run.ahead with
    | [] => none
    | name :: ahead =>
      let (choice, world) := host.choose true run.flights world
      match chosen? run choice with
      | none => some (scheduler.look host run world name ahead, world)
      | some (i, flight) =>
        if flight.progress.isFinished then some (scheduler.look host run world name ahead, world)
        else some (scheduler.advance host run world i flight)
  else
    match run.flights with
    | [] => none
    | first :: _ =>
      let (choice, world) := host.choose false run.flights world
      let (i, flight) := (chosen? run choice).getD (0, first)
      some (scheduler.advance host run world i flight)

theorem flights_of_chosen? {run : Run} {choice : Option Nat} {i : Nat} {flight : Flight}
    (h : chosen? run choice = some (i, flight)) : run.flights[i]? = some flight := by
  simp only [chosen?, Option.bind_eq_some_iff, Option.map_eq_some_iff, Prod.mk.injEq] at h
  obtain ⟨j, -, found, same, rfl, rfl⟩ := h
  exact same

/-- A turn is the coordinator's, which looks at the entry in front, or that of a recipe in flight,
which is joined only when the coordinator has nothing to look at. -/
theorem step_cases {run next : Run} {world after : World}
    (h : scheduler.step host run world = some (next, after)) :
    (∃ name ahead, scheduler.canScan run = true ∧ run.ahead = name :: ahead ∧
      next = scheduler.look host run after name ahead ∧
      after = (host.choose (scheduler.canScan run) run.flights world).2) ∨
    ∃ i flight, run.flights[i]? = some flight ∧
      (flight.progress.isFinished = true → scheduler.canScan run = false) ∧
      (next, after) = scheduler.advance host run
        (host.choose (scheduler.canScan run) run.flights world).2 i flight := by
  unfold step at h
  split at h
  · next scans =>
    rw [scans]
    split at h
    · cases h
    · next name ahead front =>
      dsimp only at h
      split at h
      · cases h
        exact .inl ⟨name, ahead, rfl, front, rfl, rfl⟩
      · next i flight chosen =>
        split at h
        · cases h
          exact .inl ⟨name, ahead, rfl, front, rfl, rfl⟩
        · next unfinished =>
          exact .inr ⟨i, flight, flights_of_chosen? chosen,
            fun finished => absurd finished unfinished, (Option.some.inj h).symm⟩
  · next idle =>
    have idle : scheduler.canScan run = false := by simpa using idle
    rw [idle]
    split at h
    · cases h
    · next first rest front =>
      refine .inr ⟨_, _, ?_, fun _ => rfl, (Option.some.inj h).symm⟩
      cases chosen : chosen? run (host.choose false run.flights world).1 with
      | none => simp [front]
      | some found => exact flights_of_chosen? chosen

/-! ## Every turn leaves less to do -/

theorem measure_look (run : Run) (world : World) (name : String) (ahead : List String)
    (h : run.ahead = name :: ahead) :
    Prod.Lex (· < ·) (Prod.Lex (· < ·) (· < ·))
      (scheduler.look host run world name ahead).measure run.measure := by
  unfold look
  split
  · exact Prod.Lex.left _ _ (by simp [h])
  · next target _ =>
    split
    · refine Prod.lex_def.2 (Or.inr ⟨?_, Prod.lex_def.2 (Or.inr ⟨rfl, ?_⟩)⟩) <;>
        simp [Run.measure, h]
      omega
    · exact Prod.Lex.left _ _ (by simp [h])
    · refine Prod.Lex.left _ _ ?_
      unfold dispatch
      simp only [Run.rescan, Run.emit]
      split
      · simp [h]
      · split
        · simp [h]
        · split <;> simp [h]

theorem measure_advance {run : Run} (world : World) {i : Nat} {flight : Flight}
    (found : run.flights[i]? = some flight) :
    Prod.Lex (· < ·) (Prod.Lex (· < ·) (· < ·))
      (scheduler.advance host run world i flight).1.measure run.measure := by
  unfold advance
  split
  · next line command rest h =>
    unfold startLine
    split <;>
    · refine Prod.lex_def.2 (Or.inr ⟨rfl, Prod.lex_def.2 (Or.inl ?_)⟩)
      exact Flight.totalWork_set found (by simp [h, Progress.work])
  · next line command rest h =>
    refine Prod.lex_def.2 (Or.inr ⟨rfl, Prod.lex_def.2 (Or.inl ?_)⟩)
    exact Flight.totalWork_set found (by rw [h]; exact Progress.work_afterLine ..)
  all_goals
    refine Prod.lex_def.2 (Or.inr ⟨?_, Prod.lex_def.2 (Or.inl ?_)⟩)
    · simp [join, lose, Run.measure, Run.rescan, Run.emit, Run.waiting]
    · exact Flight.totalWork_eraseIdx found

theorem measure_step {run next : Run} {world after : World}
    (h : scheduler.step host run world = some (next, after)) :
    Prod.Lex (· < ·) (Prod.Lex (· < ·) (· < ·)) next.measure run.measure := by
  rcases step_cases scheduler host h with
    ⟨name, ahead, -, front, rfl, -⟩ | ⟨i, flight, found, -, turn⟩
  · exact measure_look scheduler host run after name ahead front
  · obtain rfl := congrArg Prod.fst turn
    exact measure_advance scheduler host _ found

/-- Takes turns until the run is over. -/
def loop (run : Run) (world : World) : Run × World :=
  match _h : scheduler.step host run world with
  | none => (run, world)
  | some (next, after) => loop next after
termination_by run.measure
decreasing_by exact measure_step scheduler host _h

/-- A run when nothing is in flight any more: if a recipe has crashed, the entries that are still
running have failed. -/
def close (plan : Plan) (run : Run) (world : World) : Run :=
  match run.crash with
  | none => run
  | some error =>
    { run with ledger := run.ledger.noteCrashes error (host.arrange (run.running plan) world) }

/-- Runs a plan. -/
def execute (plan : Plan) (world : World) : Execution × World :=
  let (run, world) := scheduler.loop host (.start plan) world
  let run := close host plan run world
  let result := match run.error with
    | some e => .error e
    | none => .ok (run.ledger.report plan false)
  ({ result, events := run.events.reverse }, world)

end Scheduler
end TaskRunner
