import TaskRunner.Proofs.Execution.Turn
/- # TaskRunner.Proofs.Execution.Brief -- runs that their first recipe ends

Where the first recipe of a plan has one line and no other may run beside it, a run comes to an end
with it in two ways.  The line fails, and the run is not to keep going; or the command of the line
cannot be printed, and the recipe crashes, which ends a run that is to keep going too.  What each of
the two comes to is said here for every host on which nothing goes on in between.

On a fork, two targets that do not need one another and a third that needs both, the second way
leaves behind an entry that nothing keeps from starting. -/

namespace TaskRunner
set_option autoImplicit false

namespace Run

variable (name command : String) (rest : List String)

/-- A run of which the first recipe is in flight, with one line. -/
def opened : Run where
  ledger := (Ledger.empty.setState name .running).setCommands name [command]
  ahead := rest
  flights := [⟨name, .ready 0 command []⟩]
  events := [.started name]

/-- The line is running. -/
def engaged : Run :=
  { opened name command rest with
    flights := [⟨name, .busy 0 command []⟩]
    events := [.command name 0 command, .started name] }

/-- The line has failed. -/
def failing (cause : LineFailure) : Run :=
  { engaged name command rest with
    flights := [⟨name, .finished (some ⟨name, 0, command, cause⟩)⟩] }

/-- The recipe whose line has failed was joined. -/
def cutShort (cause : LineFailure) : Run :=
  { engaged name command rest with
    ledger := (engaged name command rest).ledger.finish name (some ⟨name, 0, command, cause⟩)
    flights := []
    halted := true
    events := .failed ⟨name, 0, command, cause⟩ :: (engaged name command rest).events }

/-- The command of the line could not be printed. -/
def crashing (error : String) : Run :=
  { opened name command rest with flights := [⟨name, .crashed 0 command [] error⟩] }

/-- The recipe that has crashed was joined. -/
def bereft (error : String) : Run :=
  { opened name command rest with flights := [], halted := true, crash := some error }

end Run

namespace Scheduler

variable {World : Type} {scheduler : Scheduler} {host : Host World} {plan : Plan} {target : Target}
  {command error : String} {rest : List String} {cause : LineFailure} {world aside after : World}

/-- What makes the first entry of a plan a recipe of one line that starts at once, alone. -/
structure Opens (scheduler : Scheduler) (host : Host World) (plan : Plan) (target : Target)
    (command : String) (rest : List String) : Prop where
  order : plan.targets = target.name :: rest
  found : scheduler.registry.get? target.name = some target
  free : target.prerequisites = []
  due : target.alwaysDue = true
  works : target.isAggregate = false
  expanded : scheduler.table.substituteAll target.recipe = .ok [command]
  alone : scheduler.jobs = 1
  calm : ∀ scanning flights world, host.choose scanning flights world = (none, world)

namespace Opens

variable (opens : scheduler.Opens host plan target command rest)

include opens

theorem step_start : scheduler.step host (.start plan) world =
    some (.opened target.name command rest, world) := by
  have ready : Ledger.empty.readiness target = .ready := by simp [Ledger.readiness, opens.free]
  have due : (Staleness.check scheduler.registry (host.times world) [] target).isDue = true := by
    simp [Staleness.check, opens.due, Staleness.isDue]
  simp [step, canScan, Run.start, opens.order, opens.alone, opens.calm, chosen?, look, opens.found,
    ready, dispatch, due, opens.works, opens.expanded, Run.rescan, Run.emit, Progress.ofLines,
    Run.opened]

theorem step_opened (echoed : scheduler.echo host command world = (none, aside)) :
    scheduler.step host (.opened target.name command rest) world =
      some (.engaged target.name command rest, host.start target.name command aside) := by
  simp [step, canScan, Run.opened, opens.alone, opens.calm, chosen?, advance, startLine, echoed,
    setProgress, Run.emit, Run.engaged]

theorem step_engaged (ends : host.await target.name world = (some cause, after)) :
    scheduler.step host (.engaged target.name command rest) world =
      some (.failing target.name command rest cause, after) := by
  simp [step, canScan, Run.engaged, Run.opened, opens.alone, opens.calm, chosen?, advance,
    awaitLine, ends, setProgress, Progress.afterLine, Run.failing]

theorem step_failing (stops : scheduler.options.keepGoing = false) :
    scheduler.step host (.failing target.name command rest cause) world =
      some (.cutShort target.name command rest cause, world) := by
  simp [step, canScan, Run.failing, Run.engaged, Run.opened, opens.alone, opens.calm, chosen?,
    advance, join, stops, Run.rescan, Run.waiting, Run.emit, Run.cutShort]

/-- The run that its first recipe ends by failing. -/
theorem loop_of_failure (stops : scheduler.options.keepGoing = false)
    (echoed : scheduler.echo host command world = (none, aside))
    (ends : host.await target.name (host.start target.name command aside) = (some cause, after)) :
    scheduler.loop host (.start plan) world =
      (.cutShort target.name command rest cause, after) := by
  rw [loop_of_turn opens.step_start, loop_of_turn (opens.step_opened echoed),
    loop_of_turn (opens.step_engaged ends), loop_of_turn (opens.step_failing stops),
    loop_of_over (by simp [step, canScan, Run.cutShort])]

theorem result_of_failure (stops : scheduler.options.keepGoing = false)
    (echoed : scheduler.echo host command world = (none, aside))
    (ends : host.await target.name (host.start target.name command aside) = (some cause, after)) :
    (scheduler.execute host plan world).1.result =
      .ok ((Run.cutShort target.name command rest cause).ledger.report plan false) := by
  have last := opens.loop_of_failure stops echoed ends
  have fine : (scheduler.loop host (.start plan) world).1.error = none := by rw [last]; rfl
  have intact : (scheduler.loop host (.start plan) world).1.crash = none := by rw [last]; rfl
  rw [result_execute_of_intact fine intact, last]

theorem step_crashing (echoed : scheduler.echo host command world = (some error, after)) :
    scheduler.step host (.opened target.name command rest) world =
      some (.crashing target.name command rest error, after) := by
  simp [step, canScan, Run.opened, opens.alone, opens.calm, chosen?, advance, startLine, echoed,
    setProgress, Run.crashing]

theorem step_bereft : scheduler.step host (.crashing target.name command rest error) world =
    some (.bereft target.name command rest error, world) := by
  simp [step, canScan, Run.crashing, Run.opened, opens.alone, opens.calm, chosen?, advance, lose,
    Run.rescan, Run.waiting, Run.bereft]

/-- The run that its first recipe ends by crashing, whether it is to keep going or not. -/
theorem loop_of_crash (echoed : scheduler.echo host command world = (some error, after)) :
    scheduler.loop host (.start plan) world =
      (.bereft target.name command rest error, after) := by
  rw [loop_of_turn opens.step_start, loop_of_turn (opens.step_crashing echoed),
    loop_of_turn opens.step_bereft, loop_of_over (by simp [step, canScan, Run.bereft])]

end Opens

end Scheduler

/-! ## A fork -/

namespace Fork

def one : Target := { name := "one", recipe := ["first"] }

def two : Target := { name := "two", recipe := ["second"] }

/-- A target that needs two others, which do not need one another. -/
def both : Target := { name := "both", prerequisites := ["one", "two"] }

def registry : Registry where
  targets := #[one, two, both]
  index := ((Registry.Draft.empty.index.insert one.name 0).insert two.name 1).insert both.name 2
  index_eq_some_iff := by
    refine Registry.Draft.index_push (Registry.Draft.index_push (Registry.Draft.index_push
      Registry.Draft.empty.index_eq_some_iff ?_) ?_) ?_ <;>
      simp [Registry.Draft.empty, one, two, both]
  closed := by simp [one, two, both, Registry.Draft.contains, Registry.Draft.empty]

theorem cases_of_get? {name : String} {target : Target} (found : registry.get? name = some target) :
    target = one ∨ target = two ∨ target = both := by
  simpa [registry] using Registry.mem_of_get? found

theorem get?_registry : registry.get? "one" = some one ∧ registry.get? "two" = some two ∧
    registry.get? "both" = some both := by
  simp [Registry.Draft.get?_eq_some_iff, registry, one, two, both]

theorem substituteAll_one : Variable.Table.empty.substituteAll one.recipe = .ok ["first"] := by
  cbv

theorem substituteAll_two : Variable.Table.empty.substituteAll two.recipe = .ok ["second"] := by
  cbv

def plan : Plan := ⟨["one", "two", "both"]⟩

theorem plan_registry : registry.plan ["both"] = .ok plan := by
  obtain ⟨foundOne, foundTwo, foundBoth⟩ := get?_registry
  simp only [one, two, both] at foundOne foundTwo foundBoth
  simp [Registry.plan, Plan.visit, plan, foundOne, foundTwo, foundBoth, Plan.walk_of_over,
    Plan.walk_of_looked, Plan.walk_of_fresh, bind, Except.bind, pure, Except.pure]

def scheduler : Scheduler := ⟨registry, .empty, {}⟩

/-- The fork is run by one recipe at a time, whatever fails. -/
def persistent : Scheduler := { scheduler with options := { keepGoing := true } }

/-- The first recipe of the fork starts at once. -/
theorem opens {World : Type} (host : Host World) {options : RunOptions}
    (alone : options.jobs = 1)
    (calm : ∀ scanning flights world, host.choose scanning flights world = (none, world)) :
    Scheduler.Opens ⟨registry, .empty, options⟩ host plan one "first" ["two", "both"] where
  order := rfl
  found := get?_registry.1
  free := rfl
  due := rfl
  works := rfl
  expanded := substituteAll_one
  alone := by rw [Scheduler.jobs, alone]; rfl
  calm

/-- A host on which nothing can be printed. -/
def mute : Host Unit where
  times _ _ := none
  print _ world := world
  echo _ world := (some "panicked", world)
  start _ _ world := world
  await _ world := (none, world)
  choose _ _ world := (none, world)

/-- The run of the fork on that host: it ends when the first recipe is joined. -/
def bereft : Run := .bereft "one" "first" ["two", "both"] "panicked"

theorem loop_mute : persistent.loop mute (.start plan) () = (bereft, ()) :=
  (opens mute rfl fun _ _ _ => rfl).loop_of_crash rfl

theorem running_bereft : bereft.running plan = ["one"] := by
  simp [Run.running, plan, bereft, Run.bereft, Run.opened, Ledger.state_setState]

/-- The report on that run. -/
def bereftReport : Report where
  plan
  outcomes := [⟨"one", .failed, ["first"]⟩, ⟨"two", .pending, []⟩, ⟨"both", .pending, []⟩]
  failures := [.ofCrash "panicked" "one"]
  dryRun := false

theorem execute_mute : persistent.execute mute plan () =
    (⟨.ok bereftReport, [.started "one"]⟩, ()) := by
  have closed : (Scheduler.close mute plan bereft ()).ledger.report plan false = bereftReport := by
    have crashed : bereft.crash = some "panicked" := rfl
    have one : mute.arrange ["one"] () = ["one"] := rfl
    simp only [Ledger.report, Scheduler.state_close_of_crash mute plan bereft () crashed,
      Scheduler.failures_close_of_crash mute plan bereft () crashed, Scheduler.linesOf_close,
      running_bereft, one]
    simp [plan, bereft, Run.bereft, Run.opened, Ledger.state_setState, Ledger.linesOf_setCommands,
      bereftReport]
    rfl
  have fine : bereft.error = none := rfl
  simp only [Scheduler.execute, loop_mute, Scheduler.error_close, Scheduler.events_close, fine,
    closed]
  rfl

end Fork
end TaskRunner
