import TaskRunner.Proofs.Execution.Brief
/- # TaskRunner.Proofs.Execution.Sequential -- a run without parallelism is a plain loop

Where only one recipe may run at once, the coordinator, which scans the waiting entries again and
again, passes some of them and joins what is over, comes down to one walk along the plan.
`Scheduler.inOrder` is that walk, written without a ledger, flights or turns: it looks at each entry
once, and runs the lines of a recipe one after the other.  A failure ends it unless the run is to
keep going, and a recipe that crashes ends it in any case.

The plan is in topological order, so when the coordinator looks at an entry all of its prerequisites
have been dealt with (`Tour.Matches`).  It never has to pass one, and the waiting entries are always
the end of the plan that the walk has before it. -/

namespace TaskRunner
set_option autoImplicit false

/-! ## The walk -/

/-- What goes on of itself before a turn, while a host settles whose turn it is.  On a host that
only chooses this is nothing; on one that waits for commands they come to their end meanwhile. -/
def Host.pause {World : Type} (host : Host World) (scanning : Bool) (flights : List Flight)
    (world : World) : World :=
  (host.choose scanning flights world).2

/-- How a recipe ends. -/
inductive Ending where
  | finished (failure : Option TargetFailure)
  /-- The command of a line cannot be printed; `rest` comes after it. -/
  | crashed (line : Nat) (command : String) (rest : List String) (error : String)

namespace Ending

/-- How far a recipe has come that has ended. -/
def progress : Ending → Progress
  | finished failure => .finished failure
  | crashed line command rest error => .crashed line command rest error

/-- The failure that is noted of a target whose recipe has ended. -/
def failure (target : String) : Ending → Option TargetFailure
  | finished failure => failure
  | crashed _ _ _ error => some (.ofCrash error target)

end Ending

/-- What has come of the entries of a plan that a walk has behind it. -/
structure Tour where
  /-- The outcomes, in the order of the plan. -/
  outcomes : List Outcome := []
  failures : List TargetFailure := []
  /-- Whether a recipe has crashed. -/
  crashed : Bool := false
  /-- What happened so far, in order. -/
  events : List Event := []

namespace Tour

/-- Whether what needs an entry is to be left: the entry failed, or was left itself. -/
def isLost (tour : Tour) (name : String) : Bool :=
  tour.outcomes.any fun outcome =>
    outcome.name == name && (outcome.state == .failed || outcome.state == .pending)

/-- Goes past an entry with an outcome and what happened to it. -/
def add (tour : Tour) (outcome : Outcome) (events : List Event) : Tour :=
  { tour with outcomes := tour.outcomes ++ [outcome], events := tour.events ++ events }

/-- Leaves an entry pending. -/
def leave (tour : Tour) (name : String) : Tour := tour.add ⟨name, .pending, []⟩ []

/-- Goes past an entry of which some lines ran, with the events that they had and how they ended. -/
def perform (tour : Tour) (name : String) (lines : List String) (events : List Event) :
    Ending → Tour
  | .finished none =>
    tour.add ⟨name, .succeeded, lines⟩ (.started name :: events ++ [.completed name])
  | .finished (some failure) =>
    { tour.add ⟨name, .failed, lines⟩ (.started name :: events ++ [.failed failure]) with
      failures := tour.failures ++ [failure] }
  | .crashed _ _ _ error =>
    { tour.add ⟨name, .failed, lines⟩ (.started name :: events) with
      failures := tour.failures ++ [.ofCrash error name], crashed := true }

/-- The report of a walk. -/
def report (tour : Tour) (plan : Plan) : Report where
  plan
  outcomes := tour.outcomes
  failures := tour.failures
  dryRun := false

end Tour

namespace Scheduler

section Walk

variable {World : Type} (scheduler : Scheduler) (host : Host World)

/-- Runs lines of a target one after the other, up to the first one that fails, or of which the
command cannot be printed. -/
def runLines (target : String) (line : Nat) (world : World) :
    List String → Ending × List Event × World
  | [] => (.finished none, [], world)
  | command :: rest =>
    let world := host.pause false [⟨target, .ready line command rest⟩] world
    match scheduler.echo host command world with
    | (some error, world) => (.crashed line command rest error, [], world)
    | (none, world) =>
      let world := host.start target command world
      let world := host.pause false [⟨target, .busy line command rest⟩] world
      match host.await target world with
      | (some cause, world) =>
        (.finished (some ⟨target, line, command, cause⟩), [.command target line command], world)
      | (none, world) =>
        let (ending, events, world) := runLines target (line + 1) world rest
        (ending, .command target line command :: events, world)

/-- Deals with an entry that may start, up to the end of its recipe. -/
def deal (tour : Tour) (world : World) (target : Target) : Option ConfigError × Tour × World :=
  let name := target.name
  let verdict := Staleness.check scheduler.registry (host.times world) [] target
  if !verdict.isDue then
    (none, tour.add ⟨name, .skipped, []⟩ [.skipped name verdict.message], world)
  else if target.isAggregate then
    (none, tour.add ⟨name, .succeeded, []⟩ [.started name, .completed name], world)
  else
    match scheduler.table.substituteAll target.recipe with
    | .error e => (some e, tour, world)
    | .ok lines =>
      let (ending, events, world) := scheduler.runLines host name 0 world lines
      (none, tour.perform name lines events ending,
        host.pause false [⟨name, ending.progress⟩] world)

/-- Whether the rest of a plan is to be left, because of a failure or a crash. -/
def stops (tour : Tour) : Bool :=
  tour.crashed || (!tour.failures.isEmpty && !scheduler.options.keepGoing)

/-- Walks along the entries of a list until one of them shows a mistake. -/
def inOrder (tour : Tour) (world : World) :
    List String → Option ConfigError × Tour × World
  | [] => (none, tour, world)
  | name :: rest =>
    if scheduler.stops tour then inOrder (tour.leave name) world rest
    else
      let world := host.pause true [] world
      match scheduler.registry.get? name with
      | none => (some (.unknownTarget name), tour, world)
      | some target =>
        if target.prerequisites.any tour.isLost then inOrder (tour.leave name) world rest
        else
          match scheduler.deal host tour world target with
          | (none, tour, world) => inOrder tour world rest
          | (some e, tour, world) => (some e, tour, world)

/-- Runs a plan by one walk along it. -/
def executeInOrder (plan : Plan) (world : World) : Execution × World :=
  let (error, tour, world) := scheduler.inOrder host {} world plan.targets
  let result := match error with
    | some e => .error e
    | none => .ok (tour.report plan)
  ({ result, events := tour.events }, world)

end Walk

variable {World : Type} {scheduler : Scheduler} {host : Host World}

/-! ## Turns of a run with one recipe -/

theorem step_of_scan {run : Run} {world : World} {name : String} {ahead : List String}
    (scans : scheduler.canScan run = true) (front : run.ahead = name :: ahead)
    (grounded : run.flights = []) :
    scheduler.step host run world =
      some (scheduler.look host run (host.pause true [] world) name ahead,
        host.pause true [] world) := by
  have unchosen : ∀ choice, chosen? run choice = none := by
    intro choice
    cases choice <;> simp [chosen?, grounded]
  rw [step, if_pos scans, front]
  simp only [unchosen, grounded, Host.pause]

theorem step_of_flight {run : Run} {world : World} {flight : Flight}
    (idle : scheduler.canScan run = false) (alone : run.flights = [flight]) :
    scheduler.step host run world =
      some (scheduler.advance host run (host.pause false [flight] world) 0 flight) := by
  have chosen : ∀ choice, (chosen? run choice).getD (0, flight) = (0, flight) := by
    intro choice
    rcases choice with _ | _ | i <;> simp [chosen?, alone]
  rw [step, if_neg (by simp [idle]), alone]
  simp only [chosen, Host.pause]

end Scheduler

/-- A run in which one recipe has come so far. -/
def Run.flying (run : Run) (target : String) (progress : Progress) (events : List Event) : Run :=
  { run with flights := [⟨target, progress⟩], events }

namespace Scheduler

variable {World : Type} {scheduler : Scheduler} {host : Host World}

section Lines

variable (one : scheduler.jobs = 1) (run : Run) (target : String)

include one

theorem canScan_flying (progress : Progress) (events : List Event) :
    scheduler.canScan (run.flying target progress events) = false := by
  simp [canScan, Run.flying, one]

theorem loop_ready (line : Nat) (command : String) (rest : List String) (events : List Event)
    (world : World) :
    scheduler.loop host (run.flying target (.ready line command rest) events) world =
      match scheduler.echo host command
        (host.pause false [⟨target, .ready line command rest⟩] world) with
      | (some error, after) =>
        scheduler.loop host (run.flying target (.crashed line command rest error) events) after
      | (none, after) =>
        scheduler.loop host
          (run.flying target (.busy line command rest) (.command target line command :: events))
          (host.start target command after) := by
  rw [loop_of_turn (step_of_flight (canScan_flying one run target _ events) rfl)]
  simp only [startLine]
  generalize scheduler.echo host command _ = echoed
  obtain ⟨_ | error, after⟩ := echoed <;> rfl

theorem loop_busy (line : Nat) (command : String) (rest : List String) (events : List Event)
    (world : World) :
    let ended := host.await target (host.pause false [⟨target, .busy line command rest⟩] world)
    scheduler.loop host (run.flying target (.busy line command rest) events) world =
      scheduler.loop host
        (run.flying target (.afterLine target line command rest ended.1) events) ended.2 :=
  loop_of_turn (step_of_flight (canScan_flying one run target _ events) rfl)

theorem loop_finished (failure : Option TargetFailure) (events : List Event) (world : World) :
    scheduler.loop host (run.flying target (.finished failure) events) world =
      scheduler.loop host
        (scheduler.join (run.flying target (.finished failure) events) 0 target failure)
        (host.pause false [⟨target, .finished failure⟩] world) :=
  loop_of_turn (step_of_flight (canScan_flying one run target _ events) rfl)

theorem loop_crashed (line : Nat) (command : String) (rest : List String) (error : String)
    (events : List Event) (world : World) :
    scheduler.loop host (run.flying target (.crashed line command rest error) events) world =
      scheduler.loop host
        (lose (run.flying target (.crashed line command rest error) events) 0 error)
        (host.pause false [⟨target, .crashed line command rest error⟩] world) :=
  loop_of_turn (step_of_flight (canScan_flying one run target _ events) rfl)

/-- The turns of a recipe that is alone run its lines one after the other. -/
theorem loop_lines (lines : List String) (line : Nat) (events : List Event) (world : World) :
    let ran := scheduler.runLines host target line world lines
    scheduler.loop host (run.flying target (.ofLines line lines) events) world =
      scheduler.loop host (run.flying target ran.1.progress (ran.2.1.reverse ++ events))
        ran.2.2 := by
  induction lines generalizing line events world with
  | nil => rfl
  | cons command rest ih =>
    simp only [Progress.ofLines, runLines]
    rw [loop_ready one]
    generalize scheduler.echo host command _ = echoed
    obtain ⟨_ | error, between⟩ := echoed
    case some => rfl
    dsimp only
    rw [loop_busy one]
    generalize host.await target _ = ended
    obtain ⟨_ | cause, after⟩ := ended
    case some => rfl
    rw [Progress.afterLine, ih]
    simp

end Lines

end Scheduler

/-! ## What the walk and the ledger have in common -/

namespace Tour

/-- Whether a ledger tells of the entries that a walk has behind it what the walk does, and nothing
of the others. -/
structure Matches (tour : Tour) (ledger : Ledger) (seen : List String) : Prop where
  outcomes : tour.outcomes = seen.map fun name => ⟨name, ledger.state name, ledger.linesOf name⟩
  failures : ledger.failures = tour.failures
  settled : ∀ name ∈ seen, ledger.state name ≠ .running
  untouched : ∀ name, name ∉ seen → ledger.state name = .pending ∧ ledger.linesOf name = []
  withheld_iff : ∀ name, name ∈ ledger.withheld ↔ name ∈ seen ∧ ledger.state name = .pending

theorem matches_empty : ({} : Tour).Matches .empty [] where
  outcomes := rfl
  failures := rfl
  settled := fun name member => absurd member List.not_mem_nil
  untouched := fun name _ => ⟨Ledger.state_empty name, Ledger.linesOf_empty name⟩
  withheld_iff := fun name => by simp

namespace Matches

variable {tour : Tour} {ledger : Ledger} {seen : List String} (agreed : tour.Matches ledger seen)

include agreed

theorem isLost_eq {name : String} (member : name ∈ seen) :
    tour.isLost name = ledger.isLost name := by
  rw [Bool.eq_iff_iff, Ledger.isLost_iff, agreed.withheld_iff, isLost, agreed.outcomes]
  simp [member, or_comm]

/-- Once its prerequisites are behind the walk, an entry is ready or withheld. -/
theorem readiness {target : Target} (earlier : ∀ name ∈ target.prerequisites, name ∈ seen) :
    if target.prerequisites.any tour.isLost then ∃ name, ledger.readiness target = .withheld name
    else ledger.readiness target = .ready := by
  split
  · next lost =>
    obtain ⟨name, needed, lost⟩ := List.any_eq_true.1 lost
    rw [agreed.isLost_eq (earlier name needed)] at lost
    cases readiness : ledger.readiness target with
    | withheld name => exact ⟨name, rfl⟩
    | ready =>
      have kept := ((Ledger.readiness_eq_ready_iff ..).1 readiness).1 name needed
      rw [lost] at kept
      cases kept
    | waiting =>
      have kept := ((Ledger.readiness_eq_waiting_iff ..).1 readiness).1 name needed
      rw [lost] at kept
      cases kept
  · next kept =>
    have kept : ∀ name ∈ target.prerequisites, ledger.isLost name = false := by
      intro name needed
      rw [← agreed.isLost_eq (earlier name needed)]
      simpa using fun lost => kept (List.any_eq_true.2 ⟨name, needed, lost⟩)
    refine (Ledger.readiness_eq_ready_iff ..).2 ⟨kept, fun name needed => ?_⟩
    have member := earlier name needed
    have sound := kept name needed
    rw [← Bool.not_eq_true, Ledger.isLost_iff, agreed.withheld_iff] at sound
    cases state : ledger.state name with
    | pending => exact absurd (.inl ⟨member, state⟩) sound
    | failed => exact absurd (.inr state) sound
    | running => exact absurd state (agreed.settled name member)
    | skipped | succeeded => rfl

/-- The walk goes past an entry, and the ledger notes its outcome. -/
theorem snoc {name : String} {after : Tour} {next : Ledger} {state : TargetState}
    {lines : List String} (fresh : name ∉ seen) (idle : state ≠ .running)
    (outcomes : after.outcomes = tour.outcomes ++ [⟨name, state, lines⟩])
    (failures : next.failures = after.failures)
    (states : ∀ other, next.state other = if name = other then state else ledger.state other)
    (commands : ∀ other, next.linesOf other = if name = other then lines else ledger.linesOf other)
    (withheld : ∀ other,
      other ∈ next.withheld ↔ other ∈ ledger.withheld ∨ name = other ∧ state = .pending) :
    after.Matches next (seen ++ [name]) where
  outcomes := by
    rw [outcomes, agreed.outcomes, List.map_append, List.map_singleton, states, commands,
      if_pos rfl, if_pos rfl]
    refine congrArg (· ++ _) (List.map_congr_left fun other member => ?_)
    have different : name ≠ other := fun same => fresh (same ▸ member)
    rw [states, commands, if_neg different, if_neg different]
  failures := failures
  settled := by
    intro other member
    rw [states]
    split
    · exact idle
    · next different =>
      refine agreed.settled other ?_
      simpa [Ne.symm different] using member
  untouched := by
    intro other absent
    have absent : other ∉ seen ∧ name ≠ other := by
      simpa [eq_comm] using absent
    rw [states, commands, if_neg absent.2, if_neg absent.2]
    exact agreed.untouched other absent.1
  withheld_iff := by
    intro other
    rw [withheld, agreed.withheld_iff, states, List.mem_append, List.mem_singleton]
    by_cases same : name = other
    · subst same
      simp [fresh]
    · simp [same, Ne.symm same]

variable {name : String} (fresh : name ∉ seen)

include fresh

theorem leave : (tour.leave name).Matches (ledger.withhold name) (seen ++ [name]) := by
  obtain ⟨pending, none⟩ := agreed.untouched name fresh
  refine agreed.snoc fresh (by simp) rfl agreed.failures (fun other => ?_) (fun other => ?_)
    fun other => ?_
  · rw [Ledger.state_withhold]
    split
    · next same => rw [← same, pending]
    · rfl
  · rw [Ledger.linesOf_withhold]
    split
    · next same => rw [← same, none]
    · rfl
  · rw [Ledger.withheld_withhold, List.mem_cons]
    simp [or_comm, eq_comm]

theorem settle {state : TargetState} (left : state ≠ .pending) (idle : state ≠ .running)
    (events : List Event) :
    (tour.add ⟨name, state, []⟩ events).Matches (ledger.setState name state) (seen ++ [name]) := by
  obtain ⟨-, none⟩ := agreed.untouched name fresh
  refine agreed.snoc fresh idle rfl agreed.failures (fun other => ledger.state_setState ..)
    (fun other => ?_) fun other => ?_
  · rw [Ledger.linesOf_setState]
    split
    · next same => rw [← same, none]
    · rfl
  · simp [left]

/-- An entry that has run has the outcome and the failure of its end. -/
theorem perform (lines : List String) (events : List Event) (ending : Ending) :
    (tour.perform name lines events ending).Matches
      (((ledger.setState name .running).setCommands name lines).finish name (ending.failure name))
      (seen ++ [name]) := by
  generalize ended : ending.failure name = failure
  have outcomes : (tour.perform name lines events ending).outcomes =
      tour.outcomes ++ [⟨name, Ledger.endState failure, lines⟩] := by
    subst ended
    rcases ending with (_ | _) | _ <;> rfl
  refine agreed.snoc fresh (by cases failure <;> simp [Ledger.endState]) outcomes ?_
    (fun other => ?_) (fun other => ?_) fun other => ?_
  · rw [Ledger.failures_finish, Ledger.failures_setCommands, Ledger.failures_setState,
      agreed.failures, ← ended]
    rcases ending with (_ | _) | _ <;> simp [Tour.perform, Tour.add, Ending.failure]
  · rw [Ledger.state_finish, Ledger.state_setCommands, Ledger.state_setState]
    split <;> rfl
  · rw [Ledger.linesOf_finish, Ledger.linesOf_setCommands, Ledger.linesOf_setState]
  · have left : Ledger.endState failure ≠ .pending := by cases failure <;> simp [Ledger.endState]
    simp [left]

end Matches
end Tour

/-! ## The run and the walk side by side -/

/-- The run whose coordinator is about to look at the entries that a walk has before it. -/
def Tour.run (tour : Tour) (ledger : Ledger) (ahead : List String) (halted : Bool) : Run :=
  { ledger, ahead, halted, events := tour.events.reverse }

/-- Whether a run that is over and a walk that is over have come to the same. -/
structure Agree {World : Type} (host : Host World) (plan : Plan) (final : Run × World)
    (walked : Option ConfigError × Tour × World) : Prop where
  error : final.1.error = walked.1
  events : final.1.events = walked.2.1.events.reverse
  world : final.2 = walked.2.2
  report : walked.1 = none →
    (Scheduler.close host plan final.1 final.2).ledger.report plan false = walked.2.1.report plan

namespace Scheduler

variable {World : Type} {scheduler : Scheduler} {host : Host World} {plan : Plan}

/-- A walk that is to leave the rest leaves it pending. -/
theorem inOrder_of_stops {tour : Tour} (stops : scheduler.stops tour = true) (world : World)
    (names : List String) :
    scheduler.inOrder host tour world names =
      (none, { tour with outcomes := tour.outcomes ++ names.map (⟨·, .pending, []⟩) }, world) := by
  induction names generalizing tour with
  | nil => simp [inOrder]
  | cons name rest ih =>
    rw [inOrder, if_pos stops, ih (by exact stops)]
    simp [Tour.leave, Tour.add]

theorem loop_of_halted {run : Run} {world : World} (grounded : run.flights = [])
    (halted : run.halted = true) : scheduler.loop host run world = (run, world) := by
  refine loop_of_over ?_
  simp [step, canScan, halted, grounded]

section Side

variable {tour : Tour} {ledger : Ledger} {seen rest : List String}
  (agreed : tour.Matches ledger seen) (sorted : Plan.Sorted scheduler.registry plan.targets)
  (split : plan.targets = seen ++ rest) (world : World)

include agreed split

/-- The two reports where the rest of the plan is left. -/
theorem report_of_matches (distinct : plan.targets.Nodup) :
    ledger.report plan false =
      ({ tour with outcomes := tour.outcomes ++ rest.map (⟨·, .pending, []⟩) } : Tour).report
        plan := by
  have apart : ∀ name ∈ rest, name ∉ seen := fun name late early =>
    List.disjoint_of_nodup_append (split ▸ distinct) early late
  have left : rest.map (fun name => (⟨name, ledger.state name, ledger.linesOf name⟩ : Outcome)) =
      rest.map (⟨·, .pending, []⟩) := by
    refine List.map_congr_left fun name member => ?_
    obtain ⟨pending, none⟩ := agreed.untouched name (apart name member)
    rw [pending, none]
  simp only [Ledger.report, Tour.report, split, List.map_append, agreed.failures, agreed.outcomes,
    left]

include sorted

theorem agree_of_stops (stops : scheduler.stops tour = true) :
    Agree host plan (scheduler.loop host (tour.run ledger rest true) world)
      (scheduler.inOrder host tour world rest) := by
  rw [loop_of_halted rfl rfl, inOrder_of_stops stops]
  exact ⟨rfl, rfl, rfl, fun _ => report_of_matches agreed split sorted.nodup⟩

end Side

/-! ### What the coordinator does where the walk goes past an entry -/

section Look

variable {tour : Tour} {ledger : Ledger} {rest : List String} {target : Target}
  (found : scheduler.registry.get? target.name = some target) (world : World)

include found

theorem look_withheld {prerequisite : String}
    (withheld : ledger.readiness target = .withheld prerequisite) :
    scheduler.look host (tour.run ledger (target.name :: rest) false) world target.name rest =
      (tour.leave target.name).run (ledger.withhold target.name) rest false := by
  simp [look, found, Tour.run, withheld, Tour.leave, Tour.add]

variable (ready : ledger.readiness target = .ready)

include ready

theorem look_fresh
    (fresh : (Staleness.check scheduler.registry (host.times world) [] target).isDue = false) :
    scheduler.look host (tour.run ledger (target.name :: rest) false) world target.name rest =
      (tour.add ⟨target.name, .skipped, []⟩ [.skipped target.name
          (Staleness.check scheduler.registry (host.times world) [] target).message]).run
        (ledger.setState target.name .skipped) rest false := by
  simp [look, found, Tour.run, ready, dispatch, fresh, Run.rescan, Run.emit, Tour.add]

variable (due : (Staleness.check scheduler.registry (host.times world) [] target).isDue = true)

include due

theorem look_empty (empty : target.isAggregate = true) :
    scheduler.look host (tour.run ledger (target.name :: rest) false) world target.name rest =
      (tour.add ⟨target.name, .succeeded, []⟩
          [.started target.name, .completed target.name]).run
        (ledger.setState target.name .succeeded) rest false := by
  simp [look, found, Tour.run, ready, dispatch, due, empty, Run.rescan, Run.emit, Tour.add]

variable (nonempty : target.isAggregate = false)

include nonempty

theorem look_refused {e : ConfigError}
    (refused : scheduler.table.substituteAll target.recipe = .error e) :
    scheduler.look host (tour.run ledger (target.name :: rest) false) world target.name rest =
      { tour.run ledger rest true with error := some e } := by
  simp [look, found, Tour.run, ready, dispatch, due, nonempty, refused, Run.rescan]

theorem look_launched {lines : List String}
    (expanded : scheduler.table.substituteAll target.recipe = .ok lines) :
    scheduler.look host (tour.run ledger (target.name :: rest) false) world target.name rest =
      (tour.run ((ledger.setState target.name .running).setCommands target.name lines) rest
        false).flying target.name (.ofLines 0 lines)
          (.started target.name :: tour.events.reverse) := by
  simp [look, found, Tour.run, ready, dispatch, due, nonempty, expanded, Run.rescan, Run.emit,
    Run.flying]

end Look

theorem join_flying {tour : Tour} (goes : scheduler.stops tour = false) (ledger : Ledger)
    (rest : List String) (name : String) (lines : List String) (events : List Event)
    (failure : Option TargetFailure) :
    scheduler.join ((tour.run ledger rest false).flying name (.finished failure)
        (events.reverse ++ .started name :: tour.events.reverse)) 0 name failure =
      (tour.perform name lines events (.finished failure)).run (ledger.finish name failure) rest
        (scheduler.stops (tour.perform name lines events (.finished failure))) := by
  cases failure with
  | none =>
    have still : scheduler.stops (tour.perform name lines events (.finished none)) = false := goes
    rw [still]
    simp [join, Run.flying, Tour.run, Tour.perform, Tour.add, Run.rescan, Run.waiting, Run.emit]
  | some failure =>
    have sound : tour.crashed = false := (Bool.or_eq_false_iff.1 goes).1
    simp [join, Run.flying, Tour.run, Tour.perform, Tour.add, Run.rescan, Run.waiting, Run.emit,
      Scheduler.stops, sound]

/-- Where the walk has come to, one entry is running. -/
theorem running_of_matches {tour : Tour} {ledger : Ledger} {seen rest : List String} {name : String}
    (agreed : tour.Matches ledger seen) (split : plan.targets = seen ++ name :: rest)
    (distinct : plan.targets.Nodup) (lines : List String) :
    plan.targets.filter
      (((ledger.setState name .running).setCommands name lines).state · == .running) = [name] := by
  have apart := List.nodup_middle.1 (split ▸ distinct)
  have others : ∀ other ∈ seen ++ rest,
      (((ledger.setState name .running).setCommands name lines).state other == .running) ≠ true := by
    intro other member runs
    have different : name ≠ other := fun same => (List.nodup_cons.1 apart).1 (same ▸ member)
    rw [beq_iff_eq, Ledger.state_setCommands, Ledger.state_setState, if_neg different] at runs
    by_cases early : other ∈ seen
    · exact agreed.settled other early runs
    · rw [(agreed.untouched other early).1] at runs
      cases runs
  have none := List.filter_eq_nil_iff.2 others
  rw [List.filter_append, List.append_eq_nil_iff] at none
  rw [split, List.filter_append, List.filter_cons, none.1, none.2, if_pos]
  · rfl
  · simp [Ledger.state_setState]

/-- A recipe that crashes ends the run, and the walk leaves the rest. -/
theorem agree_of_crash {tour : Tour} {ledger : Ledger} {seen rest : List String} {name : String}
    (agreed : tour.Matches ledger seen) (sorted : Plan.Sorted scheduler.registry plan.targets)
    (split : plan.targets = seen ++ name :: rest) (lines : List String) (events : List Event)
    (line : Nat) (command : String) (behind : List String) (error : String) (world : World) :
    Agree host plan
      (scheduler.loop host
        (lose ((tour.run ((ledger.setState name .running).setCommands name lines) rest
          false).flying name (.crashed line command behind error)
            (events.reverse ++ .started name :: tour.events.reverse)) 0 error) world)
      (scheduler.inOrder host
        (tour.perform name lines events (.crashed line command behind error)) world rest) := by
  have apart := List.nodup_append.1 (split ▸ sorted.nodup)
  have fresh : name ∉ seen := fun member => apart.2.2 name member name List.mem_cons_self rfl
  have stops : scheduler.stops
      (tour.perform name lines events (.crashed line command behind error)) = true := rfl
  rw [loop_of_halted rfl rfl, inOrder_of_stops stops]
  refine ⟨rfl, by simp [lose, Run.flying, Run.rescan, Tour.perform, Tour.add], rfl, fun _ => ?_⟩
  have next : plan.targets = seen ++ [name] ++ rest := by simpa using split
  rw [← report_of_matches (agreed.perform fresh lines events (.crashed line command behind error))
    next sorted.nodup]
  have running := running_of_matches agreed split sorted.nodup lines
  have order : host.arrange [name] world = [name] :=
    List.perm_singleton.1 (host.arrange_perm [name] world)
  simp only [close, lose, Run.rescan, Run.flying, Tour.run, Run.running, running, order]
  rfl

/-- What the run does with an entry that may start comes to the same as what the walk does, if the
rest does from then on. -/
theorem agree_of_ready (one : scheduler.jobs = 1) {tour : Tour} {ledger : Ledger}
    {seen rest : List String} {target : Target} (agreed : tour.Matches ledger seen)
    (sorted : Plan.Sorted scheduler.registry plan.targets)
    (split : plan.targets = seen ++ target.name :: rest)
    (fresh : target.name ∉ seen) (goes : scheduler.stops tour = false)
    (found : scheduler.registry.get? target.name = some target)
    (ready : ledger.readiness target = .ready)
    (onward : ∀ {after : Tour} {noted : Ledger}, after.Matches noted (seen ++ [target.name]) →
      ∀ world, Agree host plan (scheduler.loop host (after.run noted rest (scheduler.stops after)) world)
        (scheduler.inOrder host after world rest)) (world : World) :
    Agree host plan
      (scheduler.loop host (scheduler.look host (tour.run ledger (target.name :: rest) false) world
        target.name rest) world)
      (match scheduler.deal host tour world target with
        | (none, tour, world) => scheduler.inOrder host tour world rest
        | (some e, tour, world) => (some e, tour, world)) := by
  have settled : ∀ {outcome : Outcome} {events : List Event} {noted : Ledger},
      (tour.add outcome events).Matches noted (seen ++ [target.name]) →
        Agree host plan (scheduler.loop host ((tour.add outcome events).run noted rest false) world)
          (scheduler.inOrder host (tour.add outcome events) world rest) := by
    intro outcome events noted agreed
    have still : scheduler.stops (tour.add outcome events) = false := goes
    exact still ▸ onward agreed world
  cases due : (Staleness.check scheduler.registry (host.times world) [] target).isDue with
  | false =>
    simp only [deal, due, Bool.not_false, if_true]
    rw [look_fresh found world ready due]
    exact settled (agreed.settle fresh (by simp) (by simp) _)
  | true =>
    cases empty : target.isAggregate with
    | true =>
      simp only [deal, due, empty, Bool.not_true, Bool.false_eq_true, if_false, if_true]
      rw [look_empty found world ready due empty]
      exact settled (agreed.settle fresh (by simp) (by simp) _)
    | false =>
      simp only [deal, due, empty, Bool.not_true, Bool.false_eq_true, if_false]
      cases expanded : scheduler.table.substituteAll target.recipe with
      | error e =>
        rw [look_refused found world ready due empty expanded, loop_of_halted rfl rfl]
        exact ⟨rfl, rfl, rfl, fun none => by cases none⟩
      | ok lines =>
        rw [look_launched found world ready due empty expanded, loop_lines one]
        dsimp only
        generalize scheduler.runLines host target.name 0 world lines = ran
        obtain ⟨failure | ⟨line, command, behind, error⟩, events, between⟩ := ran
        · simp only [Ending.progress]
          rw [loop_finished one, join_flying goes]
          exact onward (agreed.perform fresh lines events (.finished failure)) _
        · simp only [Ending.progress]
          rw [loop_crashed one]
          exact agree_of_crash agreed sorted split lines events line command behind error _

/-- The run of a plan with one recipe at a time comes to the same as the walk. -/
theorem agree_of_sorted (one : scheduler.jobs = 1)
    (sorted : Plan.Sorted scheduler.registry plan.targets) {seen rest : List String} {tour : Tour}
    {ledger : Ledger} (agreed : tour.Matches ledger seen) (split : plan.targets = seen ++ rest)
    (world : World) :
    Agree host plan (scheduler.loop host (tour.run ledger rest (scheduler.stops tour)) world)
      (scheduler.inOrder host tour world rest) := by
  induction rest generalizing seen tour ledger world with
  | nil =>
    have final : scheduler.step host (tour.run ledger [] (scheduler.stops tour)) world = none := by
      simp [step, canScan, Tour.run]
    have report := report_of_matches agreed split sorted.nodup
    rw [loop_of_over final, inOrder]
    exact ⟨rfl, rfl, rfl, fun _ => report.trans (by simp)⟩
  | cons name rest ih =>
    cases stops : scheduler.stops tour with
    | true => exact agree_of_stops agreed sorted split world stops
    | false =>
      obtain ⟨target, found⟩ := sorted.declared (split ▸ by simp : name ∈ plan.targets)
      have earlier : ∀ prerequisite ∈ target.prerequisites, prerequisite ∈ seen :=
        fun prerequisite needed => sorted.mem_before split found needed
      have fresh : name ∉ seen := fun member =>
        List.disjoint_of_nodup_append (split ▸ sorted.nodup) member List.mem_cons_self
      obtain rfl := Registry.name_of_get? found
      have next : plan.targets = seen ++ [target.name] ++ rest := by simpa using split
      have scans : scheduler.canScan (tour.run ledger (target.name :: rest) false) = true := by
        simp [canScan, Tour.run, one]
      rw [loop_of_turn (step_of_scan scans rfl rfl), inOrder, if_neg (by simp [stops])]
      simp only [found]
      generalize host.pause true [] world = world
      have readiness := agreed.readiness earlier
      split at readiness
      · next lost =>
        obtain ⟨prerequisite, withheld⟩ := readiness
        have still : scheduler.stops (tour.leave target.name) = false := stops
        rw [look_withheld found world withheld, if_pos lost]
        exact still ▸ ih (agreed.leave fresh) next world
      · next kept =>
        rw [if_neg kept]
        exact agree_of_ready one agreed sorted split fresh stops found readiness
          (fun agreed world => ih agreed next world) world

end Scheduler

/-! ## The states that a walk leaves -/

/-- Whether states are those of entries that ended well and behind them, if there is one that
failed, of entries that are pending. -/
def TargetState.EndWithFailure (states : List TargetState) : Prop :=
  ∃ ended rest, states = ended ++ rest ∧
    (∀ state ∈ ended, state = .skipped ∨ state = .succeeded) ∧
    (rest = [] ∨ ∃ left, rest = .failed :: List.replicate left .pending)

namespace Tour

/-- Whether all entries that a walk has behind it have ended well. -/
def Well (tour : Tour) : Prop :=
  tour.crashed = false ∧ tour.failures = [] ∧
    ∀ outcome ∈ tour.outcomes, outcome.state = .skipped ∨ outcome.state = .succeeded

theorem Well.add {tour : Tour} (well : tour.Well) {outcome : Outcome} (events : List Event)
    (good : outcome.state = .skipped ∨ outcome.state = .succeeded) :
    (tour.add outcome events).Well := by
  refine ⟨well.1, well.2.1, fun other member => ?_⟩
  rcases List.mem_append.1 member with earlier | last
  · exact well.2.2 other earlier
  · exact List.mem_singleton.1 last ▸ good

theorem Well.isLost {tour : Tour} (well : tour.Well) (name : String) :
    tour.isLost name = false := by
  simp only [Tour.isLost, List.any_eq_false]
  intro outcome member
  rcases well.2.2 outcome member with state | state <;> simp [state]

end Tour

namespace Scheduler

variable {World : Type} {scheduler : Scheduler} {host : Host World} {plan : Plan}

/-- An entry that is dealt with ends well or fails. -/
theorem well_of_deal {tour after : Tour} {world later : World} {target : Target}
    (well : tour.Well) (dealt : scheduler.deal host tour world target = (none, after, later)) :
    after.Well ∨ after.failures ≠ [] ∧
      after.outcomes.map (·.state) = tour.outcomes.map (·.state) ++ [.failed] := by
  unfold deal at dealt
  dsimp only at dealt
  split at dealt
  · cases dealt
    exact .inl (well.add _ (.inl rfl))
  · split at dealt
    · cases dealt
      exact .inl (well.add _ (.inr rfl))
    · split at dealt
      · cases dealt
      · next lines expanded =>
        generalize scheduler.runLines host target.name 0 world lines = ran at dealt
        obtain ⟨(_ | failure) | _, events, between⟩ := ran
        · cases dealt
          exact .inl (well.add _ (.inr rfl))
        all_goals
          cases dealt
          exact .inr ⟨by simp [Tour.perform], by simp [Tour.perform, Tour.add]⟩

/-- A walk that is not to keep going leaves pending what is behind the first failure. -/
theorem states_of_inOrder (halts : scheduler.options.keepGoing = false) {names : List String}
    {tour after : Tour} {world later : World} (well : tour.Well)
    (walked : scheduler.inOrder host tour world names = (none, after, later)) :
    TargetState.EndWithFailure (after.outcomes.map (·.state)) := by
  induction names generalizing tour world with
  | nil =>
    rw [inOrder] at walked
    cases walked
    exact ⟨_, [], (List.append_nil _).symm, List.forall_mem_map.2 well.2.2, .inl rfl⟩
  | cons name rest ih =>
    have goes : scheduler.stops tour = false := by simp [stops, well.1, well.2.1]
    rw [inOrder, if_neg (by simp [goes])] at walked
    dsimp only at walked
    split at walked
    · cases walked
    · next target found =>
      rw [if_neg (by simp [well.isLost])] at walked
      split at walked
      · next between world dealt =>
        rcases well_of_deal well dealt with still | ⟨some, states⟩
        · exact ih still walked
        · have stops : scheduler.stops between = true := by simp [Scheduler.stops, some, halts]
          rw [inOrder_of_stops stops] at walked
          cases walked
          refine ⟨_, .failed :: List.replicate rest.length .pending, ?_,
            List.forall_mem_map.2 well.2.2, .inr ⟨_, rfl⟩⟩
          simp [states, Function.comp_def, List.map_const']
      · cases walked

example : (Small.scheduler.executeInOrder Small.host Small.plan none).1.events = [.started "lib",
    .command "lib" 0 "cc lib.c", .completed "lib", .started "all", .completed "all"] := by
  cbv

end Scheduler

namespace Fork

/-- The fork's host, if what cannot be printed did not matter. -/
def heard : Host Unit := { mute with echo := fun _ world => (none, world) }

/-- A walk on that host performs an entry of one line. -/
theorem deal_heard (target : Target) (line : String) (due : target.alwaysDue = true)
    (works : target.isAggregate = false)
    (expanded : persistent.table.substituteAll target.recipe = .ok [line]) (tour : Tour) :
    persistent.deal heard tour () target =
      (none, tour.perform target.name [line] [.command target.name 0 line] (.finished none), ()) := by
  have ran : persistent.runLines heard target.name 0 () [line] =
    (.finished none, [.command target.name 0 line], ()) := rfl
  simp [Scheduler.deal, Staleness.check, due, Staleness.isDue, works, expanded, ran]

end Fork
end TaskRunner
