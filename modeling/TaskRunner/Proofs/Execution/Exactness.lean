import TaskRunner.Proofs.Execution.Confluence
import TaskRunner.Proofs.Execution.Transcript
/- # TaskRunner.Proofs.Execution.Exactness -- a report says what happened

A report lists the entries of the plan with their states and commands, and the failures.  It is
exact (`Report.Exact`): each failed entry has one failure and no other entry has any, and the
transcript of what was exchanged with the shell bears out the line, the command and the cause of each
failure.  The failures stand in the order in which recipes were joined.  A run that stops at a failure
has at most as many failures as recipes were in flight together.

The failures of entries whose recipes have crashed stand behind the others, and nothing bears them
out: they name the first line, no command, and a shell that could not be started, while the line that
was due was never handed to the shell, nor were those behind it.

All of this is kept from turn to turn, and `execute_reports_exactly` reads it off at the end, for
every host and so for every order in which recipes can go on and end. -/

namespace TaskRunner
set_option autoImplicit false

/-! ## The list of failures -/

/-- The failure that an event tells of. -/
def Event.failure? : Event → Option TargetFailure
  | failed failure => some failure
  | started _ | command _ _ _ | skipped _ _ | completed _ => none

namespace Scheduler

variable {World : Type} {scheduler : Scheduler} {host : Host World} {plan : Plan} {origin : World}

/-- A failure is noted when it is told of. -/
theorem Move.failures_told {times : FileTimes} {run next : Run}
    (move : scheduler.Move times run next)
    (told : run.ledger.failures = (run.events.filterMap Event.failure?).reverse) :
    next.ledger.failures = (next.events.filterMap Event.failure?).reverse := by
  cases move with
  | pass | withhold | giveUp | skip | complete | refuse | launch | startLine | endLine | crash
  | lose => exact told
  | @join i flight failure idle found finished =>
    cases failure with
    | none => exact told
    | some failure =>
      change run.ledger.failures ++ [failure] =
        (failure :: run.events.filterMap Event.failure?).reverse
      rw [told, List.reverse_cons]

/-- Unless a run keeps going, what fails was running together. -/
theorem Move.failures_le {times : FileTimes} {run next : Run}
    (move : scheduler.Move times run next) (consistent : run.Consistent scheduler plan)
    (distinct : plan.targets.Nodup) (stops : scheduler.options.keepGoing = false)
    (few : ∀ names : List String, names.Nodup →
      (∀ name ∈ names, run.ledger.state name = .running) →
        run.ledger.failures.length + names.length ≤ scheduler.jobs)
    {names : List String} (apart : names.Nodup)
    (running : ∀ name ∈ names, next.ledger.state name = .running) :
    next.ledger.failures.length + names.length ≤ scheduler.jobs := by
  have whole := move
  cases move with
  | pass | withhold | giveUp | refuse | startLine | endLine | crash | lose =>
    exact few names apart running
  | skip | complete =>
    refine few names apart fun name member => ?_
    have runs := running name member
    rw [Ledger.state_setState] at runs
    split at runs
    · cases runs
    · exact runs
  | launch scans =>
    have clean : run.ledger.failures = [] := by
      by_contra failed
      have halted := consistent.halted_of_failures failed stops
      simp [canScan, halted] at scans
    rcases consistent.move distinct whole with abandoned | onward
    · simpa using abandoned.1
    · simpa [clean] using onward.running_le names apart running
  | @join i flight failure idle found finished =>
    rw [Run.ledger_join] at running ⊢
    simp only [Ledger.state_finish] at running
    have before : ∀ name ∈ flight.target :: names, run.ledger.state name = .running := by
      refine List.forall_mem_cons.2 ⟨?_, fun name member => ?_⟩
      · exact consistent.running_of_inFlight _ (Run.mem_inFlight_of_getElem? found)
      · have runs := running name member
        split at runs
        · cases failure <;> cases runs
        · exact runs
    have absent : flight.target ∉ names := fun member => by
      have runs := running flight.target member
      cases failure <;> simp [Ledger.endState] at runs
    have room := few _ (List.nodup_cons.2 ⟨absent, apart⟩) before
    have longer : failure.toList.length ≤ 1 := by cases failure <;> simp
    rw [Ledger.failures_finish, List.length_append]
    rw [List.length_cons] at room
    omega

theorem failures_told_of_reaches {after : Run × World}
    (reached : scheduler.Reaches host (.start plan, origin) after) :
    after.1.ledger.failures = after.1.events.reverse.filterMap Event.failure? := by
  rw [List.filterMap_reverse]
  exact reached.keeps (P := fun run =>
    run.ledger.failures = (run.events.filterMap Event.failure?).reverse)
    (fun move told => move.failures_told told) rfl

theorem failures_le_of_reaches (distinct : plan.targets.Nodup)
    (stops : scheduler.options.keepGoing = false) {after : Run × World}
    (reached : scheduler.Reaches host (.start plan, origin) after) {names : List String}
    (apart : names.Nodup) (running : ∀ name ∈ names, after.1.ledger.state name = .running) :
    after.1.ledger.failures.length + names.length ≤ scheduler.jobs := by
  induction reached generalizing names with
  | refl =>
    have few := (Run.consistent_start scheduler plan).running_le names apart running
    simpa [Run.start, Ledger.empty] using few
  | tail reached turn ih =>
    exact turn.move.failures_le (consistent_of_turn distinct reached turn) distinct stops
      (fun names apart running => ih apart running) apart running

end Scheduler

/-! ## Reports -/

/-- Whether the transcript bears a failure out: it names a line of the recipe of its target, with
references replaced; the lines before that were run in order and succeeded, it was run and ended
with the cause, and nothing else was exchanged about the target. -/
inductive TargetFailure.Witnessed (scheduler : Scheduler) (transcript : List Exchange)
    (failure : TargetFailure) : Prop where
  | intro {target : Target} {text : String} {earlier : List String}
      (found : scheduler.registry.get? failure.target = some target)
      (line : target.recipe[failure.line]? = some text)
      (replaced : scheduler.table.substitute text = .ok failure.command)
      (before : List.Forall₂ (fun text command => scheduler.table.substitute text = .ok command)
        (target.recipe.take failure.line) earlier)
      (exchanged : Exchange.about failure.target transcript =
        Exchange.performed failure.target earlier ++
          [.command failure.target failure.command] ++
            [.result failure.target (some failure.cause)])

/-- Whether a report says of each entry and each failure what happened, where `lost` are the entries
whose recipes have crashed. -/
structure Report.Exact (scheduler : Scheduler) (plan : Plan) (lost : List String)
    (events : List Event) (transcript : List Exchange) (report : Report) : Prop where
  names : report.outcomes.map (·.name) = plan.targets
  names_nodup : (report.outcomes.map (·.name)).Nodup
  /-- Nothing is reported as running. -/
  ended : ∀ outcome ∈ report.outcomes, outcome.state ≠ .running
  failed_iff : ∀ name, name ∈ report.failures.map (·.target) ↔
    ∃ outcome ∈ report.outcomes, outcome.name = name ∧ outcome.state = .failed
  failures_nodup : (report.failures.map (·.target)).Nodup
  /-- The failures stand in the order in which they were joined, and behind them those of the entries
  that are lost, in some order. -/
  joined : ∃ (error : String) (order : List String), order.Perm lost ∧
    report.failures = events.filterMap Event.failure? ++ order.map (.ofCrash error)
  witnessed : ∀ failure ∈ report.failures, failure.target ∉ lost →
    failure.Witnessed scheduler transcript
  /-- Of an entry that is lost some lines ran and succeeded, and the next was not handed over. -/
  unended : ∀ outcome ∈ report.outcomes, outcome.name ∈ lost → outcome.state = .failed ∧
    ∃ count < outcome.commands.length, Exchange.about outcome.name transcript =
      Exchange.performed outcome.name (outcome.commands.take count)
  /-- What did not fail had all lines that are reported of it run, and they succeeded. -/
  performed : ∀ outcome ∈ report.outcomes, outcome.state ≠ .failed →
    Exchange.about outcome.name transcript = Exchange.performed outcome.name outcome.commands
  replaced : ∀ outcome ∈ report.outcomes, outcome.state = .succeeded ∨ outcome.state = .failed →
    ∃ target, scheduler.registry.get? outcome.name = some target ∧
      List.Forall₂ (fun text command => scheduler.table.substitute text = .ok command)
        target.recipe outcome.commands
  idle : ∀ outcome ∈ report.outcomes, outcome.state = .pending ∨ outcome.state = .skipped →
    outcome.commands = []
  few : scheduler.options.keepGoing = false →
    report.failures.length ≤ max scheduler.options.jobs 1

namespace Run

variable {scheduler : Scheduler} {plan : Plan} {run : Run} {transcript : List Exchange}

theorem Transcribed.witnessed (transcribed : run.Transcribed transcript)
    (recorded : run.Recorded)
    (noted : ∀ name, Noted scheduler name (run.ledger.state name) (run.ledger.linesOf name))
    {failure : TargetFailure} (member : failure ∈ run.ledger.failures) :
    failure.Witnessed scheduler transcript := by
  have failed := (recorded.failed_iff failure.target).2 (List.mem_map_of_mem member)
  obtain ⟨target, found, expanded⟩ := (noted failure.target).of_started (by simp [failed])
  have replaced := Variable.Table.forall₂_of_substituteAll expanded
  obtain ⟨inside, same⟩ := List.getElem?_eq_some_iff.1 (recorded.line_of_failure failure member)
  have within : failure.line < target.recipe.length := replaced.length_eq ▸ inside
  have line := replaced.get within inside
  rw [List.get_eq_getElem, List.get_eq_getElem, same] at line
  exact .intro found (List.getElem?_eq_getElem within) line
    (List.forall₂_take failure.line replaced) (transcribed.told _ _ (.failed member rfl))

section Close

variable {World : Type} {host : Host World} {world : World}
  (transcribed : run.Transcribed transcript) (recorded : run.Recorded)
  (consistent : run.Consistent scheduler plan)
  (noted : ∀ name, Noted scheduler name (run.ledger.state name) (run.ledger.linesOf name))
  (final : scheduler.step host run world = none)

include recorded consistent final

/-- An entry has one failure in the end if it has failed, and none otherwise. -/
theorem Recorded.failed_close_iff_outcome (name : String) :
    name ∈ (Scheduler.close host plan run world).ledger.failures.map (·.target) ↔
      ∃ outcome ∈ ((Scheduler.close host plan run world).ledger.report plan false).outcomes,
        outcome.name = name ∧ outcome.state = .failed := by
  rw [← recorded.failed_close_iff consistent final name]
  constructor
  · intro failed
    have planned : name ∈ plan.targets := consistent.planned_close final (by simp [failed])
    exact ⟨_, List.mem_map_of_mem planned, rfl, failed⟩
  · rintro ⟨outcome, member, rfl, failed⟩
    obtain ⟨name, -, rfl⟩ := List.mem_map.1 member
    exact failed

include transcribed noted in
/-- When a run is over and closed, the report on it is exact. -/
theorem Transcribed.exact (distinct : plan.targets.Nodup)
    (told : run.ledger.failures = run.events.reverse.filterMap Event.failure?)
    (few : scheduler.options.keepGoing = false → ∀ names : List String, names.Nodup →
      (∀ name ∈ names, run.ledger.state name = .running) →
        run.ledger.failures.length + names.length ≤ max scheduler.options.jobs 1) :
    ((Scheduler.close host plan run world).ledger.report plan false).Exact scheduler plan
      (run.running plan) run.events.reverse transcript := by
  have state : ∀ name, (Scheduler.close host plan run world).ledger.state name =
      if run.ledger.state name = .running then .failed else run.ledger.state name :=
    consistent.state_close final
  obtain ⟨error, order, perm, -, failures⟩ := consistent.failures_close final
  refine ⟨Ledger.names_report .., (Ledger.names_report ..).symm ▸ distinct,
    List.forall_mem_map.2 fun name _ => consistent.not_running_close final name,
    recorded.failed_close_iff_outcome consistent final,
    recorded.failures_close_nodup consistent final distinct,
    ⟨error, order, perm, told ▸ failures⟩, ?_, ?_, ?_, ?_, ?_, ?_⟩
  · intro failure member kept
    have member : failure ∈ (Scheduler.close host plan run world).ledger.failures := member
    rw [failures, List.mem_append] at member
    refine transcribed.witnessed recorded noted (member.resolve_right fun crashed => kept ?_)
    obtain ⟨name, lost, rfl⟩ := List.mem_map.1 crashed
    exact perm.subset lost
  · refine List.forall_mem_map.2 fun name _ lost => ?_
    have runs := consistent.mem_running.1 lost
    have grounded : name ∉ run.inFlight := by
      simp [inFlight, (Scheduler.over_of_step_eq_none final).1]
    simp only [state, Scheduler.linesOf_close]
    exact ⟨if_pos runs, transcribed.unended name runs grounded⟩
  · refine List.forall_mem_map.2 fun name _ sound => ?_
    simp only [state, Scheduler.linesOf_close] at sound ⊢
    have rests : run.ledger.state name ≠ .running := fun runs => sound (if_pos runs)
    rw [if_neg rests] at sound
    exact transcribed.told name _ (.rests rests sound)
  · refine List.forall_mem_map.2 fun name _ started => ?_
    simp only [state, Scheduler.linesOf_close] at started ⊢
    obtain ⟨target, found, expanded⟩ := (noted name).of_started fun idle => by
      rcases idle with pending | skipped <;> simp_all
    exact ⟨target, found, Variable.Table.forall₂_of_substituteAll expanded⟩
  · refine List.forall_mem_map.2 fun name _ idle => ?_
    simp only [state, Scheduler.linesOf_close] at idle ⊢
    split at idle
    · simp at idle
    · exact (noted name).of_idle idle
  · intro stops
    have bound := few stops order (perm.nodup_iff.2 (distinct.filter _)) fun name member =>
      consistent.mem_running.1 (perm.subset member)
    simpa [Ledger.report, failures] using bound

end Close

end Run

namespace Scheduler

variable {World : Type} {scheduler : Scheduler} {host : Host World} {plan : Plan} {origin : World}
  {report : Report}

/-- **A report is exact**, whatever plan is run with whatever registry, what the commands do, how
many recipes may run at once, in which order they go on, and whether a failure cuts them short; only
the failures of entries whose recipes crash are made up. -/
theorem execute_reports_exactly {source : Registry} {roots : List String}
    (planned : source.plan roots = .ok plan)
    (reported : (scheduler.execute host plan origin).1.result = .ok report) :
    ∃ transcript, scheduler.execute host.transcribed plan (origin, []) =
        ((scheduler.execute host plan origin).1, (scheduler.execute host plan origin).2,
          transcript) ∧
      report.Exact scheduler plan (scheduler.leftRunning host plan origin)
        (scheduler.execute host plan origin).1.events transcript := by
  have distinct := (Plan.sorted_of_plan planned).nodup
  have plain : (scheduler.execute host.transcribed plan (origin, [])).map id Prod.fst =
      scheduler.execute host plan origin := execute_transcribed plan origin []
  rw [← plain] at reported ⊢
  refine ⟨_, rfl, ?_⟩
  obtain ⟨fine, rfl⟩ := report_of_execute reported
  obtain ⟨reached, final⟩ := loop_reaches scheduler host.transcribed (.start plan) (origin, [])
  have stays : ¬ (scheduler.loop host.transcribed (.start plan) (origin, [])).1.Abandoned
      scheduler plan := by
    rintro ⟨-, -, name, -, -, unknown⟩
    rw [fine] at unknown
    cases unknown
  have transcribed := transcribed_of_reaches distinct reached stays
  have exact := transcribed.exact (recorded_of_reaches distinct reached)
    ((consistent_of_reaches distinct reached).resolve_left stays)
    (noted_of_reaches distinct reached) final distinct (failures_told_of_reaches reached)
    fun stops _ => failures_le_of_reaches distinct stops reached
  rw [← leftRunning_transcribed]
  simpa [execute, leftRunning] using exact

end Scheduler

/-! ## Runs that are cut short -/

namespace Fork

/-- A host on which the recipe of one target fails. -/
def shell : Host Unit := host fun _ => none

/-- The state in which the run ends: the other entries are not looked at any more. -/
def halted : Run := .cutShort "one" "first" ["two", "both"] (.exit 1)

theorem execute_plan : (scheduler.execute shell plan ()).1.result =
    .ok (halted.ledger.report plan false) :=
  (opens shell rfl fun _ _ _ => rfl).result_of_failure rfl rfl rfl

/-- In one run the only recipe that was started fails, in the other it crashes. -/
theorem execute_reports_exactly_fork :
    registry.plan ["both"] = .ok plan ∧
      (scheduler.execute shell plan ()).1.result = .ok (halted.ledger.report plan false) ∧
      (∃ transcript, scheduler.execute shell.transcribed plan ((), []) =
          ((scheduler.execute shell plan ()).1, (scheduler.execute shell plan ()).2, transcript) ∧
        (halted.ledger.report plan false).Exact scheduler plan []
          (scheduler.execute shell plan ()).1.events transcript) ∧
      (persistent.execute mute plan ()).1.result = .ok bereftReport ∧
      ∃ transcript, persistent.execute mute.transcribed plan ((), []) =
          ((persistent.execute mute plan ()).1, (persistent.execute mute plan ()).2, transcript) ∧
        bereftReport.Exact persistent plan ["one"] (persistent.execute mute plan ()).1.events
          transcript := by
  have kept : scheduler.leftRunning shell plan () = [] :=
    Scheduler.leftRunning_eq_nil_of_prints (Plan.sorted_of_plan plan_registry)
      (Scheduler.prints_of_echo fun _ _ _ => rfl)
  have bereft : (persistent.execute mute plan ()).1.result = .ok bereftReport := by
    rw [execute_mute]
  exact ⟨plan_registry, execute_plan,
    kept ▸ Scheduler.execute_reports_exactly plan_registry execute_plan, bereft,
    leftRunning_mute ▸ Scheduler.execute_reports_exactly plan_registry bereft⟩

/-- Where nothing can be printed, the failure that is reported of the first entry is of a line that
was not run. -/
theorem unwitnessed_bereft :
    registry.plan ["both"] = .ok plan ∧
      (persistent.execute mute plan ()).1.result = .ok bereftReport ∧
        (persistent.execute mute.transcribed plan ((), [])).2.2 = [] ∧
          ¬ ∀ failure ∈ bereftReport.failures, failure.Witnessed persistent [] := by
  have ends : persistent.loop mute.transcribed (.start plan) ((), []) = (bereft, (), []) :=
    (opens mute.transcribed rfl fun _ _ _ => rfl).loop_of_crash rfl
  refine ⟨plan_registry, by rw [execute_mute], by simp [Scheduler.execute, ends], fun all => ?_⟩
  obtain ⟨-, -, -, -, exchanged⟩ := all (.ofCrash "panicked" "one") (by simp [bereftReport])
  simp [Exchange.about] at exchanged

end Fork
end TaskRunner
