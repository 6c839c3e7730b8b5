import TaskRunner.CommandLine.Invocation
import TaskRunner.Proofs.Execution.Failures
import TaskRunner.Proofs.Plan.Refusal
import TaskRunner.Proofs.Project.Validation
/- # TaskRunner.Proofs.Application -- an error means that nothing ran

The scheduler can give up in the middle of a run: for an entry that is not declared, or for a line
in which a reference cannot be replaced.  It never does for a loaded project.  A plan names declared
targets only, and loading has replaced the references of all of them, so once there is a plan there
is a report, and an error was found before anything ran (`dependable_of_loaded`). -/

namespace TaskRunner
set_option autoImplicit false

/-! ## Reports -/

/-- A report in which the failures tell of the failed entries has an exit status that does. -/
theorem Ledger.exitStatus_report {ledger : Ledger} {plan : Plan} (dryRun : Bool)
    (noted : ledger.failures ≠ [] ↔ ∃ name ∈ plan.targets, ledger.state name = .failed) :
    (ledger.report plan dryRun).exitStatus =
      if ∃ outcome ∈ (ledger.report plan dryRun).outcomes, outcome.state = .failed then 1
      else 0 := by
  have shown : (∃ outcome ∈ (ledger.report plan dryRun).outcomes, outcome.state = .failed) ↔
      ledger.failures ≠ [] := by
    simp [report, noted]
  by_cases clean : ledger.failures = []
  · rw [if_neg (by simp [shown, clean])]
    simp [Report.exitStatus, Report.isSuccess, report, clean]
  · rw [if_pos (shown.2 clean)]
    simp [Report.exitStatus, Report.isSuccess, report, clean, failureStatus]

/-- The exit status of a mistake is that of no report. -/
theorem Report.exitStatus_ne (report : Report) : report.exitStatus ≠ configStatus := by
  unfold exitStatus
  split <;> decide

namespace Scheduler

variable {World : Type} {scheduler : Scheduler} {plan : Plan}

/-- A rehearsal finds no mistake where there is none, and it fails no entry. -/
theorem rehearse_clean (host : Host World) {names : List String}
    (declared : ∀ name ∈ names, ∃ target, scheduler.registry.get? name = some target)
    (expands : scheduler.Expands ⟨names⟩) (rehearsal : Rehearsal) (world : World) :
    ∃ after desk, scheduler.rehearse host rehearsal world names = (none, after, desk) ∧
      after.ledger.failures = rehearsal.ledger.failures ∧
      ∀ name, after.ledger.state name = .failed → rehearsal.ledger.state name = .failed := by
  induction names generalizing rehearsal world with
  | nil => exact ⟨rehearsal, world, rfl, rfl, fun _ failed => failed⟩
  | cons name rest ih =>
    obtain ⟨target, found⟩ := declared name List.mem_cons_self
    have ih := ih (fun other member => declared other (List.mem_cons_of_mem _ member))
      fun other member => expands other (List.mem_cons_of_mem _ member)
    have set : ∀ {state : TargetState} {other : String}, state ≠ .failed →
        (rehearsal.ledger.setState name state).state other = .failed →
          rehearsal.ledger.state other = .failed := by
      intro state other sound failed
      rw [Ledger.state_setState] at failed
      split at failed
      · exact absurd failed sound
      · exact failed
    simp only [rehearse, found]
    split
    · obtain ⟨after, desk, rehearsed, failures, failed⟩ := ih _ world
      exact ⟨after, desk, rehearsed, failures, fun other bad => set (by simp) (failed other bad)⟩
    · obtain ⟨lines, expanded⟩ :=
        Variable.Table.substituteAll_ok (expands name List.mem_cons_self target found)
      rw [expanded]
      obtain ⟨after, desk, rehearsed, failures, failed⟩ := ih _ _
      exact ⟨after, desk, rehearsed, failures, fun other bad => set (by simp) (failed other bad)⟩

/-- Whether the run of a plan, dry or not, has a report, with an exit status that is one just if an
entry has failed and zero otherwise. -/
def Reports (scheduler : Scheduler) (host : Host World) (plan : Plan) (world : World) : Prop :=
  ∃ report, (scheduler.run host plan world).1.result = .ok report ∧
    report.outcomes.map (·.name) = plan.targets ∧
    report.exitStatus = if ∃ outcome ∈ report.outcomes, outcome.state = .failed then 1 else 0

/-- A plan of which all lines can be replaced has a report. -/
theorem reports_of_sorted (host : Host World) (world : World)
    (sorted : Plan.Sorted scheduler.registry plan.targets) (expands : scheduler.Expands plan) :
    scheduler.Reports host plan world := by
  cases dry : scheduler.options.dryRun with
  | true =>
    obtain ⟨after, desk, rehearsed, failures, failed⟩ :=
      rehearse_clean host (fun _ => sorted.declared) expands {} world
    refine ⟨after.ledger.report plan true, by simp [run, dry, executeDry, rehearsed],
      after.ledger.names_report plan true, Ledger.exitStatus_report true ?_⟩
    have clean : after.ledger.failures = [] := failures
    have sound : ∀ name, after.ledger.state name ≠ .failed := fun name bad => by
      have never := failed name bad
      rw [Ledger.state_empty] at never
      cases never
    simp [clean, sound]
  | false =>
    obtain ⟨reached, final⟩ := loop_reaches scheduler host (.start plan) world
    have fine := error_of_reaches sorted expands reached
    have recorded := recorded_of_reaches sorted.nodup reached
    have consistent := consistent_of_sorted sorted reached
    exact ⟨_, by simp [run, dry, execute, fine], Ledger.names_report _ plan false,
      Ledger.exitStatus_report false (recorded.failures_close_ne_nil_iff consistent final)⟩

end Scheduler

namespace Project

/-! ## Requests -/

/-- What can be relied on in requests to a project. -/
structure Dependable (project : Project) : Prop where
  /-- An error comes from planning, and the surroundings are as they were: no command was started,
  nothing was printed and no file has changed. -/
  of_error : ∀ {World : Type} (surroundings : Surroundings World) request world e after,
    project.serve surroundings request world = (.error e, after) → after = world ∧
      (project.roots request.targets = .error e ∧ e = .noTargets ∨
        ∃ roots, project.roots request.targets = .ok roots ∧
          project.registry.plan roots = .error e ∧
          ((∃ root ∈ roots, project.registry.get? root = none ∧ e = .unknownTarget root) ∨
            ∃ path, e = .cyclicDependency path))
  /-- Once there is a plan there is a report, whatever the commands do, however many recipes may run
  at once and in which order they end. -/
  of_plan : ∀ {World : Type} (host : Host World) options requested plan world,
    project.plan requested = .ok plan →
      Scheduler.Reports ⟨project.registry, project.table, options⟩ host plan world

variable {project : Project} {runfile : Runfile} {root : String} {overrides : List Override}

/-- Where nothing is declared there is no default. -/
theorem default_eq_none (undeclared : project.registry.first? = none) : project.default = none := by
  refine Option.eq_none_iff_forall_not_mem.2 fun name named => ?_
  have held := Registry.Draft.contains_iff.1 (project.default_declared name named)
  simp [Registry.first?_eq_none_iff.1 undeclared] at held

/-- A request has no roots just if it names none and nothing is declared. -/
theorem roots_eq_error_iff {requested : List String} {e : ConfigError} :
    project.roots requested = .error e ↔
      requested = [] ∧ project.registry.first? = none ∧ e = .noTargets := by
  unfold roots
  cases requested with
  | cons name rest => simp
  | nil =>
    unfold defaultTarget
    cases declared : project.registry.first? with
    | none => simp [default_eq_none declared, Except.map, eq_comm]
    | some target => cases project.default <;> simp [Except.map]

/-- The report of a planned request. -/
theorem reports_of_plan (loaded : ofRunfile runfile root overrides = .ok project)
    {World : Type} (host : Host World) (options : RunOptions) (world : World) {plan : Plan}
    {roots : List String} (planned : project.registry.plan roots = .ok plan) :
    Scheduler.Reports ⟨project.registry, project.table, options⟩ host plan world :=
  Scheduler.reports_of_sorted host world (Plan.sorted_of_plan planned)
    (expands_of_loaded loaded options plan)

/-- An error of a request leaves the surroundings alone. -/
theorem serve_error (loaded : ofRunfile runfile root overrides = .ok project) {World : Type}
    {surroundings : Surroundings World} {request : Request} {world after : World}
    {e : ConfigError} (failed : project.serve surroundings request world = (.error e, after)) :
    after = world ∧
      (project.roots request.targets = .error e ∨
        ∃ roots, project.roots request.targets = .ok roots ∧
          project.registry.plan roots = .error e) := by
  unfold serve at failed
  split at failed
  · next refused =>
    cases failed
    exact ⟨rfl, .inl refused⟩
  · next roots chosen =>
    split at failed
    · next refused =>
      cases failed
      exact ⟨rfl, .inr ⟨roots, chosen, refused⟩⟩
    · next plan planned =>
      obtain ⟨report, reported, -⟩ :=
        reports_of_plan loaded surroundings.toHost request.options
          (surroundings.enter project.root project.shell world) planned
      simp [scheduler, reported] at failed

theorem dependable (loaded : ofRunfile runfile root overrides = .ok project) :
    project.Dependable where
  of_error := by
    intro World surroundings request world e after failed
    obtain ⟨same, refused | ⟨roots, chosen, refused⟩⟩ := serve_error loaded failed
    · exact ⟨same, .inl ⟨refused, (roots_eq_error_iff.1 refused).2.2⟩⟩
    · exact ⟨same, .inr ⟨roots, chosen, refused, Plan.refusal_of_plan refused⟩⟩
  of_plan := by
    intro World host options requested plan world planned
    obtain ⟨roots, -, planned⟩ := ok_of_bind planned
    exact reports_of_plan loaded host options world planned

theorem loaded_of_load {files : FileSystem} {directory : Location} {path : String}
    (h : load files directory path overrides = .ok project) :
    ∃ runfile, ofRunfile runfile (Path.directory path) overrides = .ok project := by
  obtain ⟨runfile, -, h⟩ := ok_of_bind h
  refine ⟨runfile, ?_⟩
  cases loaded : ofRunfile runfile (Path.directory path) overrides with
  | error e => rw [loaded] at h; cases h
  | ok other => rw [loaded] at h; cases h; rfl

end Project

namespace CommandLine

/-! ## Calls of the program -/

section Call

variable {World : Type} (surroundings : Surroundings World) (world : World)

/-- What a call did whose exit status stands for a mistake: it wrote of it, and nothing else. -/
def Refused (call : Nat × World) : Prop :=
  call.1 = configStatus → ∃ text, call.2 = surroundings.warn text world

theorem refused_giveUp (problem : Problem) :
    Refused surroundings world (giveUp surroundings problem world) :=
  fun _ => ⟨_, rfl⟩

theorem refused_success (after : World) : Refused surroundings world (0, after) :=
  fun status => absurd status (by simp [configStatus])

theorem refused_carryOut (arguments : Arguments) (path : String) (targets : List String)
    (overrides : List Override) :
    Refused surroundings world (carryOut surroundings arguments path targets overrides world) := by
  unfold carryOut
  split
  · exact refused_giveUp surroundings world _
  · next project load =>
    split
    · exact refused_success surroundings world _
    · obtain ⟨runfile, loaded⟩ := Project.loaded_of_load load
      split
      next result after ran =>
        split
        · next e =>
          obtain ⟨rfl, -⟩ := Project.serve_error loaded ran
          exact refused_giveUp surroundings after _
        · next report => exact fun status => absurd status report.exitStatus_ne

theorem refused_perform (arguments : Arguments) :
    Refused surroundings world (perform surroundings arguments world) := by
  unfold perform
  dsimp only
  split
  · exact refused_giveUp surroundings world _
  · split
    · split
      · exact refused_giveUp surroundings world _
      · exact refused_success surroundings world _
    · split
      · exact refused_giveUp surroundings world _
      · next targets overrides split =>
        exact refused_carryOut surroundings world arguments _ targets overrides

theorem refused_call (line : List String) :
    Refused surroundings world (call surroundings line world) := by
  unfold call
  split
  · exact refused_perform surroundings world _
  · exact refused_success surroundings world _
  · exact refused_success surroundings world _
  · exact fun _ => ⟨_, rfl⟩

end Call

/-- A call on a machine that is refused writes to the errors of the machine. -/
theorem site_callAt (depth : Nat) (line : List String) (workplace : Workplace)
    (refused : (callAt depth line workplace).1 = configStatus) :
    ∃ text, (callAt depth line workplace).2.site = { workplace.site with
      machine := workplace.site.machine.report (Shell.Octets.ofText text) } := by
  cases depth with
  | zero =>
    obtain ⟨text, after⟩ := refused_call Workplace.surroundings workplace line refused
    exact ⟨text, congrArg Workplace.site after⟩
  | succ depth =>
    obtain ⟨text, after⟩ := refused_call Workplace.surroundings
      { workplace with caller := asCommand (callAt depth) } line refused
    exact ⟨text, congrArg Workplace.site after⟩

end CommandLine

namespace Project

/-- **A loaded project is dependable**: an error of a request means that nothing ran, and a planned
request has a report.  So a call of the program that ends with the exit status of a mistake has
started nothing: all that it did was to write of the mistake, wherever it was called, and so on a
machine. -/
theorem dependable_of_loaded {project : Project} {runfile : Runfile} {root : String}
    {overrides : List Override} (loaded : ofRunfile runfile root overrides = .ok project) :
    project.Dependable ∧
      (∀ {World : Type} (surroundings : Surroundings World) line world,
        (CommandLine.call surroundings line world).1 = configStatus →
          ∃ text, (CommandLine.call surroundings line world).2 = surroundings.warn text world) ∧
      ∀ line site directory, (CommandLine.invoke line site directory).1 = configStatus →
        ∃ text, (CommandLine.invoke line site directory).2 =
          { site with machine := site.machine.report (Shell.Octets.ofText text) } :=
  ⟨dependable loaded,
    fun surroundings line world => CommandLine.refused_call surroundings world line,
    fun line site directory =>
      CommandLine.site_callAt CommandLine.maxDepth line { site, directory }⟩

end Project

namespace Small

theorem dependable_of_runfile :
    ∃ project, Project.ofRunfile runfile "." [] = .ok project ∧
      project.Dependable ∧
        (∀ {World : Type} (surroundings : Surroundings World) line world,
          (CommandLine.call surroundings line world).1 = configStatus →
            ∃ text, (CommandLine.call surroundings line world).2 = surroundings.warn text world) ∧
        ∀ line site directory, (CommandLine.invoke line site directory).1 = configStatus →
          ∃ text, (CommandLine.invoke line site directory).2 =
            { site with machine := site.machine.report (Shell.Octets.ofText text) } := by
  obtain ⟨project, loaded⟩ := loads_runfile
  exact ⟨project, loaded, Project.dependable_of_loaded loaded⟩

end Small
end TaskRunner
