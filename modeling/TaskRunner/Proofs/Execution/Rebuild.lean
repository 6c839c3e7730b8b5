import TaskRunner.Execution.Rehearsal
import TaskRunner.Proofs.Execution.Forecast
/- # TaskRunner.Proofs.Execution.Rebuild -- what a second run does again

After an orderly run every entry that the age of files can settle is fresh, whether it was skipped
or its recipe has run (`still_fresh_of_skipped`, `fresh_of_succeeded`).  So a second run finds due
only what nothing can settle: a target that is phony or has no outputs, and what needs one
(`Registry.Lasting`).

That the second run reports at all says something of the first.  A mistake that stopped the first
one would stop the second one too, since the entry at which it came up is as it was
(`fine_of_second`). -/

namespace TaskRunner
set_option autoImplicit false

/-- Whether a target stays up to date once it is: neither it nor anything that it needs, directly or
not, is phony or without outputs. -/
def Registry.Lasting (registry : Registry) (name : String) : Prop :=
  ∀ other target, Relation.ReflTransGen registry.Needs name other →
    registry.get? other = some target → target.phony = false ∧ target.outputs ≠ []

theorem Registry.Lasting.of_needs {registry : Registry} {name prerequisite : String}
    (lasting : registry.Lasting name)
    (path : Relation.ReflTransGen registry.Needs name prerequisite) :
    registry.Lasting prerequisite :=
  fun other target rest found => lasting other target (path.trans rest) found

theorem Registry.Lasting.not_alwaysDue {registry : Registry} {name : String} {target : Target}
    (lasting : registry.Lasting name) (found : registry.get? name = some target) :
    target.alwaysDue = false :=
  target.alwaysDue_eq_false_iff.2 (lasting name target .refl found)

/-- What is not lasting is always due. -/
theorem Staleness.Due.of_not_lasting {registry : Registry} {times : FileTimes} {name : String}
    (passing : ¬ registry.Lasting name) : Due registry times name := by
  by_contra settled
  refine passing fun other target path found => ?_
  by_contra broken
  exact settled ⟨other, target, path, found, fun fresh =>
    broken (target.alwaysDue_eq_false_iff.1 fresh.not_alwaysDue)⟩

namespace Scheduler

variable {World : Type} {scheduler : Scheduler} {host : Host World} {plan : Plan}
  {origin : World}

section Ended

variable (orderly : scheduler.Orderly host plan origin)
  (sorted : Plan.Sorted scheduler.registry plan.targets) {name : String} {target : Target}
  (member : name ∈ plan.targets) (found : scheduler.registry.get? name = some target)
  {after : Run × World} (reached : scheduler.Reaches host (.start plan, origin) after)

include orderly sorted member found reached

/-- What an orderly run has skipped stays fresh. -/
theorem still_fresh_of_skipped (skipped : after.1.ledger.state name = .skipped) :
    Staleness.Fresh scheduler.registry (host.times after.2) target := by
  obtain ⟨last, first, leaving, onward, ended, fresh⟩ :=
    fresh_of_skipped sorted.nodup found reached skipped
  refine fresh.of_agree (fun output made => ?_)
    fun prerequisite needed source known input read => ?_
  · exact times_of_terminal orderly sorted.nodup member found made
      (leaving.reached.tail leaving.turn) onward (by rw [ended]; rfl)
  · rw [leaving.times_of_prerequisite orderly sorted member found onward needed known read,
      leaving.times_of_prerequisite orderly sorted member found .refl needed known read]

/-- What an orderly run has made is fresh, if the age of files can settle it. -/
theorem fresh_of_succeeded (lasting : scheduler.registry.Lasting name)
    (succeeded : after.1.ledger.state name = .succeeded) :
    Staleness.Fresh scheduler.registry (host.times after.2) target := by
  have distinct := sorted.nodup
  have judged := lasting.not_alwaysDue found
  obtain ⟨last, first, leaving, onward, renewed⟩ := renewed_of_succeeded orderly distinct member
    found (orderly.productive name member target found judged) reached succeeded
  have settled : ∀ prerequisite ∈ target.prerequisites, ∀ source,
      scheduler.registry.get? prerequisite = some source → source.alwaysDue = false :=
    fun prerequisite needed source known =>
      (lasting.of_needs (.single ⟨target, found, needed⟩)).not_alwaysDue known
  refine ⟨judged, fun output made => (renewed output made).imp fun _ => And.left, settled,
    fun prerequisite needed source known input read => ?_⟩
  -- What the recipe read was there when it began, and has stayed as it was since.
  have inPlan := sorted.mem_of_needs member ⟨target, found, needed⟩
  obtain ⟨changed, written⟩ := present_of_unblocks orderly distinct inPlan known
    (settled prerequisite needed source known) leaving.reached
    (leaving.unblocked prerequisite needed) input read
  have begun := leaving.times_of_prerequisite orderly sorted member found .refl needed known read
  refine ⟨changed, ?_, fun output made time there => ?_⟩
  · rw [leaving.times_of_prerequisite orderly sorted member found onward needed known read,
      written]
  · obtain ⟨renewal, same, newer⟩ := renewed output made
    rw [same, Option.some.injEq] at there
    exact there ▸ Int.le_of_lt (newer input changed (begun.trans written))

end Ended

/-- What is due after an orderly run that has come to its end is what does not last. -/
theorem due_iff_of_over (orderly : scheduler.Orderly host plan origin)
    (sorted : Plan.Sorted scheduler.registry plan.targets) {run : Run} {world : World}
    (reached : scheduler.Reaches host (.start plan, origin) (run, world))
    (final : scheduler.step host run world = none) (fine : run.error = none) {name : String}
    (member : name ∈ plan.targets) :
    Staleness.Due scheduler.registry (host.times world) name ↔
      ¬ scheduler.registry.Lasting name := by
  refine ⟨?_, Staleness.Due.of_not_lasting⟩
  rintro ⟨other, target, path, found, stale⟩ lasting
  have inPlan := sorted.mem_of_reflTransGen member path
  rcases unblocked_of_over orderly sorted reached final fine inPlan with skipped | succeeded
  · exact stale (still_fresh_of_skipped orderly sorted inPlan found reached skipped)
  · exact stale (fresh_of_succeeded orderly sorted inPlan found reached (lasting.of_needs path)
      succeeded)

/-! ## Mistakes -/

/-- A mistake that stops a run comes up at an entry that is ready, due, and stays pending. -/
theorem refusal_of_error (sorted : Plan.Sorted scheduler.registry plan.targets)
    {after : Run × World} (reached : scheduler.Reaches host (.start plan, origin) after)
    (mistake : after.1.error ≠ none) :
    ∃ name target last first, Look scheduler host plan origin name target last first ∧
      scheduler.Reaches host first after ∧ name ∈ plan.targets ∧
        scheduler.registry.get? name = some target ∧
          ¬ Staleness.Fresh scheduler.registry (host.times first.2) target ∧
            (∃ e, scheduler.table.substituteAll target.recipe = .error e) ∧
              after.1.ledger.state name = .pending := by
  obtain ⟨last, first, lead, fine, turn, stopped, onward⟩ :=
    reached.crosses (P := fun run => run.error = none) rfl mistake
  have distinct := sorted.nodup
  have consistent := consistent_of_turn distinct lead turn
  have stays : ∀ name, first.1.halted = true → first.1.ledger.state name = .pending →
      after.1.ledger.state name = .pending := fun name halted pending =>
    pending_of_halted distinct (lead.tail turn) onward halted pending
  generalize eq : first.1 = next at stays stopped
  have move := eq ▸ turn.move
  cases move with
  | giveUp scans front unknown =>
    obtain ⟨target, found⟩ := sorted.declared
      (consistent.mem_of_front front)
    rw [unknown] at found
    cases found
  | @refuse name ahead target e scans front found ready due nonempty failed =>
    have pending := consistent.pending_of_front front
    refine ⟨name, target, last, first,
      ⟨lead, turn, pending, ((Ledger.readiness_eq_ready_iff ..).1 ready).2⟩, onward,
      consistent.mem_of_front front, found, ?_,
      ⟨e, failed⟩, stays name rfl pending⟩
    rw [← Staleness.isDue_check_nil, Bool.not_eq_false]
    exact due
  | _ => exact absurd fine stopped

/-- A mistake that stops an orderly run stops the next one too, if no file changes between them. -/
theorem fine_of_second {Other : Type} {second : RunOptions} {other : Host Other} {later : Other}
    (orderly : scheduler.Orderly host plan origin)
    (again : (scheduler.withOptions second).Orderly other plan later)
    (sorted : Plan.Sorted scheduler.registry plan.targets) {run next : Run} {world : World}
    {desk : Other} (reached : scheduler.Reaches host (.start plan, origin) (run, world))
    (unchanged : other.times later = host.times world)
    (reachedAgain : (scheduler.withOptions second).Reaches other (.start plan, later) (next, desk))
    (final : (scheduler.withOptions second).step other next desk = none)
    (fine : next.error = none) : run.error = none := by
  by_contra mistake
  obtain ⟨name, target, last, first, look, onward, member, found, stale, ⟨e, failed⟩, pending⟩ :=
    refusal_of_error sorted reached mistake
  have distinct := sorted.nodup
  have noted := noted_of_reaches distinct reachedAgain name
  rcases unblocked_of_over again sorted reachedAgain final fine member with skipped | succeeded
  · have settled := (foretold_of_reaches again sorted reachedAgain member (by simp [skipped])).1
      skipped
    have fresh := ((Staleness.not_due_iff found).1 settled).1
    refine stale (fresh.of_agree (fun output made => ?_)
      fun prerequisite needed source known input read => ?_)
    · have idle := idle_of_idle distinct (look.reached.tail look.turn) onward (.inl pending)
      rw [unchanged, times_of_idle orderly distinct member found made reached (.inl pending),
        times_of_idle orderly distinct member found made (look.reached.tail look.turn) idle]
    · rw [unchanged,
        look.times_of_prerequisite orderly sorted member found onward needed known read,
        look.times_of_prerequisite orderly sorted member found .refl needed known read]
  · obtain ⟨same, known, expanded⟩ := noted.of_started (by simp [succeeded])
    obtain rfl := Option.some.inj (known.symm.trans found)
    cases failed.symm.trans expanded

/-! ## The second run -/

/-- **A second run does again only what can never be up to date**: if no file has changed since the
first one, it skips just those entries of which nothing that they need, themselves included, is
phony or without outputs, and all others succeed. -/
theorem run_again {Other : Type} {roots : List String} {second : RunOptions} {other : Host Other}
    {later : Other} (planned : scheduler.registry.plan roots = .ok plan)
    (runs : scheduler.options.dryRun = false) (runsAgain : second.dryRun = false)
    (orderly : scheduler.Orderly host plan origin)
    (again : (scheduler.withOptions second).Orderly other plan later)
    (unchanged : other.times later = host.times (scheduler.run host plan origin).2) :
    (scheduler.Expands plan → ∃ report,
      ((scheduler.withOptions second).run other plan later).1.result = .ok report) ∧
    ∀ report, ((scheduler.withOptions second).run other plan later).1.result = .ok report →
      report.outcomes.map (·.name) = plan.targets ∧ ∀ outcome ∈ report.outcomes,
        (outcome.state = .skipped ↔ scheduler.registry.Lasting outcome.name) ∧
          (outcome.state ≠ .skipped → outcome.state = .succeeded) := by
  have sorted := Plan.sorted_of_plan planned
  have runsAgain : (scheduler.withOptions second).options.dryRun = false := runsAgain
  rw [run_eq_execute runs] at unchanged
  rw [run_eq_execute runsAgain]
  obtain ⟨reached, final⟩ := loop_reaches scheduler host (.start plan) origin
  obtain ⟨reachedAgain, overAgain⟩ :=
    loop_reaches (scheduler.withOptions second) other (.start plan) later
  constructor
  · intro expands
    have sorted : Plan.Sorted (scheduler.withOptions second).registry plan.targets := sorted
    have expands : (scheduler.withOptions second).Expands plan := expands
    have fine := error_of_reaches sorted expands reachedAgain
    exact ⟨_, by simp only [execute, error_close, fine]; rfl⟩
  · intro report reported
    obtain ⟨fineAgain, rfl⟩ := report_of_execute reported
    have fine := fine_of_second orderly again sorted reached unchanged reachedAgain overAgain
      fineAgain
    rw [close_of_crash_eq_none _ _ _ _ (again.prints.crash_eq_none reachedAgain)]
    refine ⟨Ledger.names_report .., List.forall_mem_map.2 fun name member => ?_⟩
    have ended := unblocked_of_over again sorted reachedAgain overAgain fineAgain member
    have foretold := foretold_of_reaches again sorted reachedAgain member
      (by rcases ended with state | state <;> simp [state])
    refine ⟨?_, ended.resolve_left⟩
    rw [foretold, unchanged]
    exact not_iff_comm.1 (due_iff_of_over orderly sorted reached final fine member).symm

end Scheduler

/-! ## The small run once more -/

namespace Small

/-- Two recipes may run at once in the second run. -/
def again : RunOptions := { jobs := 2 }

def rested : Run where
  ledger := Ledger.empty.setState "lib" .skipped
  ahead := ["all"]
  events := [.skipped "lib" "up to date"]

def settled : Run :=
  { rested with
    ledger := rested.ledger.setState "all" .succeeded
    ahead := []
    events := .completed "all" :: .started "all" :: rested.events }

section Steps

open Scheduler

theorem step_again :
    (scheduler.withOptions again).step host (.start plan) (some 1) = some (rested, some 1) := by
  have jobs : (scheduler.withOptions again).jobs = 2 := rfl
  have declared : (scheduler.withOptions again).registry = registry := rfl
  simp [step, canScan, Run.start, plan, jobs, host, chosen?, look, declared, lib, dispatch,
    Ledger.readiness, Staleness.check, Staleness.oldest, Target.alwaysDue, Staleness.isDue,
    Staleness.message, Run.rescan, Run.emit, rested]

theorem step_rested :
    (scheduler.withOptions again).step host rested (some 1) = some (settled, some 1) := by
  have jobs : (scheduler.withOptions again).jobs = 2 := rfl
  have declared : (scheduler.withOptions again).registry = registry := rfl
  simp [step, canScan, rested, jobs, host, chosen?, look, declared, all, dispatch,
    Ledger.readiness, Ledger.isLost, Ledger.state_setState, TargetState.unblocks,
    Staleness.check, Target.alwaysDue, Staleness.isDue, Target.isAggregate, Run.rescan, Run.emit,
    settled]

theorem step_settled : (scheduler.withOptions again).step host settled (some 1) = none := by
  simp [step, canScan, settled, rested]

end Steps

/-- Nothing is in flight in the second run, and the file stays as it is. -/
theorem resting_of_reaches {after : Run × Option FileTime}
    (reached : (scheduler.withOptions again).Reaches host (.start plan, some 1) after) :
    after.1.flights = [] ∧ after.2 = some 1 := by
  have member : after ∈ [(Run.start plan, some 1), (rested, some 1), (settled, some 1)] := by
    refine reached.mem_of_closed (by simp) ?_
    simp [Scheduler.Turn, step_again, step_rested, step_settled]
  rcases (by simpa using member :
    after = (Run.start plan, some 1) ∨ after = (rested, some 1) ∨ after = (settled, some 1))
    with rfl | rfl | rfl <;> exact ⟨rfl, rfl⟩

theorem orderly_again : (scheduler.withOptions again).Orderly host plan (some 1) where
  productive := orderly.productive
  succeeds := by
    intro run world reached flight flies
    have none : run.flights = [] := (resting_of_reaches reached).1
    simp [none] at flies
  prints := Scheduler.prints_of_echo fun _ _ _ => rfl
  keeps := by
    intro before after reached turn _ _ _ _ _ output _
    rw [(resting_of_reaches reached).2, (resting_of_reaches (reached.tail turn)).2]
  renews := by
    intro before begun after reached turn onward _ _ _ _ _ flies
    have none := (resting_of_reaches ((reached.tail turn).trans onward)).1
    simp [none] at flies

/-- The second small run has only the group left to do. -/
theorem run_again_small :
    scheduler.registry.plan ["all"] = .ok plan ∧ scheduler.options.dryRun = false ∧
      again.dryRun = false ∧ scheduler.Orderly host plan none ∧
      (scheduler.withOptions again).Orderly host plan (some 1) ∧
      host.times (some 1) = host.times (scheduler.run host plan none).2 ∧
      ∃ report, ((scheduler.withOptions again).run host plan (some 1)).1.result = .ok report ∧
        ∀ outcome ∈ report.outcomes,
          (outcome.state = .skipped ↔ scheduler.registry.Lasting outcome.name) := by
  have unchanged : host.times (some 1) = host.times (scheduler.run host plan none).2 := by
    rw [Scheduler.run_eq_execute rfl]
    simp only [Scheduler.execute, loop_start]
  refine ⟨plan_registry, rfl, rfl, orderly, orderly_again, unchanged, ?_⟩
  obtain ⟨reports, rests⟩ :=
    Scheduler.run_again plan_registry rfl rfl orderly orderly_again unchanged
  obtain ⟨report, reported⟩ := reports Scheduler.expands_small
  exact ⟨report, reported, fun outcome member => ((rests report reported).2 outcome member).1⟩

end Small
end TaskRunner
