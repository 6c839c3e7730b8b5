import TaskRunner.Proofs.Execution.Failures
import TaskRunner.Proofs.Execution.Forecast
/- # TaskRunner.Proofs.Execution.Confluence -- the order of a run does not show in its report

How many recipes may run at once, and which of them ends first, decides what is started, skipped or
withheld when.  Fix what becomes of each target once it is looked at, whether it is due and how its
recipe ends (`Assignment`).  Then a run that is not cut short leaves states which satisfy one
equation for each entry: it has the state assigned to it if all of its prerequisites unblock it, and
is pending otherwise (`Assignment.Solves`).  A plan is in topological order, so these equations have
one solution, and every order of the run leads to it. -/

namespace TaskRunner
set_option autoImplicit false

/-- What becomes of each target once it is looked at. -/
structure Assignment where
  /-- The verdict on a target. -/
  due : String → Bool
  /-- The first line of a recipe that fails, counted from zero, with the cause; nothing if all of
  them succeed. -/
  failure : String → Option (Nat × LineFailure)

namespace Assignment

/-- The state in which a target is when it has ended. -/
def outcome (assignment : Assignment) (target : Target) : TargetState :=
  if !assignment.due target.name then .skipped
  else if target.isAggregate then .succeeded
  else
    match assignment.failure target.name with
    | none => .succeeded
    | some _ => .failed

/-- Whether states follow from the assignment: an entry has ended if its prerequisites have ended
well, and has not started otherwise. -/
def Solves (assignment : Assignment) (registry : Registry) (order : List String)
    (state : String → TargetState) : Prop :=
  ∀ name ∈ order, ∀ target, registry.get? name = some target →
    state name =
      if target.prerequisites.all fun prerequisite => (state prerequisite).unblocks then
        assignment.outcome target
      else .pending

/-- The states that follow from an assignment are settled one after the other. -/
theorem Solves.unique {assignment : Assignment} {registry : Registry} {order : List String}
    {state other : String → TargetState} (sorted : Plan.Sorted registry order)
    (first : assignment.Solves registry order state)
    (second : assignment.Solves registry order other) :
    ∀ name ∈ order, state name = other name := by
  induction sorted with
  | nil => exact fun name member => absurd member List.not_mem_nil
  | @snoc order last target sorted found fresh earlier ih =>
    have ih := ih (fun name member => first name (List.mem_append_left _ member))
      fun name member => second name (List.mem_append_left _ member)
    intro name member
    rcases List.mem_append.1 member with before | final
    · exact ih name before
    · obtain rfl := List.mem_singleton.1 final
      have same : (target.prerequisites.all fun prerequisite => (state prerequisite).unblocks) =
          target.prerequisites.all fun prerequisite => (other prerequisite).unblocks := by
        rw [Bool.eq_iff_iff, List.all_eq_true, List.all_eq_true]
        exact forall₂_congr fun prerequisite needed => by rw [ih prerequisite (earlier _ needed)]
      rw [first name member target found, second name member target found, same]

end Assignment

namespace Scheduler

variable {World : Type} {scheduler : Scheduler} {host : Host World} {plan : Plan} {origin : World}
  {assignment : Assignment}

/-- Whether a run meets what is assigned: in the verdict on each entry when it leaves the pending
state, and in the end of each recipe. -/
structure Assigned (scheduler : Scheduler) (host : Host World) (plan : Plan) (origin : World)
    (assignment : Assignment) : Prop where
  judged : ∀ {before after : Run × World}, scheduler.Reaches host (.start plan, origin) before →
    scheduler.Turn host before after → ∀ {name : String} {target : Target},
      scheduler.registry.get? name = some target → before.1.ledger.state name = .pending →
        after.1.ledger.state name ≠ .pending →
          (Staleness.check scheduler.registry (host.times after.2) [] target).isDue =
            assignment.due name
  ends : ∀ {after : Run × World}, scheduler.Reaches host (.start plan, origin) after →
    ∀ flight ∈ after.1.flights, ∀ failure, flight.progress = .finished failure →
      failure.map (fun failure => (failure.line, failure.cause)) =
        assignment.failure flight.target
  /-- There is no other end of a recipe. -/
  prints : scheduler.Prints host plan origin

/-! ## What a run keeps of the assignment -/

/-- How the state of an entry and the failures of a run agree with what is assigned. -/
structure Follows (scheduler : Scheduler) (assignment : Assignment) (run : Run) : Prop where
  of_running : ∀ {name target}, scheduler.registry.get? name = some target →
    run.ledger.state name = .running → assignment.due name = true ∧ target.recipe ≠ []
  of_ended : ∀ {name target}, scheduler.registry.get? name = some target →
    (run.ledger.state name).isTerminal = true →
      run.ledger.state name = assignment.outcome target
  of_failure : ∀ failure ∈ run.ledger.failures,
    assignment.failure failure.target = some (failure.line, failure.cause)

/-- An entry that ends or starts in a turn does so as is assigned. -/
theorem follows_of_change {run : Run} {times : FileTimes} {name : String} {target : Target}
    {state : TargetState} (found : scheduler.registry.get? name = some target)
    (follows : scheduler.Follows assignment run)
    (judged : run.ledger.state name = .pending → state ≠ .pending →
      (Staleness.check scheduler.registry times [] target).isDue = assignment.due name)
    (ends : ∀ flight ∈ run.flights, ∀ failure, flight.progress = .finished failure →
      failure.map (fun failure => (failure.line, failure.cause)) =
        assignment.failure flight.target)
    (change : Change scheduler times run name state) :
    (state = .running → assignment.due name = true ∧ target.recipe ≠ []) ∧
      (state.isTerminal = true → state = assignment.outcome target) := by
  obtain rfl := Registry.name_of_get? found
  cases change with
  | stay => exact ⟨follows.of_running found, follows.of_ended found⟩
  | depart scans pending known ready departure =>
    obtain rfl := Option.some.inj (known.symm.trans found)
    cases departure with
    | skip fresh =>
      have due := fresh ▸ judged pending (by simp)
      exact ⟨fun running => by simp at running, fun _ => by simp [Assignment.outcome, ← due]⟩
    | complete due empty =>
      have due := due ▸ judged pending (by simp)
      exact ⟨fun running => by simp at running, fun _ => by
        simp [Assignment.outcome, ← due, Target.isAggregate, empty]⟩
    | launch due nonempty =>
      have due := due ▸ judged pending (by simp)
      exact ⟨fun _ => ⟨due.symm, nonempty⟩, fun terminal => by cases terminal⟩
  | @finish failure running inFlight =>
    obtain ⟨due, nonempty⟩ := follows.of_running found running
    have assigned := ends _ inFlight failure rfl
    refine ⟨fun running => by cases failure <;> simp [Ledger.endState] at running, fun _ => ?_⟩
    cases failure <;>
      simp [Ledger.endState, Assignment.outcome, due, Target.isAggregate, nonempty, ← assigned]

theorem follows_of_reaches (assigned : scheduler.Assigned host plan origin assignment)
    (distinct : plan.targets.Nodup) {after : Run × World}
    (reached : scheduler.Reaches host (.start plan, origin) after) :
    scheduler.Follows assignment after.1 := by
  induction reached with
  | refl =>
    refine ⟨fun found running => ?_, fun found terminal => ?_, fun failure member => ?_⟩
    · simp [Run.start] at running
    · simp [Run.start, TargetState.isTerminal] at terminal
    · simp [Run.start, Ledger.empty] at member
  | @tail before after reached turn ih =>
    have consistent := consistent_of_turn distinct reached turn
    have change : ∀ {name target}, scheduler.registry.get? name = some target →
        (after.1.ledger.state name = .running →
          assignment.due name = true ∧ target.recipe ≠ []) ∧
        ((after.1.ledger.state name).isTerminal = true →
          after.1.ledger.state name = assignment.outcome target) :=
      fun {name target} found => follows_of_change found ih
        (assigned.judged reached turn found) (assigned.ends reached)
        (turn.move.change consistent name)
    refine ⟨fun found => (change found).1, fun found => (change found).2, fun failure noted => ?_⟩
    rcases turn.move.noted_failure noted with earlier | ⟨flight, inFlight, finished⟩
    · exact ih.of_failure failure earlier
    · have fits := (recorded_of_reaches distinct reached).fits flight inFlight
      rw [finished] at fits
      rw [fits.1, ← assigned.ends reached flight inFlight _ finished]
      rfl

/-! ## The end of a run -/

/-- Whether no failure can cut a run short: it keeps going, or nothing that is due fails. -/
def Uncut (scheduler : Scheduler) (plan : Plan) (assignment : Assignment) : Prop :=
  scheduler.options.keepGoing = true ∨
    ∀ name ∈ plan.targets, assignment.due name = true → assignment.failure name = none

variable {run : Run} {world : World}

/-- A run that cannot be cut short is never halted. -/
theorem Follows.not_halted (follows : scheduler.Follows assignment run)
    (sorted : Plan.Sorted scheduler.registry plan.targets)
    (uncut : scheduler.Uncut plan assignment) (intact : run.crash = none)
    (consistent : run.Consistent scheduler plan) (recorded : run.Recorded)
    (accounted : run.Accounted scheduler plan) : run.halted = false := by
  by_contra halted
  obtain ⟨some, stops⟩ :=
    (accounted.halted_because (by simpa using halted)).resolve_left (· intact)
  rcases uncut with keeps | sound
  · simp [keeps] at stops
  · obtain ⟨failure, noted⟩ := List.exists_mem_of_ne_nil _ some
    have failed := (recorded.failed_iff failure.target).2 (List.mem_map_of_mem noted)
    have member := consistent.planned failure.target (by simp [failed])
    obtain ⟨target, found⟩ := sorted.declared member
    obtain named := Registry.name_of_get? found
    rw [← named] at failed member found
    have outcome := follows.of_ended found (by rw [failed]; rfl)
    have sound := sound target.name member
    rw [failed, Assignment.outcome] at outcome
    split at outcome
    · cases outcome
    · next due =>
      rw [sound (by simpa using due)] at outcome
      split at outcome <;> cases outcome

/-- Where a run that was not halted ends, the states follow from the assignment. -/
theorem Follows.solves (follows : scheduler.Follows assignment run)
    (sorted : Plan.Sorted scheduler.registry plan.targets)
    (consistent : run.Consistent scheduler plan) (accounted : run.Accounted scheduler plan)
    (goes : run.halted = false) (intact : run.crash = none)
    (final : scheduler.step host run world = none) :
    assignment.Solves scheduler.registry plan.targets run.ledger.state := by
  intro name member target found
  split
  · next unblocked =>
    have unblocked := List.all_eq_true.1 unblocked
    have left : run.ledger.state name ≠ .pending := by
      intro pending
      obtain ⟨cause, path, failed⟩ :=
        accounted.lost_of_pending consistent sorted final goes member pending
      obtain ⟨prerequisite, needs, path⟩ := Relation.TransGen.head'_iff.1 path
      obtain ⟨other, known, needed⟩ := needs
      obtain rfl := Option.some.inj (known.symm.trans found)
      have well := unblocked prerequisite needed
      rcases Relation.reflTransGen_iff_eq_or_transGen.1 path with rfl | path
      · rw [failed] at well
        cases well
      · have started : run.ledger.state prerequisite ≠ .pending := by
          intro pending
          rw [pending] at well
          cases well
        have blocks := accounted.unblocks_of_transGen path started
        rw [failed] at blocks
        cases blocks
    refine follows.of_ended found ?_
    have whole := close_of_crash_eq_none host plan run world intact
    rcases whole ▸ consistent.ended final (whole ▸ left) with state | state | state <;>
      rw [state] <;> rfl
  · next blocked =>
    by_contra left
    exact blocked (List.all_eq_true.2 fun prerequisite needed =>
      accounted.unblocked_of_started name prerequisite left ⟨target, found, needed⟩)

/-- What is known of a run that has come to its end and reports. -/
structure Concluded (scheduler : Scheduler) (plan : Plan) (assignment : Assignment) (run : Run) :
    Prop where
  solves : assignment.Solves scheduler.registry plan.targets run.ledger.state
  follows : scheduler.Follows assignment run
  consistent : run.Consistent scheduler plan
  recorded : run.Recorded
  noted : ∀ name, Noted scheduler name (run.ledger.state name) (run.ledger.linesOf name)

theorem Assigned.concluded (assigned : scheduler.Assigned host plan origin assignment)
    (sorted : Plan.Sorted scheduler.registry plan.targets) (expands : scheduler.Expands plan)
    (uncut : scheduler.Uncut plan assignment) :
    ∃ run, (scheduler.execute host plan origin).1.result = .ok (run.ledger.report plan false) ∧
      scheduler.Concluded plan assignment run := by
  obtain ⟨reached, final⟩ := loop_reaches scheduler host (.start plan) origin
  have fine := error_of_reaches sorted expands reached
  have consistent := consistent_of_sorted sorted reached
  have accounted := accounted_of_reaches sorted reached fine
  have recorded := recorded_of_reaches sorted.nodup reached
  have follows := follows_of_reaches assigned sorted.nodup reached
  have intact := assigned.prints.crash_eq_none reached
  have goes := follows.not_halted sorted uncut intact consistent recorded accounted
  refine ⟨_, result_execute_of_intact fine intact, ?_⟩
  exact ⟨follows.solves sorted consistent accounted goes intact final, follows, consistent,
    recorded, noted_of_reaches sorted.nodup reached⟩

/-! ## Two runs -/

section Two

variable {first second : RunOptions} {one two : Run}
  (ended : (scheduler.withOptions first).Concluded plan assignment one)
  (endedToo : (scheduler.withOptions second).Concluded plan assignment two)

include ended endedToo

theorem Concluded.state_eq (sorted : Plan.Sorted scheduler.registry plan.targets) {name : String}
    (member : name ∈ plan.targets) : one.ledger.state name = two.ledger.state name :=
  ended.solves.unique sorted endedToo.solves name member

/-- The commands of an entry depend on its state alone. -/
theorem Concluded.linesOf_eq {name : String}
    (same : one.ledger.state name = two.ledger.state name) :
    one.ledger.linesOf name = two.ledger.linesOf name := by
  have noted := ended.noted name
  have notedToo := endedToo.noted name
  rw [← same] at notedToo
  by_cases idle : one.ledger.state name = .pending ∨ one.ledger.state name = .skipped
  · rw [noted.of_idle idle, notedToo.of_idle idle]
  · obtain ⟨target, found, expanded⟩ := noted.of_started idle
    obtain ⟨other, known, replaced⟩ := notedToo.of_started idle
    obtain rfl := Option.some.inj (found.symm.trans known)
    exact Except.ok.inj (expanded.symm.trans replaced)

/-- What fails in one run fails in the other, in the same line and for the same cause. -/
theorem Concluded.failures_subset (sorted : Plan.Sorted scheduler.registry plan.targets) :
    one.ledger.failures ⊆ two.ledger.failures := by
  intro failure noted
  have failed := (ended.recorded.failed_iff failure.target).2 (List.mem_map_of_mem noted)
  have same := ended.state_eq endedToo sorted
    (ended.consistent.planned failure.target (by simp [failed]))
  have lines := ended.linesOf_eq endedToo same
  obtain ⟨other, notedToo, target⟩ :=
    List.mem_map.1 ((endedToo.recorded.failed_iff failure.target).1 (same ▸ failed))
  have cause := ended.follows.of_failure failure noted
  have causeToo := endedToo.follows.of_failure other notedToo
  have command := ended.recorded.line_of_failure failure noted
  have commandToo := endedToo.recorded.line_of_failure other notedToo
  rw [target, cause, Option.some.injEq, Prod.mk.injEq] at causeToo
  rw [target, ← lines, ← causeToo.1, command, Option.some.injEq] at commandToo
  have equal : failure = other := by
    cases failure
    cases other
    simp_all
  exact equal ▸ notedToo

end Two

/-- **How many recipes may run at once, and in which order they end, does not change the result**:
where the verdicts and the ends of recipes are the same, and no failure cuts the runs short, two
runs of a plan report the same outcomes and, up to order, the same failures. -/
theorem execute_confluent {World Other : Type} {host : Host World} {other : Host Other}
    {origin : World} {later : Other} {first second : RunOptions} {roots : List String}
    (planned : scheduler.registry.plan roots = .ok plan) (expands : scheduler.Expands plan)
    (assigned : (scheduler.withOptions first).Assigned host plan origin assignment)
    (assignedToo : (scheduler.withOptions second).Assigned other plan later assignment)
    (uncut : first.keepGoing = true ∧ second.keepGoing = true ∨
      ∀ name ∈ plan.targets, assignment.due name = true → assignment.failure name = none) :
    ∃ report another,
      ((scheduler.withOptions first).execute host plan origin).1.result = .ok report ∧
      ((scheduler.withOptions second).execute other plan later).1.result = .ok another ∧
      report.outcomes = another.outcomes ∧ report.failures.Perm another.failures := by
  have sorted := Plan.sorted_of_plan planned
  obtain ⟨one, reported, ended⟩ := assigned.concluded sorted expands (uncut.imp_left (·.1))
  obtain ⟨two, reportedToo, endedToo⟩ := assignedToo.concluded sorted expands (uncut.imp_left (·.2))
  refine ⟨_, _, reported, reportedToo, ?_, ?_⟩
  · refine List.map_congr_left fun name member => ?_
    have same := ended.state_eq endedToo sorted member
    rw [same, ended.linesOf_eq endedToo same]
  · refine (List.perm_ext_iff_of_nodup (ended.recorded.failures_nodup.of_map _)
      (endedToo.recorded.failures_nodup.of_map _)).2 fun failure => ?_
    exact ⟨fun noted => ended.failures_subset endedToo sorted noted,
      fun noted => endedToo.failures_subset ended sorted noted⟩

end Scheduler

/-! ## Steady hosts -/

namespace Progress

/-- How far the recipe of a target can have come whose lines all end alike. -/
def Steady (verdict : Option LineFailure) : Progress → Prop
  | ready line _ _ | busy line _ _ => 0 < line → verdict = none
  | finished failure =>
    failure.map (fun failure => (failure.line, failure.cause)) = verdict.map ((0, ·))
  | crashed _ _ _ _ => True

theorem steady_afterLine {verdict : Option LineFailure} {target command : String} {line : Nat}
    {rest : List String} (steady : (busy line command rest).Steady verdict) :
    (afterLine target line command rest verdict).Steady verdict := by
  cases verdict with
  | none =>
    cases rest with
    | nil => rfl
    | cons => exact fun _ => rfl
  | some cause =>
    have first : line = 0 := by
      by_contra later
      cases steady (Nat.pos_of_ne_zero later)
    rw [afterLine, first]
    rfl

end Progress

namespace Scheduler

variable {World : Type} {scheduler : Scheduler} {host : Host World} {plan : Plan} {origin : World}
  {verdict : String → Option LineFailure}

/-- Where all lines of a target end alike, its first line settles how its recipe ends. -/
theorem steady_of_reaches
    (steady : ∀ target world, (host.await target world).1 = verdict target) {after : Run × World}
    (reached : scheduler.Reaches host (.start plan, origin) after) :
    ∀ flight ∈ after.1.flights, flight.progress.Steady (verdict flight.target) := by
  induction reached with
  | refl => exact fun flight member => absurd member List.not_mem_nil
  | tail reached turn ih =>
    intro flight member
    cases proceeds_of_step turn flight member with
    | stay earlier => exact ih flight earlier
    | @launch target lines nonempty expanded =>
      have same := (Variable.Table.forall₂_of_substituteAll expanded).length_eq
      cases lines with
      | nil => simp [Target.isAggregate, List.length_eq_zero_iff.1 same] at nonempty
      | cons first rest => exact fun later => absurd later (Nat.lt_irrefl 0)
    | startLine earlier ready =>
      have steady := ih _ earlier
      rwa [ready] at steady
    | endLine world earlier busy =>
      have before := ih _ earlier
      rw [busy] at before
      rw [steady]
      exact Progress.steady_afterLine before
    | crash => trivial

/-- A host on which neither verdicts nor results change with time meets one assignment in every
order. -/
theorem assigned_of_steady {due : String → Bool}
    (judges : ∀ world name target, scheduler.registry.get? name = some target →
      (Staleness.check scheduler.registry (host.times world) [] target).isDue = due name)
    (steady : ∀ target world, (host.await target world).1 = verdict target)
    (echoes : ∀ command world, (host.echo command world).1 = none) :
    scheduler.Assigned host plan origin ⟨due, fun name => (verdict name).map ((0, ·))⟩ where
  judged := by
    intro before after reached turn name target found _ _
    exact judges after.2 name target found
  ends := by
    intro after reached flight member failure finished
    have ends := steady_of_reaches steady reached flight member
    rwa [finished] at ends
  prints := prints_of_echo fun _ => echoes

end Scheduler

/-! ## A fork -/

namespace Fork

/-- A host without files on which the recipe of one target fails, and which prefers some of the
recipes in flight to others. -/
def host (prefer : List Flight → Option Nat) : Host Unit where
  times _ _ := none
  print _ world := world
  echo _ world := (none, world)
  start _ _ world := world
  await target world := (if target = "one" then some (.exit 1) else none, world)
  choose _ flights world := (prefer flights, world)

/-- Everything is due, and one recipe fails. -/
def assignment : Assignment where
  due _ := true
  failure name := (if name = "one" then some (.exit 1) else none : Option LineFailure).map ((0, ·))

theorem assigned (options : RunOptions) (prefer : List Flight → Option Nat) :
    (scheduler.withOptions options).Assigned (host prefer) plan () assignment := by
  refine Scheduler.assigned_of_steady (fun _ name target found => ?_) (fun _ _ => rfl)
    fun _ _ => rfl
  rcases cases_of_get? found with rfl | rfl | rfl <;>
    simp [Staleness.check, Target.alwaysDue, one, two, both, Staleness.isDue]

def alone : RunOptions := { keepGoing := true }

def together : RunOptions := { jobs := 2, keepGoing := true }

/-- The recipes of the fork run one after the other, and together with the later one preferred. -/
theorem execute_confluent_fork :
    registry.plan ["both"] = .ok plan ∧ scheduler.Expands plan ∧
      (scheduler.withOptions alone).Assigned (host fun _ => none) plan () assignment ∧
      (scheduler.withOptions together).Assigned (host fun flights => some (flights.length - 1))
        plan () assignment ∧
      (alone.keepGoing = true ∧ together.keepGoing = true) ∧
      ∃ report another,
        ((scheduler.withOptions alone).execute (host fun _ => none) plan ()).1.result =
          .ok report ∧
        ((scheduler.withOptions together).execute (host fun flights => some (flights.length - 1))
          plan ()).1.result = .ok another ∧
        report.outcomes = another.outcomes ∧ report.failures.Perm another.failures :=
  ⟨plan_registry, expands, assigned .., assigned .., ⟨rfl, rfl⟩,
    Scheduler.execute_confluent plan_registry expands (assigned ..) (assigned ..)
      (.inl ⟨rfl, rfl⟩)⟩

end Fork
end TaskRunner
