import TaskRunner.Execution.Rehearsal
import TaskRunner.Proofs.Execution.Orderly
import TaskRunner.Workplace
/- # TaskRunner.Proofs.Execution.Forecast -- a rehearsal shows what a run does

A rehearsal and a run judge the entries of a plan from different things: the one from files that do
not change and a list of what it would have rebuilt, the other from files that recipes keep
changing.  Both come to the verdicts that `Staleness.Due` reads off the files in the beginning, so
both report the same (`Foretold.unique`), and what a rehearsal prints is what a run hands to the
shell. -/

namespace TaskRunner
set_option autoImplicit false

/-- What a report has to say of an entry, by the files in the beginning. -/
inductive Foretold (registry : Registry) (table : Variable.Table) (times : FileTimes)
    (name : String) : TargetState → List String → Prop where
  | skipped (settled : ¬ Staleness.Due registry times name) :
      Foretold registry table times name .skipped []
  | performed {target : Target} {lines : List String} (due : Staleness.Due registry times name)
      (found : registry.get? name = some target)
      (expanded : table.substituteAll target.recipe = .ok lines) :
      Foretold registry table times name .succeeded lines

theorem Foretold.unique {registry : Registry} {table : Variable.Table} {times : FileTimes}
    {name : String} {state other : TargetState} {lines more : List String}
    (first : Foretold registry table times name state lines)
    (second : Foretold registry table times name other more) : state = other ∧ lines = more := by
  cases first with
  | skipped settled =>
    cases second with
    | skipped => exact ⟨rfl, rfl⟩
    | performed due => exact absurd due settled
  | performed due found expanded =>
    cases second with
    | skipped settled => exact absurd due settled
    | performed _ again same =>
      obtain rfl := Option.some.inj (found.symm.trans again)
      exact ⟨rfl, Except.ok.inj (expanded.symm.trans same)⟩

theorem Foretold.unblocks {registry : Registry} {table : Variable.Table} {times : FileTimes}
    {name : String} {state : TargetState} {lines : List String}
    (foretold : Foretold registry table times name state lines) :
    state = .skipped ∨ state = .succeeded := by
  cases foretold with
  | skipped => exact .inl rfl
  | performed => exact .inr rfl

/-! ## The commands that a run notes -/

/-- Whether the commands noted of an entry fit its state: none until it starts, and the lines of its
recipe from then on. -/
structure Noted (scheduler : Scheduler) (name : String) (state : TargetState)
    (lines : List String) : Prop where
  of_idle : state = .pending ∨ state = .skipped → lines = []
  of_started : ¬ (state = .pending ∨ state = .skipped) → ∃ target,
    scheduler.registry.get? name = some target ∧
      scheduler.table.substituteAll target.recipe = .ok lines

namespace Scheduler

variable {World : Type} {scheduler : Scheduler} {host : Host World} {plan : Plan}
  {origin : World}

theorem Move.noted {run next : Run} {times : FileTimes} (move : scheduler.Move times run next)
    (consistent : run.Consistent scheduler plan)
    (noted : ∀ name, Noted scheduler name (run.ledger.state name) (run.ledger.linesOf name))
    (name : String) : Noted scheduler name (next.ledger.state name) (next.ledger.linesOf name) := by
  cases move with
  | pass | withhold | giveUp | refuse | startLine | endLine | crash | lose => exact noted name
  | skip scans front found ready fresh =>
    simp only [Ledger.state_setState, Ledger.linesOf_setState]
    split
    · next same =>
      have pending := consistent.pending_of_front front
      exact ⟨fun _ => (noted name).of_idle (.inl (same ▸ pending)),
        fun busy => absurd (.inr rfl) busy⟩
    · exact noted name
  | @complete front ahead target scans eq found ready due empty =>
    simp only [Ledger.state_setState, Ledger.linesOf_setState]
    split
    · next same =>
      have pending := consistent.pending_of_front eq
      have none := (noted name).of_idle (.inl (same ▸ pending))
      refine ⟨fun _ => none, fun _ => ⟨target, same ▸ found, ?_⟩⟩
      rw [none, List.isEmpty_iff.1 empty]
      rfl
    · exact noted name
  | @launch front ahead target lines scans eq found ready due nonempty expanded =>
    simp only [Ledger.state_setCommands, Ledger.state_setState, Ledger.linesOf_setCommands,
      Ledger.linesOf_setState]
    split
    · next same =>
      exact ⟨fun idle => by simp at idle, fun _ => ⟨target, same ▸ found, expanded⟩⟩
    · exact noted name
  | @join i flight failure idle found finished =>
    rw [Run.ledger_join, Ledger.state_finish, Ledger.linesOf_finish]
    split
    · next same =>
      have running := consistent.running_of_inFlight _ (Run.mem_inFlight_of_getElem? found)
      rw [same] at running
      refine ⟨fun idle => ?_, fun _ => (noted name).of_started (by simp [running])⟩
      cases failure <;> simp [Ledger.endState] at idle
    · exact noted name

theorem noted_of_reaches (distinct : plan.targets.Nodup) {after : Run × World}
    (reached : scheduler.Reaches host (.start plan, origin) after) (name : String) :
    Noted scheduler name (after.1.ledger.state name) (after.1.ledger.linesOf name) := by
  induction reached generalizing name with
  | refl =>
    exact ⟨fun _ => Ledger.linesOf_empty name,
      fun busy => absurd (.inl (Ledger.state_empty name)) busy⟩
  | tail reached turn ih =>
    exact turn.move.noted (consistent_of_turn distinct reached turn) ih name

/-- The report on an orderly run says what is foretold. -/
theorem execute_foretold (orderly : scheduler.Orderly host plan origin)
    (sorted : Plan.Sorted scheduler.registry plan.targets) (expands : scheduler.Expands plan) :
    ∃ ledger : Ledger,
      (scheduler.execute host plan origin).1.result = .ok (ledger.report plan false) ∧
      ∀ name ∈ plan.targets, Foretold scheduler.registry scheduler.table (host.times origin) name
        (ledger.state name) (ledger.linesOf name) := by
  obtain ⟨reached, final⟩ := loop_reaches scheduler host (.start plan) origin
  have fine := error_of_reaches sorted expands reached
  refine ⟨_, result_execute_of_intact fine (orderly.prints.crash_eq_none reached),
    fun name member => ?_⟩
  have unblocked := unblocked_of_over orderly sorted reached final fine member
  have noted := noted_of_reaches sorted.nodup reached name
  have foretold := foretold_of_reaches orderly sorted reached member
    (by rcases unblocked with state | state <;> simp [state])
  rcases unblocked with skipped | succeeded
  · rw [skipped, noted.of_idle (.inr skipped)]
    exact .skipped (foretold.1 skipped)
  · obtain ⟨target, found, expanded⟩ := noted.of_started (by simp [succeeded])
    rw [succeeded]
    refine .performed ?_ found expanded
    by_contra settled
    have skipped := foretold.2 settled
    rw [succeeded] at skipped
    cases skipped

/-! ## The rehearsal -/

/-- Prints lines. -/
def printAll (host : Host World) (lines : List String) (world : World) : World :=
  lines.foldl (fun world line => host.print line world) world

/-- What a rehearsal has come to after some entries. -/
structure Rehearsed (scheduler : Scheduler) (host : Host World) (origin : World)
    (order : List String) (rehearsal : Rehearsal) (world : World) : Prop where
  rebuilt_iff : ∀ name, name ∈ rehearsal.rebuilt ↔
    name ∈ order ∧ Staleness.Due scheduler.registry (host.times origin) name
  foretold : ∀ name ∈ order, Foretold scheduler.registry scheduler.table (host.times origin) name
    (rehearsal.ledger.state name) (rehearsal.ledger.linesOf name)
  silent : ∀ name, name ∉ order → rehearsal.ledger.linesOf name = []
  printed : world = printAll host (order.flatMap rehearsal.ledger.linesOf) origin

theorem rehearse_append {rehearsal after : Rehearsal} {world desk : World} {front : List String}
    (back : List String)
    (h : scheduler.rehearse host rehearsal world front = (none, after, desk)) :
    scheduler.rehearse host rehearsal world (front ++ back) =
      scheduler.rehearse host after desk back := by
  induction front generalizing rehearsal world with
  | nil =>
    cases h
    rfl
  | cons name rest ih =>
    rw [rehearse] at h
    rw [List.cons_append, rehearse]
    cases found : scheduler.registry.get? name with
    | none =>
      rw [found] at h
      cases h
    | some target =>
      simp only [found] at h ⊢
      split at h
      · next fresh =>
        rw [if_pos fresh]
        exact ih h
      · next due =>
        rw [if_neg due]
        cases expanded : scheduler.table.substituteAll target.recipe with
        | error e =>
          rw [expanded] at h
          cases h
        | ok commands =>
          simp only [expanded] at h ⊢
          exact ih h

theorem printAll_append (host : Host World) (first second : List String) (world : World) :
    printAll host (first ++ second) world = printAll host second (printAll host first world) :=
  List.foldl_append

theorem times_printAll
    (prints : ∀ line world, host.times (host.print line world) = host.times world)
    (lines : List String) (world : World) :
    host.times (printAll host lines world) = host.times world := by
  induction lines generalizing world with
  | nil => rfl
  | cons line rest ih => exact (ih (host.print line world)).trans (prints line world)

namespace Rehearsed

variable {order : List String} {rehearsal : Rehearsal} {world : World} {name : String}
  {target : Target}

theorem start : Rehearsed scheduler host origin [] {} origin where
  rebuilt_iff := fun name => by simp
  foretold := fun name member => absurd member List.not_mem_nil
  silent := fun name _ => Ledger.linesOf_empty name
  printed := rfl

/-- The verdict of a rehearsal on the entry that it comes to. -/
theorem isDue_iff (rehearsed : Rehearsed scheduler host origin order rehearsal world)
    (prints : ∀ line world, host.times (host.print line world) = host.times world)
    (found : scheduler.registry.get? name = some target)
    (earlier : ∀ prerequisite ∈ target.prerequisites, prerequisite ∈ order) :
    (Staleness.check scheduler.registry (host.times world) rehearsal.rebuilt target).isDue = false ↔
      ¬ Staleness.Due scheduler.registry (host.times origin) name := by
  rw [Staleness.isDue_check_eq_false_iff, Staleness.not_due_iff found, rehearsed.printed,
    times_printAll prints]
  refine and_congr_right fun _ => forall₂_congr fun prerequisite needed => ?_
  rw [rehearsed.rebuilt_iff, and_iff_right (earlier prerequisite needed)]

/-- An entry that is settled is skipped. -/
theorem skip (rehearsed : Rehearsed scheduler host origin order rehearsal world)
    (fresh : name ∉ order)
    (settled : ¬ Staleness.Due scheduler.registry (host.times origin) name) (reason : String) :
    Rehearsed scheduler host origin (order ++ [name]) (rehearsal.skip name reason) world := by
  refine ⟨fun other => ?_, fun other member => ?_, fun other absent => ?_, ?_⟩
  · change other ∈ rehearsal.rebuilt ↔ _
    rw [rehearsed.rebuilt_iff, List.mem_append, List.mem_singleton]
    refine and_congr_left fun due => (or_iff_left ?_).symm
    exact fun same => settled (same ▸ due)
  · change Foretold _ _ _ other ((rehearsal.ledger.setState name .skipped).state other)
      (rehearsal.ledger.linesOf other)
    rw [Ledger.state_setState]
    split
    · next same =>
      rw [rehearsed.silent other (same ▸ fresh)]
      exact .skipped (same ▸ settled)
    · next different =>
      exact rehearsed.foretold other (by simpa [Ne.symm different] using member)
  · exact rehearsed.silent other fun member => absent (List.mem_append_left _ member)
  · change world = printAll host ((order ++ [name]).flatMap rehearsal.ledger.linesOf) origin
    rw [List.flatMap_append, List.flatMap_singleton, rehearsed.silent name fresh, List.append_nil]
    exact rehearsed.printed

/-- An entry that is due has its commands printed. -/
theorem perform (rehearsed : Rehearsed scheduler host origin order rehearsal world)
    (fresh : name ∉ order) (due : Staleness.Due scheduler.registry (host.times origin) name)
    (found : scheduler.registry.get? name = some target) {commands : List String}
    (expanded : scheduler.table.substituteAll target.recipe = .ok commands) :
    Rehearsed scheduler host origin (order ++ [name]) (rehearsal.perform name commands)
      (printAll host commands world) := by
  have lines : ∀ other, (rehearsal.perform name commands).ledger.linesOf other =
      if name = other then commands else rehearsal.ledger.linesOf other := fun other =>
    Ledger.linesOf_setCommands ..
  refine ⟨fun other => ?_, fun other member => ?_, fun other absent => ?_, ?_⟩
  · change other ∈ name :: rehearsal.rebuilt ↔ _
    rw [List.mem_cons, rehearsed.rebuilt_iff, List.mem_append, List.mem_singleton]
    constructor
    · rintro (rfl | ⟨member, due⟩)
      · exact ⟨.inr rfl, due⟩
      · exact ⟨.inl member, due⟩
    · rintro ⟨member | same, due⟩
      · exact .inr ⟨member, due⟩
      · exact .inl same
  · rw [lines]
    change Foretold _ _ _ other ((rehearsal.ledger.setState name .succeeded).state other) _
    rw [Ledger.state_setState]
    split
    · next same => exact .performed (same ▸ due) (same ▸ found) expanded
    · next different =>
      exact rehearsed.foretold other (by simpa [Ne.symm different] using member)
  · rw [List.mem_append, List.mem_singleton, not_or] at absent
    rw [lines, if_neg (Ne.symm absent.2)]
    exact rehearsed.silent other absent.1
  · have before : order.flatMap (rehearsal.perform name commands).ledger.linesOf =
        order.flatMap rehearsal.ledger.linesOf := by
      refine List.flatMap_congr fun other member => ?_
      rw [lines, if_neg]
      exact fun same => fresh (same ▸ member)
    rw [List.flatMap_append, List.flatMap_singleton, before, lines, if_pos rfl, printAll_append,
      ← rehearsed.printed]

end Rehearsed

/-- A rehearsal goes through every entry. -/
theorem rehearsed_of_sorted {order : List String}
    (sorted : Plan.Sorted scheduler.registry order) (expands : scheduler.Expands ⟨order⟩)
    (prints : ∀ line world, host.times (host.print line world) = host.times world)
    (origin : World) :
    ∃ rehearsal world, scheduler.rehearse host {} origin order = (none, rehearsal, world) ∧
      Rehearsed scheduler host origin order rehearsal world := by
  induction sorted with
  | nil => exact ⟨_, _, rfl, .start⟩
  | @snoc order name target sorted found fresh earlier ih =>
    obtain ⟨rehearsal, world, led, rehearsed⟩ :=
      ih fun other member => expands other (List.mem_append_left _ member)
    obtain ⟨commands, expanded⟩ :=
      Variable.Table.substituteAll_ok (expands name (by simp) target found)
    have verdict := rehearsed.isDue_iff prints found earlier
    rw [rehearse_append [name] led, rehearse]
    simp only [found, expanded]
    split
    · next rests =>
      exact ⟨_, _, rfl, rehearsed.skip fresh (verdict.1 (by simpa using rests)) _⟩
    · next due =>
      have due : Staleness.Due scheduler.registry (host.times origin) name := by
        by_contra settled
        exact due (by simpa using verdict.2 settled)
      exact ⟨_, _, rfl, rehearsed.perform fresh due found expanded⟩

/-! ## The forecast -/

variable (scheduler host) in
/-- What a rehearsal shows. -/
theorem executeDry_foretold (sorted : Plan.Sorted scheduler.registry plan.targets)
    (expands : scheduler.Expands plan)
    (prints : ∀ line world, host.times (host.print line world) = host.times world)
    (origin : World) :
    ∃ ledger : Ledger, (scheduler.executeDry host plan origin).1.result =
        .ok (ledger.report plan true) ∧
      (∀ name ∈ plan.targets, Foretold scheduler.registry scheduler.table (host.times origin) name
        (ledger.state name) (ledger.linesOf name)) ∧
      (scheduler.executeDry host plan origin).2 =
        printAll host (plan.targets.flatMap ledger.linesOf) origin := by
  obtain ⟨rehearsal, world, led, rehearsed⟩ :=
    rehearsed_of_sorted sorted expands prints origin
  refine ⟨rehearsal.ledger, ?_, rehearsed.foretold, ?_⟩
  · simp [executeDry, led]
  · simp [executeDry, led, ← rehearsed.printed]

/-- The scheduler with other options. -/
def withOptions (scheduler : Scheduler) (options : RunOptions) : Scheduler :=
  { scheduler with options }

/-- The scheduler that only shows what a run would do. -/
def rehearsing (scheduler : Scheduler) : Scheduler :=
  scheduler.withOptions { scheduler.options with dryRun := true }

theorem run_eq_execute (runs : scheduler.options.dryRun = false) (world : World) :
    scheduler.run host plan world = scheduler.execute host plan world :=
  if_neg (by simp [runs])

theorem run_rehearsing (world : World) :
    scheduler.rehearsing.run host plan world = scheduler.rehearsing.executeDry host plan world :=
  if_pos rfl

end Scheduler

/-- A workplace that prints lines has on its output each of them, followed by a newline. -/
theorem Workplace.printAll_host (lines : List String) (workplace : Workplace) :
    Scheduler.printAll Workplace.host lines workplace =
      workplace.withMachine (workplace.machine.print
        (lines.flatMap fun line => Shell.Octets.ofText (line ++ "\n"))) := by
  induction lines generalizing workplace with
  | nil => rfl
  | cons line rest ih =>
    refine (ih (workplace.print line)).trans ?_
    simp [Workplace.print, say, withMachine, machine, Shell.Machine.print]

/-- Ledgers of which every entry is as foretold lead to the same outcomes. -/
theorem Ledger.outcomes_of_foretold {registry : Registry} {table : Variable.Table}
    {times : FileTimes} {plan : Plan} {first second : Ledger} (dryRun again : Bool)
    (one : ∀ name ∈ plan.targets, Foretold registry table times name (first.state name)
      (first.linesOf name))
    (other : ∀ name ∈ plan.targets, Foretold registry table times name (second.state name)
      (second.linesOf name)) :
    (first.report plan dryRun).outcomes = (second.report plan again).outcomes := by
  refine List.map_congr_left fun name member => ?_
  obtain ⟨state, lines⟩ := (one name member).unique (other name member)
  rw [state, lines]

theorem Ledger.commands_report (ledger : Ledger) (plan : Plan) (dryRun : Bool) :
    (ledger.report plan dryRun).outcomes.flatMap (·.commands) =
      plan.targets.flatMap ledger.linesOf := by
  simp [report, List.flatMap_map]

namespace Scheduler

variable {World : Type} {scheduler : Scheduler} {host : Host World} {plan : Plan}
  {origin : World}

/-- **A rehearsal shows what a run does**: both report of every entry the same state and the same
commands, and the rehearsal does nothing but print the commands, in the order of the plan. -/
theorem rehearsing_foretells {roots : List String}
    (planned : scheduler.registry.plan roots = .ok plan) (expands : scheduler.Expands plan)
    (orderly : scheduler.Orderly host plan origin)
    (prints : ∀ line world, host.times (host.print line world) = host.times world)
    (runs : scheduler.options.dryRun = false) :
    ∃ shown done,
      (scheduler.rehearsing.run host plan origin).1.result = .ok shown ∧
      (scheduler.run host plan origin).1.result = .ok done ∧
      shown.outcomes = done.outcomes ∧ shown.outcomes.map (·.name) = plan.targets ∧
      (∀ outcome ∈ shown.outcomes, outcome.state = .skipped ∨ outcome.state = .succeeded) ∧
      (scheduler.rehearsing.run host plan origin).2 =
        printAll host (shown.outcomes.flatMap (·.commands)) origin ∧
      ∀ workplace, Workplace.host.times workplace = host.times origin →
        (scheduler.rehearsing.run Workplace.host plan workplace).2 =
          workplace.withMachine (workplace.machine.print
            ((shown.outcomes.flatMap (·.commands)).flatMap fun line =>
              Shell.Octets.ofText (line ++ "\n"))) := by
  have sorted := Plan.sorted_of_plan planned
  obtain ⟨done, ran, certain⟩ := execute_foretold orderly sorted expands
  obtain ⟨shown, showed, told, printed⟩ :=
    executeDry_foretold scheduler.rehearsing host sorted expands prints origin
  refine ⟨shown.report plan true, done.report plan false, ?_, ?_,
    Ledger.outcomes_of_foretold true false told certain, shown.names_report plan true, ?_, ?_, ?_⟩
  · rw [run_rehearsing, showed]
  · rw [run_eq_execute runs, ran]
  · exact List.forall_mem_map.2 fun name member => (told name member).unblocks
  · rw [run_rehearsing, printed, shown.commands_report]
  · intro workplace unchanged
    obtain ⟨ledger, -, again, printed⟩ := executeDry_foretold scheduler.rehearsing Workplace.host
      sorted expands (fun _ _ => rfl) workplace
    have lines : plan.targets.flatMap ledger.linesOf = plan.targets.flatMap shown.linesOf :=
      List.flatMap_congr fun name member =>
        ((unchanged ▸ again name member).unique (told name member)).2
    rw [run_rehearsing, printed, shown.commands_report, lines, Workplace.printAll_host]

end Scheduler

namespace Small

/-- The events of the small run, in order. -/
def stream : List Event := [
  .started "lib", .command "lib" 0 "cc lib.c", .completed "lib", .started "all", .completed "all"]

theorem run_start : scheduler.run host plan none =
    (⟨.ok (done.ledger.report plan false), stream⟩, some 1) := by
  rw [Scheduler.run_eq_execute rfl, Scheduler.execute, loop_start]
  rfl

end Small

theorem Fork.run_mute : persistent.run mute plan () = (⟨.ok bereftReport, [.started "one"]⟩, ()) := by
  rw [Scheduler.run_eq_execute rfl, execute_mute]

namespace Scheduler

/-- The rehearsal of the small run shows what it does, and prints its one command. -/
theorem rehearsing_foretells_small :
    Small.scheduler.registry.plan ["all"] = .ok Small.plan ∧
      Small.scheduler.Expands Small.plan ∧
      Small.scheduler.Orderly Small.host Small.plan none ∧
      (∀ line made, Small.host.times (Small.host.print line made) = Small.host.times made) ∧
      Small.scheduler.options.dryRun = false ∧
      ∃ shown done,
        (Small.scheduler.rehearsing.run Small.host Small.plan none).1.result = .ok shown ∧
        (Small.scheduler.run Small.host Small.plan none).1.result = .ok done ∧
        shown.outcomes = done.outcomes ∧ shown.outcomes.map (·.name) = ["lib", "all"] ∧
        (∀ outcome ∈ shown.outcomes, outcome.state = .skipped ∨ outcome.state = .succeeded) ∧
        shown.outcomes.flatMap (·.commands) = ["cc lib.c"] ∧
        (Small.scheduler.rehearsing.run Small.host Small.plan none).2 =
          printAll Small.host ["cc lib.c"] none ∧
        ∀ workplace, Workplace.host.times workplace = Small.host.times none →
          (Small.scheduler.rehearsing.run Workplace.host Small.plan workplace).2 =
            workplace.withMachine (workplace.machine.print (Shell.Octets.ofText "cc lib.c\n")) := by
  refine ⟨Small.plan_registry, expands_small, Small.orderly, fun _ _ => rfl, rfl, ?_⟩
  obtain ⟨shown, done, showed, ran, same, names, unblocked, printed, written⟩ :=
    rehearsing_foretells Small.plan_registry expands_small Small.orderly (fun _ _ => rfl) rfl
  obtain rfl : done = Small.done.ledger.report Small.plan false :=
    Except.ok.inj (ran.symm.trans (by rw [Small.run_start]))
  have commands : shown.outcomes.flatMap (·.commands) = ["cc lib.c"] := by
    rw [same, Ledger.commands_report]
    simp [Small.plan, Small.done, Small.joined, Small.made, Small.busy, Small.launched,
      Ledger.linesOf_setCommands]
  rw [commands] at printed written
  refine ⟨shown, _, showed, ran, same, names, unblocked, commands, printed, fun workplace alike => ?_⟩
  simpa using written workplace alike

end Scheduler
end TaskRunner
