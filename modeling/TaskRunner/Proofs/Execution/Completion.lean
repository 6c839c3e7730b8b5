import Mathlib.Data.List.Forall2
import TaskRunner.Proofs.Execution.Safety
/- # TaskRunner.Proofs.Execution.Completion -- what a run leaves behind

A run ends when nothing is in flight and the coordinator has no entry to look at, and nothing in the
scheduler asks whether an entry that could still start is left over.  None is: the first waiting
entry needs only entries that stand before it, so what it waits for is in flight, or is lost and
then the entry is withheld.

`Run.Accounted` accounts for every entry of the plan while no mistake has stopped the run.  At the
end it says what the report shows: without a failure every entry was skipped or has succeeded, and a
run that keeps going leaves an entry pending exactly if something that it needs, directly or not,
has failed (`execute_settles`).

A recipe that crashes stops a run that is to keep going, too, and then entries may be left pending
that need nothing which failed.  The first recipe of a fork leaves one (`Fork.stranded_bereft`). -/

namespace TaskRunner
set_option autoImplicit false

namespace Scheduler

/-- Whether the references in the recipe of every entry of a plan can be replaced. -/
def Expands (scheduler : Scheduler) (plan : Plan) : Prop :=
  ∀ name ∈ plan.targets, ∀ target, scheduler.registry.get? name = some target →
    ∀ line ∈ target.recipe, ∃ text, scheduler.table.substitute line = .ok text

end Scheduler

namespace Variable.Table

variable {table : Variable.Table}

/-- Texts can be replaced together if each of them can. -/
theorem substituteAll_ok {texts : List String}
    (each : ∀ text ∈ texts, ∃ result, table.substitute text = .ok result) :
    ∃ results, table.substituteAll texts = .ok results := by
  unfold substituteAll
  induction texts with
  | nil => exact ⟨[], rfl⟩
  | cons text rest ih =>
    obtain ⟨result, first⟩ := each text List.mem_cons_self
    obtain ⟨results, others⟩ := ih fun other member => each other (List.mem_cons_of_mem _ member)
    exact ⟨result :: results, by rw [List.mapM_cons, first, others]; rfl⟩

/-- Texts that are replaced together are replaced one by one. -/
theorem forall₂_of_substituteAll {texts results : List String}
    (together : table.substituteAll texts = .ok results) :
    List.Forall₂ (fun text result => table.substitute text = .ok result) texts results := by
  unfold substituteAll at together
  induction texts generalizing results with
  | nil =>
    cases together
    exact .nil
  | cons text rest ih =>
    rw [List.mapM_cons] at together
    obtain ⟨result, first, together⟩ := ok_of_bind together
    obtain ⟨others, replaced, together⟩ := ok_of_bind together
    cases together
    exact .cons first (ih replaced)

end Variable.Table

theorem TargetState.isTerminal_of_unblocks {state : TargetState}
    (unblocks : state.unblocks = true) : state.isTerminal = true := by
  cases state <;> first | rfl | cases unblocks

namespace Run

variable {scheduler : Scheduler} {plan : Plan} {run next : Run} {times : FileTimes}

/-- What is known of every entry of a plan while no mistake has stopped its run. -/
structure Accounted (scheduler : Scheduler) (plan : Plan) (run : Run) : Prop where
  waits_or_withheld : ∀ name ∈ plan.targets, run.ledger.state name = .pending →
    name ∈ run.waiting ∨ name ∈ run.ledger.withheld
  withheld_because : ∀ name ∈ run.ledger.withheld, ∃ cause,
    Relation.TransGen scheduler.registry.Needs name cause ∧ run.ledger.state cause = .failed
  failures_of_failed : ∀ name, run.ledger.state name = .failed → run.ledger.failures ≠ []
  unblocked_of_started : ∀ name prerequisite, run.ledger.state name ≠ .pending →
    scheduler.registry.Needs name prerequisite → (run.ledger.state prerequisite).unblocks = true
  /-- An entry that was passed waits for a prerequisite that is not lost. -/
  passed_waits : ∀ name ∈ run.passed, ∃ prerequisite,
    scheduler.registry.Needs name prerequisite ∧ run.ledger.isLost prerequisite = false ∧
      (run.ledger.state prerequisite).unblocks = false
  halted_because : run.halted = true → run.crash ≠ none ∨
    run.ledger.failures ≠ [] ∧ scheduler.options.keepGoing = false

theorem accounted_start (scheduler : Scheduler) (plan : Plan) :
    (start plan).Accounted scheduler plan where
  waits_or_withheld := fun name member _ => .inl (by simpa [waiting, start] using member)
  withheld_because := fun name member => absurd member List.not_mem_nil
  failures_of_failed := fun name failed => by simp [start] at failed
  unblocked_of_started := fun name _ left => absurd (Ledger.state_empty name) left
  passed_waits := fun name member => absurd member List.not_mem_nil
  halted_because := fun halted => by simp [start] at halted

/-! ## What a move does to the account -/

/-- A waiting entry that stays pending goes on waiting or is withheld. -/
theorem waits_of_move (move : scheduler.Move times run next) (fine : next.error = none)
    {name : String} (waits : name ∈ run.waiting) (pending : next.ledger.state name = .pending) :
    name ∈ next.waiting ∨ name ∈ next.ledger.withheld := by
  cases move with
  | pass scans front =>
    rw [waiting_of_front front] at waits
    exact .inl (by simpa [waiting] using waits)
  | withhold scans front =>
    rcases (mem_waiting_of_front front).1 waits with rfl | beside
    · exact .inr List.mem_cons_self
    · exact .inl beside
  | giveUp | refuse => cases fine
  | skip scans front | complete scans front | launch scans front =>
    rw [mem_waiting_of_front front] at waits
    refine .inl (waits.resolve_left ?_)
    rintro rfl
    simp [Ledger.state_setState] at pending
  | join | lose => exact .inl (by simpa using waits)
  | startLine | endLine | crash => exact .inl waits

/-- What is withheld was so before, or is the entry in front of which a prerequisite is lost. -/
theorem withheld_of_move (move : scheduler.Move times run next) {name : String}
    (withheld : name ∈ next.ledger.withheld) :
    name ∈ run.ledger.withheld ∨ ∃ prerequisite,
      scheduler.registry.Needs name prerequisite ∧ run.ledger.isLost prerequisite = true := by
  cases move with
  | withhold scans front found lost =>
    obtain ⟨needed, lost⟩ := Ledger.lost_of_readiness_eq_withheld lost
    rcases List.mem_cons.1 withheld with rfl | earlier
    · exact .inr ⟨_, ⟨_, found, needed⟩, lost⟩
    · exact .inl earlier
  | join => exact .inl (by simpa using withheld)
  | _ => exact .inl withheld

/-- An entry fails together with a failure that is noted. -/
theorem failures_of_move (move : scheduler.Move times run next) {name : String}
    (noted : run.ledger.state name = .failed → run.ledger.failures ≠ [])
    (failed : next.ledger.state name = .failed) : next.ledger.failures ≠ [] := by
  cases move with
  | skip | complete | launch =>
    simp only [Ledger.state_setState, Ledger.state_setCommands] at failed
    split at failed
    · cases failed
    · exact noted failed
  | @join i flight failure =>
    simp only [ledger_join, Ledger.state_finish, Ledger.failures_finish] at failed ⊢
    split at failed
    · cases failure with
      | none => cases failed
      | some _ => simp
    · exact List.append_ne_nil_of_left_ne_nil (noted failed) _
  | _ => exact noted failed

/-- What is passed was so before and is not affected, or is the entry in front, which waits. -/
theorem passed_of_move (move : scheduler.Move times run next)
    (consistent : run.Consistent scheduler plan)
    (sorted : Plan.Sorted scheduler.registry plan.targets)
    (accounted : run.Accounted scheduler plan) {name : String} (passed : name ∈ next.passed) :
    ∃ prerequisite, scheduler.registry.Needs name prerequisite ∧
      next.ledger.isLost prerequisite = false ∧
        (next.ledger.state prerequisite).unblocks = false := by
  cases move with
  | pass scans front found waits =>
    rcases List.mem_cons.1 passed with rfl | earlier
    · obtain ⟨kept, prerequisite, needed, blocks⟩ := (Ledger.readiness_eq_waiting_iff ..).1 waits
      exact ⟨prerequisite, ⟨_, found, needed⟩, kept prerequisite needed, blocks⟩
    · exact accounted.passed_waits name earlier
  | @withhold front prerequisite ahead target scans eq found lost =>
    obtain ⟨other, needs, kept, blocks⟩ := accounted.passed_waits name passed
    -- The entry that is withheld stands behind, so it is none that a passed entry needs.
    have stand := consistent.stands_of_passed eq passed
    have different : other ≠ front := fun same =>
      sorted.not_needs_of_sublist stand (by simp) (same ▸ needs)
    refine ⟨other, needs, ?_, blocks⟩
    simpa [Ledger.isLost, different] using kept
  | skip | complete | refuse | launch | join | lose => cases passed
  | giveUp | startLine | endLine | crash => exact accounted.passed_waits name passed

/-- Only a crash stops a run, or a failure if the run is not to keep going. -/
theorem halted_of_move (move : scheduler.Move times run next) (fine : next.error = none)
    (because : run.halted = true → run.crash ≠ none ∨
      run.ledger.failures ≠ [] ∧ scheduler.options.keepGoing = false)
    (halted : next.halted = true) : next.crash ≠ none ∨
      next.ledger.failures ≠ [] ∧ scheduler.options.keepGoing = false := by
  cases move with
  | giveUp | refuse => cases fine
  | @join i flight failure =>
    simp only [halted_join, Bool.or_eq_true, Bool.and_eq_true, Bool.not_eq_true'] at halted
    rw [ledger_join, Ledger.failures_finish]
    rcases halted with halted | ⟨failed, stops⟩
    · exact (because halted).imp_right (And.imp_left (List.append_ne_nil_of_left_ne_nil · _))
    · obtain ⟨failure, rfl⟩ := Option.isSome_iff_exists.1 failed
      exact .inr ⟨by simp, stops⟩
  | lose => exact .inl (Option.some_ne_none _)
  | _ => exact because halted

/-- No mistake comes up where every entry is declared and its references can be replaced. -/
theorem error_of_move (move : scheduler.Move times run next)
    (consistent : run.Consistent scheduler plan)
    (sorted : Plan.Sorted scheduler.registry plan.targets) (expands : scheduler.Expands plan)
    (fine : run.error = none) : next.error = none := by
  cases move with
  | giveUp scans front unknown =>
    have member := consistent.mem_of_front front
    obtain ⟨target, found⟩ := sorted.declared member
    rw [unknown] at found
    cases found
  | refuse scans front found ready due nonempty failed =>
    have member := consistent.mem_of_front front
    obtain ⟨lines, expanded⟩ :=
      Variable.Table.substituteAll_ok (expands _ member _ found)
    rw [failed] at expanded
    cases expanded
  | _ => exact fine

/-- A mistake stays. -/
theorem fine_of_move (move : scheduler.Move times run next) (fine : next.error = none) :
    run.error = none := by
  cases move with
  | giveUp | refuse => cases fine
  | _ => exact fine

/-- What is withheld stays so. -/
theorem withheld_of_withheld (move : scheduler.Move times run next) {name : String}
    (withheld : name ∈ run.ledger.withheld) : name ∈ next.ledger.withheld := by
  cases move with
  | withhold => exact List.mem_cons_of_mem _ withheld
  | join => simpa using withheld
  | _ => exact withheld

namespace Accounted

variable (accounted : run.Accounted scheduler plan) (consistent : run.Consistent scheduler plan)
  (move : scheduler.Move times run next)

include accounted consistent move

theorem waits_of_move (fine : next.error = none) {name : String} (member : name ∈ plan.targets)
    (pending : next.ledger.state name = .pending) :
    name ∈ next.waiting ∨ name ∈ next.ledger.withheld := by
  by_cases before : run.ledger.state name = .pending
  · rcases accounted.waits_or_withheld name member before with waits | withheld
    · exact Run.waits_of_move move fine waits pending
    · exact .inr (withheld_of_withheld move withheld)
  · exact absurd pending ((move.advance consistent name).ne_pending before)

/-- What is withheld needs something that has failed: directly, or through a prerequisite that was
withheld before. -/
theorem cause_of_move {name : String} (withheld : name ∈ next.ledger.withheld) :
    ∃ cause, Relation.TransGen scheduler.registry.Needs name cause ∧
      next.ledger.state cause = .failed := by
  have keep : ∀ {cause : String}, run.ledger.state cause = .failed →
      next.ledger.state cause = .failed := fun {cause} failed =>
    ((move.advance consistent cause).of_terminal (by rw [failed]; rfl)).trans failed
  rcases withheld_of_move move withheld with earlier | ⟨prerequisite, needs, lost⟩
  · obtain ⟨cause, path, failed⟩ := accounted.withheld_because name earlier
    exact ⟨cause, path, keep failed⟩
  · rcases (Ledger.isLost_iff ..).1 lost with withheld | failed
    · obtain ⟨cause, path, failed⟩ := accounted.withheld_because prerequisite withheld
      exact ⟨cause, path.head needs, keep failed⟩
    · exact ⟨prerequisite, .single needs, keep failed⟩

theorem unblocked_of_move {name prerequisite : String}
    (left : next.ledger.state name ≠ .pending)
    (needs : scheduler.registry.Needs name prerequisite) :
    (next.ledger.state prerequisite).unblocks = true := by
  have unblocks : (run.ledger.state prerequisite).unblocks = true := by
    by_cases before : run.ledger.state name = .pending
    · obtain ⟨-, target, found, ready, -⟩ := move.departure consistent before left
      obtain ⟨other, known, needed⟩ := needs
      obtain rfl := Option.some.inj (known.symm.trans found)
      exact ((Ledger.readiness_eq_ready_iff ..).1 ready).2 prerequisite needed
    · exact accounted.unblocked_of_started name prerequisite before needs
  have terminal := TargetState.isTerminal_of_unblocks unblocks
  rw [(move.advance consistent prerequisite).of_terminal terminal]
  exact unblocks

end Accounted

/-- A move that brings up no mistake keeps the account. -/
theorem Accounted.move (accounted : run.Accounted scheduler plan)
    (consistent : run.Consistent scheduler plan)
    (sorted : Plan.Sorted scheduler.registry plan.targets)
    (move : scheduler.Move times run next) (fine : next.error = none) :
    next.Accounted scheduler plan where
  waits_or_withheld := fun _ member pending =>
    accounted.waits_of_move consistent move fine member pending
  withheld_because := fun _ withheld => accounted.cause_of_move consistent move withheld
  failures_of_failed := fun name failed =>
    failures_of_move move (accounted.failures_of_failed name) failed
  unblocked_of_started := fun _ _ left needs =>
    accounted.unblocked_of_move consistent move left needs
  passed_waits := fun _ passed => passed_of_move move consistent sorted accounted passed
  halted_because := halted_of_move move fine accounted.halted_because

end Run

namespace Report

/-- What the report of a run that no mistake has stopped shows, where `crash` says whether a recipe
has crashed. -/
structure Settled (registry : Registry) (plan : Plan) (keepGoing : Bool) (crash : Option String)
    (report : Report) : Prop where
  names : report.outcomes.map (·.name) = plan.targets
  not_running : ∀ outcome ∈ report.outcomes, outcome.state ≠ .running
  of_success : report.exitStatus = 0 → ∀ outcome ∈ report.outcomes,
    outcome.state = .skipped ∨ outcome.state = .succeeded
  /-- What needs something that failed has not started. -/
  pending_of_failed : ∀ outcome ∈ report.outcomes, ∀ cause ∈ report.outcomes,
    Relation.TransGen registry.Needs outcome.name cause.name → cause.state = .failed →
      outcome.state = .pending
  /-- A run that keeps going, and in which nothing has crashed, withholds just what needs something
  that failed. -/
  pending_iff : keepGoing = true → crash = none → ∀ outcome ∈ report.outcomes,
    (outcome.state = .pending ↔ ∃ cause ∈ report.outcomes,
      Relation.TransGen registry.Needs outcome.name cause.name ∧ cause.state = .failed)
  of_not_pending : ∀ outcome ∈ report.outcomes, outcome.state ≠ .pending →
    outcome.state = .skipped ∨ outcome.state = .succeeded ∨ outcome.state = .failed

end Report

namespace Run

variable {World : Type} {host : Host World} {scheduler : Scheduler} {plan : Plan} {run : Run}
  {world : World}

/-! ## The end of a run -/

/-- Nothing is left waiting by a run that ends and was not halted. -/
theorem Accounted.waiting_eq_nil (accounted : run.Accounted scheduler plan)
    (consistent : run.Consistent scheduler plan)
    (sorted : Plan.Sorted scheduler.registry plan.targets)
    (final : scheduler.step host run world = none) (goes : run.halted = false) :
    run.waiting = [] := by
  obtain ⟨grounded, halted | looked⟩ := Scheduler.over_of_step_eq_none final
  · rw [goes] at halted
    cases halted
  have intact : run.crash = none := by
    by_contra crashed
    rw [(consistent.of_crash crashed).1] at goes
    cases goes
  -- The first waiting entry was passed for a prerequisite, which stands before it.
  cases waiting : run.waiting with
  | nil => rfl
  | cons first rest =>
    have passed : first ∈ run.passed := by
      have member : first ∈ run.waiting := waiting ▸ List.mem_cons_self
      simpa [Run.waiting, looked] using member
    obtain ⟨prerequisite, needs, kept, blocks⟩ := accounted.passed_waits first passed
    have stand : (first :: rest).Sublist plan.targets := waiting ▸ consistent.waiting_sublist
    have member : prerequisite ∈ plan.targets :=
      sorted.mem_of_needs (stand.subset List.mem_cons_self) needs
    rw [← Bool.not_eq_true, Ledger.isLost_iff, not_or] at kept
    have pending : run.ledger.state prerequisite = .pending := by
      cases state : run.ledger.state prerequisite with
      | pending => rfl
      | running => simpa [inFlight, grounded] using consistent.inFlight_of_running intact _ state
      | failed => exact absurd state kept.2
      | skipped | succeeded =>
        rw [state] at blocks
        cases blocks
    rcases accounted.waits_or_withheld prerequisite member pending with waits | withheld
    · exact absurd needs (sorted.not_needs_of_sublist stand (waiting ▸ waits))
    · exact absurd withheld kept.1

/-- Where an entry has started, so has everything that it needs, and has ended well. -/
theorem Accounted.unblocks_of_transGen (accounted : run.Accounted scheduler plan)
    {name cause : String} (path : Relation.TransGen scheduler.registry.Needs name cause)
    (left : run.ledger.state name ≠ .pending) : (run.ledger.state cause).unblocks = true := by
  induction path with
  | single needs => exact accounted.unblocked_of_started _ _ left needs
  | tail _ needs ih =>
    refine accounted.unblocked_of_started _ _ (fun pending => ?_) needs
    rw [pending] at ih
    cases ih

section End

variable (accounted : run.Accounted scheduler plan) (consistent : run.Consistent scheduler plan)
  (sorted : Plan.Sorted scheduler.registry plan.targets)
  (final : scheduler.step host run world = none)

include consistent final in
/-- An entry that has started has ended when the run has. -/
theorem Consistent.ended {name : String}
    (left : (Scheduler.close host plan run world).ledger.state name ≠ .pending) :
    (Scheduler.close host plan run world).ledger.state name = .skipped ∨
      (Scheduler.close host plan run world).ledger.state name = .succeeded ∨
        (Scheduler.close host plan run world).ledger.state name = .failed := by
  cases state : (Scheduler.close host plan run world).ledger.state name with
  | pending => exact absurd state left
  | running => exact absurd state (consistent.not_running_close final name)
  | skipped | succeeded | failed => simp

include accounted consistent sorted final

/-- What is pending when a run ends that was not halted is withheld. -/
theorem Accounted.lost_of_pending (goes : run.halted = false) {name : String}
    (member : name ∈ plan.targets) (pending : run.ledger.state name = .pending) :
    ∃ cause, Relation.TransGen scheduler.registry.Needs name cause ∧
      run.ledger.state cause = .failed := by
  have empty := accounted.waiting_eq_nil consistent sorted final goes
  have withheld := (accounted.waits_or_withheld name member pending).resolve_left (by simp [empty])
  exact accounted.withheld_because name withheld

/-- A run without a failure leaves no entry that was not skipped and has not succeeded. -/
theorem Accounted.unblocked_of_clean
    (clean : (Scheduler.close host plan run world).ledger.failures = []) {name : String}
    (member : name ∈ plan.targets) :
    (Scheduler.close host plan run world).ledger.state name = .skipped ∨
      (Scheduler.close host plan run world).ledger.state name = .succeeded := by
  obtain ⟨error, order, perm, -, failures⟩ :=
    consistent.failures_close final
  rw [failures, List.append_eq_nil_iff, List.map_eq_nil_iff] at clean
  obtain ⟨sound, rfl⟩ := clean
  have rests : ∀ cause, run.ledger.state cause ≠ .running := fun cause runs => by
    simpa [← perm.mem_iff] using consistent.mem_running.2 runs
  have goes : run.halted = false := by
    by_contra halted
    rcases accounted.halted_because (by simpa using halted) with crashed | ⟨failed, -⟩
    · obtain ⟨-, cause, runs, -⟩ := consistent.of_crash crashed
      exact rests cause runs
    · exact failed sound
  have left : run.ledger.state name ≠ .pending := fun pending => by
    obtain ⟨cause, -, failed⟩ :=
      accounted.lost_of_pending consistent sorted final goes member pending
    exact accounted.failures_of_failed cause failed sound
  rw [consistent.state_close final, if_neg (rests name)]
  cases state : run.ledger.state name with
  | pending => exact absurd state left
  | running => exact absurd state (rests name)
  | failed => exact absurd sound (accounted.failures_of_failed name state)
  | skipped | succeeded => simp

omit sorted in
/-- What needs something that failed in the end has not started. -/
theorem Accounted.pending_of_failed {name cause : String}
    (path : Relation.TransGen scheduler.registry.Needs name cause)
    (failed : (Scheduler.close host plan run world).ledger.state cause = .failed) :
    (Scheduler.close host plan run world).ledger.state name = .pending := by
  rw [consistent.pending_close_iff final]
  by_contra left
  have unblocks := accounted.unblocks_of_transGen path left
  rw [consistent.state_close final] at failed
  split at failed
  · next runs => simp [runs, TargetState.unblocks] at unblocks
  · simp [failed, TargetState.unblocks] at unblocks

/-- A run that keeps going leaves pending just what needs something that failed, unless a recipe has
crashed. -/
theorem Accounted.pending_iff (keepGoing : scheduler.options.keepGoing = true)
    (intact : run.crash = none) {name : String} (member : name ∈ plan.targets) :
    (Scheduler.close host plan run world).ledger.state name = .pending ↔
      ∃ cause ∈ plan.targets, Relation.TransGen scheduler.registry.Needs name cause ∧
        (Scheduler.close host plan run world).ledger.state cause = .failed := by
  constructor
  · intro pending
    have goes : run.halted = false := by
      by_contra halted
      rcases accounted.halted_because (by simpa using halted) with crashed | ⟨-, stops⟩
      · exact crashed intact
      · rw [keepGoing] at stops
        cases stops
    rw [consistent.pending_close_iff final] at pending
    obtain ⟨cause, path, failed⟩ :=
      accounted.lost_of_pending consistent sorted final goes member pending
    refine ⟨cause, sorted.mem_of_reflTransGen member path.to_reflTransGen, path, ?_⟩
    rw [consistent.state_close final, failed]
    rfl
  · rintro ⟨cause, -, path, failed⟩
    exact accounted.pending_of_failed consistent final path failed

/-- The report at the end of a run. -/
theorem Accounted.settled :
    ((Scheduler.close host plan run world).ledger.report plan false).Settled scheduler.registry
      plan scheduler.options.keepGoing run.crash := by
  refine ⟨Ledger.names_report .., ?_, ?_, ?_, ?_, ?_⟩ <;>
    simp only [Ledger.report, List.forall_mem_map]
  · exact fun name _ => consistent.not_running_close final name
  · intro success name member
    refine accounted.unblocked_of_clean consistent sorted final ?_ member
    by_contra failed
    simp [Report.exitStatus, Report.isSuccess, failed, failureStatus] at success
  · exact fun name _ cause _ path failed =>
      accounted.pending_of_failed consistent final path failed
  · intro keepGoing intact name member
    simp only [List.mem_map, exists_exists_and_eq_and]
    exact accounted.pending_iff consistent sorted final keepGoing intact member
  · exact fun name _ left => consistent.ended final left

end End

end Run

namespace Scheduler

variable {World : Type} {host : Host World} {scheduler : Scheduler} {plan : Plan} {run : Run}
  {origin world : World}

/-- No mistake stops the run of a plan of which every reference can be replaced. -/
theorem error_of_reaches (sorted : Plan.Sorted scheduler.registry plan.targets)
    (expands : scheduler.Expands plan) {after : Run × World}
    (reached : scheduler.Reaches host (.start plan, origin) after) : after.1.error = none := by
  induction reached with
  | refl => rfl
  | tail reached turn ih =>
    exact Run.error_of_move turn.move (consistent_of_turn sorted.nodup reached turn) sorted
      expands ih

theorem accounted_of_reaches (sorted : Plan.Sorted scheduler.registry plan.targets)
    {after : Run × World} (reached : scheduler.Reaches host (.start plan, origin) after)
    (fine : after.1.error = none) : after.1.Accounted scheduler plan := by
  induction reached with
  | refl => exact Run.accounted_start scheduler plan
  | tail reached turn ih =>
    exact (ih (Run.fine_of_move turn.move fine)).move
      (consistent_of_turn sorted.nodup reached turn) sorted turn.move fine

theorem expands_small : Small.scheduler.Expands Small.plan := by
  intro name _ target found line member
  rcases (Small.get?_eq_some_iff name target).1 found with ⟨-, rfl⟩ | ⟨-, rfl⟩
  · obtain rfl : line = "cc lib.c" := by simpa [Small.lib] using member
    exact ⟨"cc lib.c", by cbv⟩
  · simp [Small.all] at member

end Scheduler

namespace Fork

theorem expands : scheduler.Expands plan := by
  intro name _ target found line member
  rcases cases_of_get? found with rfl | rfl | rfl
  · obtain rfl : line = "first" := by simpa [one] using member
    exact ⟨"first", by cbv⟩
  · obtain rfl : line = "second" := by simpa [two] using member
    exact ⟨"second", by cbv⟩
  · simp [both] at member

end Fork
end TaskRunner
