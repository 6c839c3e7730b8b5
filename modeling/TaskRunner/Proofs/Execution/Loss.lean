import TaskRunner.Proofs.Execution.Safety
/- # TaskRunner.Proofs.Execution.Loss -- the entries whose recipes crash

A recipe that has crashed tells nobody what it was of.  When it was joined its entry is running and
not in flight, and stays so until the run is over and closed.  `Scheduler.leftRunning` are the
entries which are then still running, and `mem_leftRunning_iff` says that they are just those whose
recipes have crashed, at any time.  `Scheduler.lost` are the same for a run that may be dry.

Only a recipe that prints a command can crash.  Where nothing is printed, or printing never fails, no
entry is lost (`prints_of_echo`, `lost_eq_nil_of_prints`). -/

namespace TaskRunner
set_option autoImplicit false

/-- Whether a recipe has crashed. -/
def Progress.isCrashed : Progress → Bool
  | crashed _ _ _ _ => true
  | ready _ _ _ | busy _ _ _ | finished _ => false

namespace Scheduler

variable {scheduler : Scheduler} {plan : Plan} {times : FileTimes} {run next : Run}

/-- A crash was known before, or is that of a recipe in flight. -/
theorem Move.crashed (move : scheduler.Move times run next) (crashed : next.crash ≠ none) :
    run.crash ≠ none ∨ ∃ flight ∈ run.flights, flight.progress.isCrashed = true := by
  cases move with
  | lose idle found ended => exact .inr ⟨_, List.mem_of_getElem? found, by rw [ended]; rfl⟩
  | _ => exact .inl crashed

variable {World : Type} {host : Host World} {origin : World}

/-! ## Runs without a crash -/

/-- Whether no recipe of a run crashes: every command that is to be printed can be. -/
def Prints (scheduler : Scheduler) (host : Host World) (plan : Plan) (origin : World) : Prop :=
  ∀ after : Run × World, scheduler.Reaches host (.start plan, origin) after →
    ∀ flight ∈ after.1.flights, flight.progress.isCrashed = false

theorem Prints.crash_eq_none (prints : scheduler.Prints host plan origin)
    {after : Run × World} (reached : scheduler.Reaches host (.start plan, origin) after) :
    after.1.crash = none := by
  induction reached with
  | refl => rfl
  | tail reached turn ih =>
    by_contra crashed
    obtain ⟨flight, inFlight, ended⟩ := (turn.move.crashed crashed).resolve_left (· ih)
    rw [prints _ reached flight inFlight] at ended
    cases ended

/-- No recipe crashes if nothing is printed, or if that never fails. -/
theorem prints_of_echo (echoes : scheduler.options.echo = true →
      ∀ command world, (host.echo command world).1 = none) :
    scheduler.Prints host plan origin := by
  intro after reached
  induction reached with
  | refl => exact fun flight inFlight => absurd inFlight List.not_mem_nil
  | tail _ turn ih =>
    intro flight inFlight
    cases proceeds_of_step turn flight inFlight with
    | stay earlier => exact ih flight earlier
    | @launch _ lines => cases lines <;> rfl
    | startLine => rfl
    | @endLine _ _ _ rest world =>
      cases (host.await _ world).1 <;> cases rest <;> rfl
    | @crash _ _ command _ _ world _ _ _ echoed =>
      have on := echoes_of_echo echoed
      have fine := echoes on command world
      rw [echo, if_pos on] at echoed
      rw [echoed] at fine
      cases fine

end Scheduler

/-! ## What crashes is lost -/

namespace Run

variable {scheduler : Scheduler} {plan : Plan} {times : FileTimes} {run next : Run} {name : String}

/-- Whether an entry is running, and all that goes on for it has crashed. -/
def Wrecked (run : Run) (name : String) : Prop :=
  run.ledger.state name = .running ∧
    ∀ flight ∈ run.flights, flight.target = name → flight.progress.isCrashed = true

/-- A recipe that goes on is of an entry that is not wrecked. -/
theorem Wrecked.setProgress (wrecked : run.Wrecked name) {i : Nat} {flight : Flight}
    {progress : Progress} (found : run.flights[i]? = some flight)
    (goes : flight.progress.isCrashed = false) :
    (Scheduler.setProgress run i flight progress).Wrecked name := by
  refine ⟨wrecked.1, fun other inFlight named => ?_⟩
  rcases List.mem_or_eq_of_mem_set inFlight with before | rfl
  · exact wrecked.2 other before named
  · rw [wrecked.2 flight (List.mem_of_getElem? found) named] at goes
    cases goes

/-- What is wrecked stays so. -/
theorem Wrecked.move (wrecked : run.Wrecked name) (consistent : run.Consistent scheduler plan)
    (move : scheduler.Move times run next) : next.Wrecked name := by
  have running : next.ledger.state name = .running := by
    by_contra left
    obtain ⟨failure, inFlight, -⟩ := move.finished consistent wrecked.1 left
    cases wrecked.2 _ inFlight rfl
  refine ⟨running, fun flight inFlight named => ?_⟩
  cases move with
  | pass | withhold | skip | complete | refuse => exact wrecked.2 flight inFlight named
  | giveUp => cases inFlight
  | launch scans front =>
    rcases List.mem_append.1 inFlight with earlier | last
    · exact wrecked.2 flight earlier named
    · obtain rfl := List.mem_singleton.1 last
      obtain rfl := named
      have pending := consistent.pending_of_front front
      rw [wrecked.1] at pending
      cases pending
  | join | lose => exact wrecked.2 flight ((List.eraseIdx_sublist ..).subset inFlight) named
  | startLine found ready =>
    exact (wrecked.setProgress found (by rw [ready]; rfl)).2 flight inFlight named
  | endLine result found busy =>
    exact (wrecked.setProgress found (by rw [busy]; rfl)).2 flight inFlight named
  | crash error echoes found ready =>
    exact (wrecked.setProgress found (by rw [ready]; rfl)).2 flight inFlight named

end Run

namespace Scheduler

variable {World : Type} {scheduler : Scheduler} {host : Host World} {plan : Plan} {origin : World}
  {name : String}

/-- The entries of a plan that a run is left with when nothing is in flight, because their recipes
have crashed. -/
def leftRunning (scheduler : Scheduler) (host : Host World) (plan : Plan) (origin : World) :
    List String :=
  (scheduler.loop host (.start plan) origin).1.running plan

/-- The entries that a run, dry or not, is left with; a dry run is left with none. -/
def lost (scheduler : Scheduler) (host : Host World) (plan : Plan) (origin : World) : List String :=
  if scheduler.options.dryRun then [] else scheduler.leftRunning host plan origin

/-- Every state of a run comes to the same end. -/
theorem loop_of_reaches {before after : Run × World} (reached : scheduler.Reaches host before after) :
    scheduler.loop host after.1 after.2 = scheduler.loop host before.1 before.2 := by
  induction reached with
  | refl => rfl
  | tail _ turn ih => exact (loop_of_turn turn).symm.trans ih

/-- An entry that is running and not in flight was so before the turn, or its recipe has crashed. -/
theorem Move.grounded {run next : Run} {times : FileTimes} (move : scheduler.Move times run next)
    (consistent : run.Consistent scheduler plan) (stays : ¬ next.Abandoned scheduler plan)
    (running : next.ledger.state name = .running) (grounded : name ∉ next.inFlight) :
    run.ledger.state name = .running ∧ name ∉ run.inFlight ∨
      ∃ flight ∈ run.flights, flight.target = name ∧ flight.progress.isCrashed = true := by
  cases move with
  | pass | withhold | refuse => exact .inl ⟨running, grounded⟩
  | giveUp scans front unknown =>
    exact absurd ⟨rfl, rfl, _, consistent.mem_of_front front, unknown, rfl⟩ stays
  | skip | complete =>
    rw [Ledger.state_setState] at running
    split at running
    · cases running
    · exact .inl ⟨running, grounded⟩
  | launch =>
    rw [Run.inFlight, List.map_append, List.mem_append, not_or] at grounded
    rw [Ledger.state_setCommands, Ledger.state_setState] at running
    split at running
    · next same => exact absurd (by simp [same]) grounded.2
    · exact .inl ⟨running, grounded.1⟩
  | @join i flight failure idle found finished =>
    rw [Run.inFlight_join, Run.mem_eraseIdx_inFlight consistent.inFlight_nodup found,
      not_and] at grounded
    rw [Run.ledger_join, Ledger.state_finish] at running
    split at running
    · cases failure <;> cases running
    · next different => exact .inl ⟨running, grounded (Ne.symm different)⟩
  | @startLine i flight line command rest found =>
    have found : (run.emit (.command flight.target line command)).flights[i]? = some flight := found
    exact .inl ⟨running, Run.inFlight_setProgress _ found ▸ grounded⟩
  | endLine _ found | crash _ _ found =>
    exact .inl ⟨running, Run.inFlight_setProgress _ found ▸ grounded⟩
  | @lose i flight line command rest error idle found crashed =>
    rw [Run.inFlight_lose, Run.mem_eraseIdx_inFlight consistent.inFlight_nodup found,
      not_and] at grounded
    by_cases same : flight.target = name
    · exact .inr ⟨flight, List.mem_of_getElem? found, same, by rw [crashed]; rfl⟩
    · exact .inl ⟨running, grounded (Ne.symm same)⟩

theorem crashed_of_grounded (sorted : Plan.Sorted scheduler.registry plan.targets)
    {after : Run × World} (reached : scheduler.Reaches host (.start plan, origin) after)
    (running : after.1.ledger.state name = .running) (grounded : name ∉ after.1.inFlight) :
    ∃ before, scheduler.Reaches host (.start plan, origin) before ∧
      ∃ flight ∈ before.1.flights, flight.target = name ∧ flight.progress.isCrashed = true := by
  induction reached with
  | refl => simp [Run.start] at running
  | @tail middle after reached turn ih =>
    have consistent := consistent_of_turn sorted.nodup reached turn
    rcases turn.move.grounded consistent (not_abandoned_of_sorted sorted) running grounded with
      ⟨running, grounded⟩ | crashed
    · exact ih running grounded
    · exact ⟨middle, reached, crashed⟩

theorem wrecked_of_reaches (distinct : plan.targets.Nodup) {before after : Run × World}
    (reached : scheduler.Reaches host (.start plan, origin) before)
    (onward : scheduler.Reaches host before after) (wrecked : before.1.Wrecked name) :
    after.1.Wrecked name := by
  induction onward with
  | refl => exact wrecked
  | tail onward turn ih =>
    exact ih.move (consistent_of_turn distinct (reached.trans onward) turn) turn.move

/-- **The entries that a run is left with are those whose recipes crash.** -/
theorem mem_leftRunning_iff (sorted : Plan.Sorted scheduler.registry plan.targets) :
    name ∈ scheduler.leftRunning host plan origin ↔
      ∃ after, scheduler.Reaches host (.start plan, origin) after ∧
        ∃ flight ∈ after.1.flights, flight.target = name ∧ flight.progress.isCrashed = true := by
  obtain ⟨reached, final⟩ := loop_reaches scheduler host (.start plan) origin
  have consistent := consistent_of_sorted sorted reached
  rw [leftRunning, consistent.mem_running]
  constructor
  · intro running
    refine crashed_of_grounded sorted reached running ?_
    simp [Run.inFlight, (over_of_step_eq_none final).1]
  · rintro ⟨before, earlier, flight, inFlight, rfl, crashed⟩
    have kept := consistent_of_sorted sorted earlier
    have wrecked : before.1.Wrecked flight.target := by
      refine ⟨kept.running_of_inFlight _ (List.mem_map_of_mem inFlight), fun other flies named => ?_⟩
      obtain rfl := List.inj_on_of_nodup_map kept.inFlight_nodup flies inFlight named
      exact crashed
    have onward := (loop_reaches scheduler host before.1 before.2).1
    rw [loop_of_reaches earlier] at onward
    exact (wrecked_of_reaches sorted.nodup earlier onward wrecked).1

theorem leftRunning_eq_nil_of_prints (sorted : Plan.Sorted scheduler.registry plan.targets)
    (prints : scheduler.Prints host plan origin) : scheduler.leftRunning host plan origin = [] := by
  refine List.eq_nil_iff_forall_not_mem.2 fun name member => ?_
  obtain ⟨after, reached, flight, inFlight, -, crashed⟩ := (mem_leftRunning_iff sorted).1 member
  rw [prints after reached flight inFlight] at crashed
  cases crashed

theorem lost_eq_nil_of_prints (sorted : Plan.Sorted scheduler.registry plan.targets)
    (prints : scheduler.Prints host plan origin) : scheduler.lost host plan origin = [] := by
  rw [lost, leftRunning_eq_nil_of_prints sorted prints, ite_self]

end Scheduler

theorem Small.lost_eq_nil : scheduler.lost host plan none = [] :=
  Scheduler.lost_eq_nil_of_prints (Plan.sorted_of_plan plan_registry)
    (Scheduler.prints_of_echo fun _ _ _ => rfl)

theorem Fork.leftRunning_mute : persistent.leftRunning mute plan () = ["one"] := by
  rw [Scheduler.leftRunning, loop_mute]
  exact running_bereft

theorem Fork.lost_mute : persistent.lost mute plan () = ["one"] := leftRunning_mute

end TaskRunner
