import TaskRunner.Proofs.Execution.Safety
/- # TaskRunner.Proofs.Execution.Failures -- what is noted of failures

A recipe in flight has its lines in the ledger, and what is left of it is an end of them
(`Progress.Fits`).  So a failure that is noted names a line that its target has, and an entry is
failed exactly if one failure, and no other, is noted of it (`Run.Recorded`).  Whatever order
recipes end in, the list of failures and the states of the entries tell the same.  They do so too
when a run is closed, with a failure more for each entry whose recipe has crashed; but those name no
line that is sure to be there. -/

namespace TaskRunner
set_option autoImplicit false

/-- How the progress of a recipe fits the lines of its target. -/
def Progress.Fits (target : String) (lines : List String) : Progress → Prop
  | ready line command rest | busy line command rest | crashed line command rest _ =>
    lines.drop line = command :: rest
  | finished none => True
  | finished (some failure) =>
    failure.target = target ∧ lines[failure.line]? = some failure.command

namespace Progress

variable {target command : String} {lines rest : List String} {line : Nat}

theorem fits_ofLines (split : lines.drop line = rest) : (ofLines line rest).Fits target lines := by
  cases rest with
  | nil => trivial
  | cons => exact split

/-- What an end of the lines begins with, and the end that comes after it. -/
theorem next_of_drop (split : lines.drop line = command :: rest) :
    lines[line]? = some command ∧ lines.drop (line + 1) = rest := by
  constructor
  · have first := congrArg (·[0]?) split
    simpa only [List.getElem?_drop, Nat.add_zero, List.getElem?_cons_zero] using first
  · rw [← List.drop_drop, split, List.drop_one, List.tail_cons]

theorem fits_afterLine (split : lines.drop line = command :: rest) (result : Option LineFailure) :
    (afterLine target line command rest result).Fits target lines := by
  cases result with
  | none => exact fits_ofLines (next_of_drop split).2
  | some cause => exact ⟨rfl, (next_of_drop split).1⟩

end Progress

namespace Run

variable {scheduler : Scheduler} {plan : Plan} {run next : Run} {times : FileTimes}

/-- What the ledger has noted of failures, and how the recipes in flight agree with it. -/
structure Recorded (run : Run) : Prop where
  failed_iff : ∀ name,
    run.ledger.state name = .failed ↔ name ∈ run.ledger.failures.map (·.target)
  /-- No target fails twice. -/
  failures_nodup : (run.ledger.failures.map (·.target)).Nodup
  line_of_failure : ∀ failure ∈ run.ledger.failures,
    (run.ledger.linesOf failure.target)[failure.line]? = some failure.command
  fits : ∀ flight ∈ run.flights,
    flight.progress.Fits flight.target (run.ledger.linesOf flight.target)

theorem recorded_start (plan : Plan) : (start plan).Recorded where
  failed_iff := fun name => by simp [start, Ledger.empty, Ledger.state]
  failures_nodup := List.nodup_nil
  line_of_failure := fun failure member => absurd member List.not_mem_nil
  fits := fun flight member => absurd member List.not_mem_nil

namespace Recorded

variable (recorded : run.Recorded)

include recorded

/-- An entry that is settled without a failure leaves the record as it is. -/
theorem settle (consistent : run.Consistent scheduler plan) {name : String} {ahead : List String}
    {state : TargetState} (front : run.ahead = name :: ahead) (sound : state ≠ .failed)
    (ledger : next.ledger = run.ledger.setState name state) (flights : next.flights = run.flights) :
    next.Recorded := by
  have pending := consistent.pending_of_front front
  refine ⟨fun other => ?_, ?_, ?_, ?_⟩
  · rw [ledger, Ledger.state_setState, Ledger.failures_setState, ← recorded.failed_iff other]
    split
    · next same => simp [← same, pending, sound]
    · rfl
  · rw [ledger]
    exact recorded.failures_nodup
  · rw [ledger]
    exact recorded.line_of_failure
  · rw [ledger, flights]
    exact recorded.fits

/-- A recipe that starts has all of its lines to go. -/
theorem launch (consistent : run.Consistent scheduler plan) {name : String}
    {ahead lines : List String} (front : run.ahead = name :: ahead)
    (ledger : next.ledger = (run.ledger.setState name .running).setCommands name lines)
    (flights : next.flights = run.flights ++ [⟨name, Progress.ofLines 0 lines⟩]) :
    next.Recorded := by
  have pending := consistent.pending_of_front front
  have sound : name ∉ run.ledger.failures.map (·.target) := by
    rw [← recorded.failed_iff, pending]
    simp
  have grounded : name ∉ run.inFlight := by
    intro member
    have running := consistent.running_of_inFlight name member
    rw [pending] at running
    cases running
  refine ⟨fun other => ?_, ?_, fun failure member => ?_, fun flight member => ?_⟩
  · rw [ledger, Ledger.state_setCommands, Ledger.state_setState, Ledger.failures_setCommands,
      Ledger.failures_setState, ← recorded.failed_iff other]
    split
    · next same => simp [← same, pending]
    · rfl
  · rw [ledger]
    exact recorded.failures_nodup
  · rw [ledger, Ledger.failures_setCommands, Ledger.failures_setState] at member
    have different : name ≠ failure.target := fun same =>
      sound (same ▸ List.mem_map_of_mem member)
    rw [ledger, Ledger.linesOf_setCommands, if_neg different, Ledger.linesOf_setState]
    exact recorded.line_of_failure failure member
  · rw [flights, List.mem_append, List.mem_singleton] at member
    rw [ledger, Ledger.linesOf_setCommands]
    rcases member with earlier | rfl
    · have different : name ≠ flight.target := fun same =>
        grounded (same ▸ List.mem_map_of_mem earlier)
      rw [if_neg different, Ledger.linesOf_setState]
      exact recorded.fits flight earlier
    · rw [if_pos rfl]
      exact Progress.fits_ofLines rfl

/-- A recipe that fails adds the one failure of its target. -/
theorem join (consistent : run.Consistent scheduler plan) {i : Nat} {flight : Flight}
    {failure : Option TargetFailure} (found : run.flights[i]? = some flight)
    (finished : flight.progress = .finished failure) :
    (scheduler.join run i flight.target failure).Recorded := by
  have member : flight ∈ run.flights := List.mem_of_getElem? found
  have running : run.ledger.state flight.target = .running :=
    consistent.running_of_inFlight _ (mem_inFlight_of_getElem? found)
  have sound : flight.target ∉ run.ledger.failures.map (·.target) := by
    rw [← recorded.failed_iff, running]
    simp
  have fits := finished ▸ recorded.fits flight member
  refine ⟨fun name => ?_, ?_, fun other noted => ?_, fun other inFlight => ?_⟩
  · rw [ledger_join, Ledger.state_finish, Ledger.failures_finish, List.map_append,
      List.mem_append, ← recorded.failed_iff name]
    cases failure with
    | none =>
      split
      · next same => simp [Ledger.endState, ← same, running]
      · simp
    | some failure =>
      obtain ⟨named, -⟩ := fits
      split
      · next same => simp [Ledger.endState, named, same]
      · next different => simp [named, Ne.symm different]
  · rw [ledger_join, Ledger.failures_finish, List.map_append]
    cases failure with
    | none => simpa using recorded.failures_nodup
    | some failure =>
      obtain ⟨named, -⟩ := fits
      simpa [named, List.nodup_append, recorded.failures_nodup] using sound
  · rw [ledger_join, Ledger.linesOf_finish]
    rw [ledger_join, Ledger.failures_finish, List.mem_append] at noted
    rcases noted with earlier | last
    · exact recorded.line_of_failure other earlier
    · obtain rfl : failure = some other := by simpa using last
      obtain ⟨named, line⟩ := fits
      exact named ▸ line
  · rw [ledger_join, Ledger.linesOf_finish]
    exact recorded.fits other ((List.eraseIdx_sublist ..).subset inFlight)

theorem emit (event : Event) : (run.emit event).Recorded :=
  ⟨recorded.failed_iff, recorded.failures_nodup, recorded.line_of_failure, recorded.fits⟩

/-- A recipe that goes on keeps the record if it still fits the lines of its target. -/
theorem setProgress {i : Nat} {flight : Flight} {progress : Progress}
    (fits : progress.Fits flight.target (run.ledger.linesOf flight.target)) :
    (Scheduler.setProgress run i flight progress).Recorded := by
  refine ⟨recorded.failed_iff, recorded.failures_nodup, recorded.line_of_failure,
    fun other inFlight => ?_⟩
  rcases List.mem_or_eq_of_mem_set inFlight with before | rfl
  · exact recorded.fits other before
  · exact fits

/-- Every move keeps the record. -/
theorem move (consistent : run.Consistent scheduler plan) (move : scheduler.Move times run next) :
    next.Recorded := by
  have grounded : ∀ flight ∈ ([] : List Flight),
      flight.progress.Fits flight.target (run.ledger.linesOf flight.target) :=
    fun flight member => absurd member List.not_mem_nil
  cases move with
  | pass | withhold | refuse =>
    exact ⟨recorded.failed_iff, recorded.failures_nodup, recorded.line_of_failure, recorded.fits⟩
  | giveUp =>
    exact ⟨recorded.failed_iff, recorded.failures_nodup, recorded.line_of_failure, grounded⟩
  | skip scans front => exact recorded.settle consistent front (by simp) rfl rfl
  | complete scans front => exact recorded.settle consistent front (by simp) rfl rfl
  | launch scans front => exact recorded.launch consistent front rfl rfl
  | join idle found finished => exact recorded.join consistent found finished
  | startLine found ready =>
    have fits := ready ▸ recorded.fits _ (List.mem_of_getElem? found)
    exact (recorded.emit _).setProgress fits
  | endLine result found busy =>
    have fits := busy ▸ recorded.fits _ (List.mem_of_getElem? found)
    exact recorded.setProgress (Progress.fits_afterLine fits result)
  | crash error echoes found ready =>
    have fits := ready ▸ recorded.fits _ (List.mem_of_getElem? found)
    exact recorded.setProgress fits
  | lose =>
    exact ⟨recorded.failed_iff, recorded.failures_nodup, recorded.line_of_failure,
      fun flight member => recorded.fits flight ((List.eraseIdx_sublist ..).subset member)⟩

/-! ## The end of a run -/

section Close

variable {World : Type} {host : Host World} {world : World}
  (consistent : run.Consistent scheduler plan) (final : scheduler.step host run world = none)

include consistent final

/-- An entry has failed in the end exactly if a failure is noted of it. -/
theorem failed_close_iff (name : String) :
    (Scheduler.close host plan run world).ledger.state name = .failed ↔
      name ∈ (Scheduler.close host plan run world).ledger.failures.map (·.target) := by
  obtain ⟨error, order, perm, -, failures⟩ :=
    consistent.failures_close final
  rw [consistent.state_close final, failures, List.map_append, List.mem_append,
    ← recorded.failed_iff name, List.map_map]
  have crashed : name ∈ order.map ((·.target) ∘ TargetFailure.ofCrash error) ↔
      run.ledger.state name = .running := by
    rw [← consistent.mem_running, ← perm.mem_iff]
    simp [TargetFailure.ofCrash]
  rw [crashed]
  split
  · next runs => simp [runs]
  · next rests => simp [rests]

/-- No target has failed twice in the end. -/
theorem failures_close_nodup (distinct : plan.targets.Nodup) :
    ((Scheduler.close host plan run world).ledger.failures.map (·.target)).Nodup := by
  obtain ⟨error, order, perm, -, failures⟩ :=
    consistent.failures_close final
  have targets : (order.map (TargetFailure.ofCrash error)).map (·.target) = order := by
    simp [TargetFailure.ofCrash, Function.comp_def]
  rw [failures, List.map_append, targets]
  refine List.nodup_append.2 ⟨recorded.failures_nodup, ?_, ?_⟩
  · exact perm.nodup_iff.2 (distinct.filter _)
  · rintro name failed _ crashed rfl
    have runs := consistent.mem_running.1 (perm.subset crashed)
    rw [(recorded.failed_iff name).2 failed] at runs
    cases runs

/-- There is a failure in the end exactly if an entry of the plan has failed. -/
theorem failures_close_ne_nil_iff :
    (Scheduler.close host plan run world).ledger.failures ≠ [] ↔
      ∃ name ∈ plan.targets, (Scheduler.close host plan run world).ledger.state name = .failed := by
  constructor
  · intro some
    obtain ⟨failure, member⟩ := List.exists_mem_of_ne_nil _ some
    have failed := (recorded.failed_close_iff consistent final failure.target).2
      (List.mem_map_of_mem member)
    exact ⟨failure.target, consistent.planned_close final (by simp [failed]), failed⟩
  · rintro ⟨name, -, failed⟩ none
    simpa [none] using (recorded.failed_close_iff consistent final name).1 failed

end Close

end Recorded

end Run

namespace Scheduler

variable {World : Type} {host : Host World} {scheduler : Scheduler} {plan : Plan} {origin : World}

theorem recorded_of_reaches (distinct : plan.targets.Nodup) {after : Run × World}
    (reached : scheduler.Reaches host (.start plan, origin) after) : after.1.Recorded := by
  induction reached with
  | refl => exact Run.recorded_start plan
  | tail reached turn ih => exact ih.move (consistent_of_turn distinct reached turn) turn.move

end Scheduler
end TaskRunner
