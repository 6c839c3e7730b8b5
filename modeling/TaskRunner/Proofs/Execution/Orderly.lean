import TaskRunner.Proofs.Execution.Completion
import TaskRunner.Proofs.Execution.Loss
import TaskRunner.Proofs.Staleness
/- # TaskRunner.Proofs.Execution.Orderly -- runs of recipes that do what they are for

A recipe is for making the outputs of its target.  `Scheduler.Orderly` says of the recipes of a plan
that they succeed and do not crash, that they leave the outputs of other targets alone, and that they
leave each output of their own target newer than every file that was there when they began.

In an orderly run the state of an entry tells the age of its files.  Until it starts, and for good
if it is skipped, its outputs are as they were in the beginning (`times_of_idle`); when its recipe
has succeeded they are newer than all that the coordinator saw when it started the recipe, and stay
as they are (`renewed_of_succeeded`).  So the moment at which the coordinator looks at an entry does
not matter for its verdict, and `foretold_of_reaches` tells it from the files in the beginning. -/

namespace TaskRunner
set_option autoImplicit false

namespace Scheduler

variable {World : Type} {scheduler : Scheduler} {host : Host World} {plan : Plan}
  {origin : World}

/-- What is assumed of the recipes of a plan that is run. -/
structure Orderly (scheduler : Scheduler) (host : Host World) (plan : Plan) (origin : World) :
    Prop where
  /-- A target that the age of files can settle has a recipe. -/
  productive : ∀ name ∈ plan.targets, ∀ target, scheduler.registry.get? name = some target →
    target.alwaysDue = false → target.recipe ≠ []
  /-- Every recipe line succeeds. -/
  succeeds : ∀ {run : Run} {world : World},
    scheduler.Reaches host (.start plan, origin) (run, world) →
      ∀ flight ∈ run.flights, ∀ failure, flight.progress ≠ .finished (some failure)
  /-- Every command that is to be printed can be. -/
  prints : scheduler.Prints host plan origin
  /-- The outputs of a target change only while its own recipe runs. -/
  keeps : ∀ {before after : Run × World},
    scheduler.Reaches host (.start plan, origin) before → scheduler.Turn host before after →
      ∀ name ∈ plan.targets, ∀ target, scheduler.registry.get? name = some target →
        (∀ flight ∈ before.1.flights, flight.target = name → flight.progress.isFinished = true) →
          ∀ output ∈ target.outputs, host.times after.2 output = host.times before.2 output
  /-- A recipe leaves each output newer than every file that was there when it began. -/
  renews : ∀ {before begun after : Run × World},
    scheduler.Reaches host (.start plan, origin) before → scheduler.Turn host before begun →
      scheduler.Reaches host begun after →
        ∀ name target, scheduler.registry.get? name = some target →
          before.1.ledger.state name = .pending → begun.1.ledger.state name = .running →
            ⟨name, .finished none⟩ ∈ after.1.flights →
              ∀ output ∈ target.outputs, ∃ made, host.times after.2 output = some made ∧
                ∀ path earlier, host.times begun.2 path = some earlier → earlier < made

/-! ## Turning points -/

/-- Between a state of which something holds and a later one of which it does not, there is the turn
that ends it. -/
theorem Reaches.crosses {P : Run → Prop} {before after : Run × World}
    (reached : scheduler.Reaches host before after) (holds : P before.1) (fails : ¬ P after.1) :
    ∃ last first, scheduler.Reaches host before last ∧ P last.1 ∧
      scheduler.Turn host last first ∧ ¬ P first.1 ∧ scheduler.Reaches host first after := by
  induction reached with
  | refl => exact absurd holds fails
  | @tail middle after earlier turn ih =>
    by_cases still : P middle.1
    · exact ⟨middle, after, earlier, still, turn, fails, .refl⟩
    · obtain ⟨last, first, lead, held, crossing, ended, onward⟩ := ih still
      exact ⟨last, first, lead, held, crossing, ended, onward.tail turn⟩

/-! ## The age of files along a run -/

section Files

variable (orderly : scheduler.Orderly host plan origin) (distinct : plan.targets.Nodup)
  {name : String} {target : Target} (member : name ∈ plan.targets)
  (found : scheduler.registry.get? name = some target) {output : String}
  (made : output ∈ target.outputs)

include orderly distinct member found made

/-- A turn before which the recipe of a target is not in flight leaves its outputs alone. -/
theorem times_of_turn {before after : Run × World}
    (reached : scheduler.Reaches host (.start plan, origin) before)
    (turn : scheduler.Turn host before after) (rests : before.1.ledger.state name ≠ .running) :
    host.times after.2 output = host.times before.2 output := by
  refine orderly.keeps reached turn name member target found (fun flight inFlight same => ?_)
    output made
  have running := (consistent_of_turn distinct reached turn).running_of_inFlight name
    (same ▸ List.mem_map_of_mem inFlight)
  exact absurd running rests

/-- The outputs of an entry that has not started are as they were in the beginning. -/
theorem times_of_idle {after : Run × World}
    (reached : scheduler.Reaches host (.start plan, origin) after)
    (idle : after.1.ledger.state name = .pending ∨ after.1.ledger.state name = .skipped) :
    host.times after.2 output = host.times origin output := by
  induction reached with
  | refl => rfl
  | @tail middle after earlier turn ih =>
    have still : middle.1.ledger.state name = .pending ∨
        middle.1.ledger.state name = .skipped :=
      (advance_of_turn distinct earlier turn name).of_idle idle
    rw [times_of_turn orderly distinct member found made earlier turn, ih still]
    rcases still with pending | skipped
    · simp [pending]
    · simp [skipped]

/-- The outputs of an entry that has ended stay as they are. -/
theorem times_of_terminal {before after : Run × World}
    (reached : scheduler.Reaches host (.start plan, origin) before)
    (onward : scheduler.Reaches host before after)
    (terminal : (before.1.ledger.state name).isTerminal = true) :
    host.times after.2 output = host.times before.2 output := by
  induction onward with
  | refl => rfl
  | @tail middle after earlier turn ih =>
    have still := state_of_terminal distinct reached earlier terminal
    rw [times_of_turn orderly distinct member found made (reached.trans earlier) turn, ih]
    rw [still]
    intro running
    rw [running] at terminal
    cases terminal

end Files

/-- A turn in which the coordinator looks at an entry that is ready. -/
structure Look (scheduler : Scheduler) (host : Host World) (plan : Plan) (origin : World)
    (name : String) (target : Target) (last first : Run × World) : Prop where
  reached : scheduler.Reaches host (.start plan, origin) last
  turn : scheduler.Turn host last first
  pending : last.1.ledger.state name = .pending
  unblocked : ∀ prerequisite ∈ target.prerequisites,
    (last.1.ledger.state prerequisite).unblocks = true

/-- The turn in which an entry left the pending state. -/
structure Leaving (scheduler : Scheduler) (host : Host World) (plan : Plan) (origin : World)
    (name : String) (target : Target) (last first : Run × World) : Prop
    extends Look scheduler host plan origin name target last first where
  departure : Departure scheduler.registry (host.times first.2) target (first.1.ledger.state name)

theorem leaving_of_ne_pending (distinct : plan.targets.Nodup) {name : String} {target : Target}
    (found : scheduler.registry.get? name = some target) {after : Run × World}
    (reached : scheduler.Reaches host (.start plan, origin) after)
    (left : after.1.ledger.state name ≠ .pending) :
    ∃ last first, Leaving scheduler host plan origin name target last first ∧
      scheduler.Reaches host first after := by
  obtain ⟨last, first, lead, pending, turn, gone, onward⟩ :=
    reached.crosses (P := fun run => run.ledger.state name = .pending)
      (Ledger.state_empty name) left
  obtain ⟨-, other, known, ready, departure⟩ :=
    turn.move.departure (consistent_of_turn distinct lead turn) pending gone
  obtain rfl := Option.some.inj (known.symm.trans found)
  exact ⟨last, first,
    ⟨⟨lead, turn, pending, ((Ledger.readiness_eq_ready_iff ..).1 ready).2⟩, departure⟩, onward⟩

/-- The prerequisites of an entry that is ready have ended, so their outputs stay as they are. -/
theorem Look.times_of_prerequisite {name : String} {target : Target}
    {last first after : Run × World}
    (look : Look scheduler host plan origin name target last first)
    (orderly : scheduler.Orderly host plan origin)
    (sorted : Plan.Sorted scheduler.registry plan.targets) (member : name ∈ plan.targets)
    (found : scheduler.registry.get? name = some target)
    (onward : scheduler.Reaches host first after) {prerequisite : String}
    (needed : prerequisite ∈ target.prerequisites) {source : Target}
    (known : scheduler.registry.get? prerequisite = some source) {input : String}
    (read : input ∈ source.outputs) : host.times after.2 input = host.times last.2 input :=
  times_of_terminal orderly sorted.nodup (sorted.mem_of_needs member ⟨target, found, needed⟩)
    known read look.reached (onward.head look.turn)
    (TargetState.isTerminal_of_unblocks (look.unblocked prerequisite needed))

/-- An entry that is skipped was fresh when it left the pending state. -/
theorem fresh_of_skipped (distinct : plan.targets.Nodup) {name : String} {target : Target}
    (found : scheduler.registry.get? name = some target) {after : Run × World}
    (reached : scheduler.Reaches host (.start plan, origin) after)
    (skipped : after.1.ledger.state name = .skipped) :
    ∃ last first, Leaving scheduler host plan origin name target last first ∧
      scheduler.Reaches host first after ∧ first.1.ledger.state name = .skipped ∧
        Staleness.Fresh scheduler.registry (host.times first.2) target := by
  obtain ⟨last, first, leaving, onward⟩ :=
    leaving_of_ne_pending distinct found reached (by simp [skipped])
  have idle := idle_of_idle distinct (leaving.reached.tail leaving.turn) onward (.inr skipped)
  refine ⟨last, first, leaving, onward, ?_⟩
  have departure := leaving.departure
  generalize first.1.ledger.state name = state at departure idle ⊢
  cases departure with
  | skip fresh => exact ⟨rfl, Staleness.isDue_check_nil.1 fresh⟩
  | complete | launch => simp at idle

section Renewal

variable (orderly : scheduler.Orderly host plan origin) (distinct : plan.targets.Nodup)
  {name : String} {target : Target} (member : name ∈ plan.targets)
  (found : scheduler.registry.get? name = some target)

include orderly distinct member found

/-- A recipe that is joined has left the outputs of its target newer than what it began with. -/
theorem renewed_of_join {last first before joined : Run × World}
    (leaving : Leaving scheduler host plan origin name target last first)
    (running : first.1.ledger.state name = .running)
    (onward : scheduler.Reaches host first before) (still : before.1.ledger.state name = .running)
    (turn : scheduler.Turn host before joined) (left : joined.1.ledger.state name ≠ .running) :
    joined.1.ledger.state name = .succeeded ∧
      ∀ output ∈ target.outputs, ∃ made, host.times joined.2 output = some made ∧
        ∀ path earlier, host.times first.2 path = some earlier → earlier < made := by
  have reached := (leaving.reached.tail leaving.turn).trans onward
  have consistent := consistent_of_turn distinct reached turn
  obtain ⟨failure, inFlight, ended⟩ := turn.move.finished consistent still left
  obtain rfl : failure = none := Option.eq_none_iff_forall_ne_some.2 fun failure failed =>
    orderly.succeeds reached _ inFlight failure (congrArg Progress.finished failed)
  refine ⟨ended, fun output made => ?_⟩
  have same : host.times joined.2 output = host.times before.2 output := by
    refine orderly.keeps reached turn name member target found (fun flight flies named => ?_)
      output made
    obtain rfl := List.inj_on_of_nodup_map consistent.inFlight_nodup flies inFlight named
    rfl
  rw [same]
  exact orderly.renews leaving.reached leaving.turn onward name target found leaving.pending
    running inFlight output made

/-- The outputs of an entry whose recipe has succeeded are newer than what it began with. -/
theorem renewed_of_succeeded (recipe : target.recipe ≠ []) {after : Run × World}
    (reached : scheduler.Reaches host (.start plan, origin) after)
    (succeeded : after.1.ledger.state name = .succeeded) :
    ∃ last first, Leaving scheduler host plan origin name target last first ∧
      scheduler.Reaches host first after ∧
        ∀ output ∈ target.outputs, ∃ made, host.times after.2 output = some made ∧
          ∀ path earlier, host.times first.2 path = some earlier → earlier < made := by
  obtain ⟨last, first, leaving, onward⟩ :=
    leaving_of_ne_pending distinct found reached (by simp [succeeded])
  have begun := leaving.reached.tail leaving.turn
  have running : first.1.ledger.state name = .running := by
    generalize eq : first.1.ledger.state name = state
    have departure := eq ▸ leaving.departure
    cases departure with
    | skip fresh =>
      have terminal : (first.1.ledger.state name).isTerminal = true := by rw [eq]; rfl
      have still := state_of_terminal distinct begun onward terminal
      rw [succeeded, eq] at still
      cases still
    | complete due empty => exact absurd empty recipe
    | launch due nonempty => rfl
  obtain ⟨before, joined, lead, still, turn, left, rest⟩ :=
    onward.crosses (P := fun run => run.ledger.state name = .running) running
      (by simp [succeeded])
  obtain ⟨ended, renewed⟩ :=
    renewed_of_join orderly distinct member found leaving running lead still turn left
  refine ⟨last, first, leaving, onward, fun output made => ?_⟩
  rw [times_of_terminal orderly distinct member found made ((begun.trans lead).tail turn) rest
    (by rw [ended]; rfl)]
  exact renewed output made

/-- The outputs of an entry that was skipped or has succeeded are there. -/
theorem present_of_unblocks (judged : target.alwaysDue = false) {after : Run × World}
    (reached : scheduler.Reaches host (.start plan, origin) after)
    (unblocks : (after.1.ledger.state name).unblocks = true) :
    ∀ output ∈ target.outputs, ∃ made, host.times after.2 output = some made := by
  intro output made
  cases state : after.1.ledger.state name with
  | pending | running | failed =>
    rw [state] at unblocks
    cases unblocks
  | succeeded =>
    obtain ⟨last, first, -, -, renewed⟩ := renewed_of_succeeded orderly distinct member found
      (orderly.productive name member target found judged) reached state
    exact (renewed output made).imp fun _ => And.left
  | skipped =>
    obtain ⟨last, first, leaving, onward, skipped, fresh⟩ :=
      fresh_of_skipped distinct found reached state
    rw [times_of_terminal orderly distinct member found made (leaving.reached.tail leaving.turn)
      onward (by rw [skipped]; rfl)]
    exact fresh.present output made

end Renewal

/-! ## The verdict foretold -/

section Foretold

variable (orderly : scheduler.Orderly host plan origin)
  (sorted : Plan.Sorted scheduler.registry plan.targets)

include orderly sorted

/-- Where a prerequisite has succeeded, an entry that leaves the pending state is not fresh. -/
theorem not_fresh_of_succeeded {name prerequisite : String} {target : Target}
    (member : name ∈ plan.targets) (found : scheduler.registry.get? name = some target)
    (needed : prerequisite ∈ target.prerequisites) {before after : Run × World}
    (reached : scheduler.Reaches host (.start plan, origin) before)
    (turn : scheduler.Turn host before after)
    (pending : before.1.ledger.state name = .pending)
    (succeeded : before.1.ledger.state prerequisite = .succeeded) :
    ¬ Staleness.Fresh scheduler.registry (host.times after.2) target := by
  intro fresh
  have distinct := sorted.nodup
  have inPlan := sorted.mem_of_needs member ⟨target, found, needed⟩
  obtain ⟨source, known⟩ := sorted.declared inPlan
  have judged := fresh.judged prerequisite needed source known
  obtain ⟨last, first, leaving, onward, renewed⟩ := renewed_of_succeeded orderly distinct inPlan
    known (orderly.productive prerequisite inPlan source known judged) reached succeeded
  obtain ⟨input, read⟩ : ∃ input, input ∈ source.outputs := by
    refine List.exists_mem_of_ne_nil _ fun none => ?_
    simp [Target.alwaysDue, none] at judged
  obtain ⟨output, made⟩ : ∃ output, output ∈ target.outputs := by
    refine List.exists_mem_of_ne_nil _ fun none => ?_
    simpa [Target.alwaysDue, none] using fresh.not_alwaysDue
  obtain ⟨changed, written, newer⟩ := renewed input read
  obtain ⟨time, there⟩ := fresh.present output made
  -- The output is as old as it was when the recipe of the prerequisite began.
  have begun := leaving.reached.tail leaving.turn
  have waited : first.1.ledger.state name = .pending := by
    by_contra left
    exact ne_pending_of_ne_pending distinct begun onward left pending
  have own : host.times first.2 output = some time := by
    rw [times_of_idle orderly distinct member found made begun (.inl waited),
      ← times_of_idle orderly distinct member found made reached (.inl pending),
      ← times_of_turn orderly distinct member found made reached turn (by simp [pending])]
    exact there
  have older := newer output time own
  obtain ⟨seen, stored, bound⟩ := fresh.older prerequisite needed source known input read
  rw [times_of_turn orderly distinct inPlan known read reached turn (by simp [succeeded]),
    written, Option.some.injEq] at stored
  exact absurd older (Int.not_lt.2 (stored ▸ bound output made time there))

/-- Where all prerequisites were skipped, an entry that leaves the pending state finds its own files
and theirs as they were in the beginning. -/
theorem fresh_iff_of_skipped {name : String} {target : Target} (member : name ∈ plan.targets)
    (found : scheduler.registry.get? name = some target) {before after : Run × World}
    (reached : scheduler.Reaches host (.start plan, origin) before)
    (turn : scheduler.Turn host before after)
    (pending : before.1.ledger.state name = .pending)
    (skipped : ∀ prerequisite ∈ target.prerequisites,
      before.1.ledger.state prerequisite = .skipped) :
    Staleness.Fresh scheduler.registry (host.times after.2) target ↔
      Staleness.Fresh scheduler.registry (host.times origin) target := by
  have distinct := sorted.nodup
  have own : ∀ output ∈ target.outputs,
      host.times after.2 output = host.times origin output := fun output made => by
    rw [times_of_turn orderly distinct member found made reached turn (by simp [pending]),
      times_of_idle orderly distinct member found made reached (.inl pending)]
  have inputs : ∀ prerequisite ∈ target.prerequisites, ∀ source,
      scheduler.registry.get? prerequisite = some source → ∀ input ∈ source.outputs,
        host.times after.2 input = host.times origin input := by
    intro prerequisite needed source known input read
    have inPlan := sorted.mem_of_needs member ⟨target, found, needed⟩
    have skipped := skipped prerequisite needed
    rw [times_of_turn orderly distinct inPlan known read reached turn (by simp [skipped]),
      times_of_idle orderly distinct inPlan known read reached (.inr skipped)]
  constructor
  · intro fresh
    exact fresh.of_agree (fun output made => (own output made).symm)
      fun prerequisite needed source known input read =>
        (inputs prerequisite needed source known input read).symm
  · exact fun fresh => fresh.of_agree own inputs

/-- The verdict on an entry that leaves the pending state is the one foretold in the beginning. -/
theorem fresh_iff_of_turn {name : String} {target : Target} (member : name ∈ plan.targets)
    (found : scheduler.registry.get? name = some target) {before after : Run × World}
    (reached : scheduler.Reaches host (.start plan, origin) before)
    (turn : scheduler.Turn host before after)
    (pending : before.1.ledger.state name = .pending)
    (unblocked : ∀ prerequisite ∈ target.prerequisites,
      (before.1.ledger.state prerequisite).unblocks = true)
    (earlier : ∀ prerequisite ∈ target.prerequisites,
      before.1.ledger.state prerequisite = .skipped ↔
        ¬ Staleness.Due scheduler.registry (host.times origin) prerequisite) :
    Staleness.Fresh scheduler.registry (host.times after.2) target ↔
      ¬ Staleness.Due scheduler.registry (host.times origin) name := by
  rw [Staleness.not_due_iff found]
  by_cases skipped : ∀ prerequisite ∈ target.prerequisites,
      before.1.ledger.state prerequisite = .skipped
  · rw [fresh_iff_of_skipped orderly sorted member found reached turn pending skipped]
    refine (and_iff_left fun prerequisite needed => ?_).symm
    exact (earlier prerequisite needed).1 (skipped prerequisite needed)
  · simp only [not_forall] at skipped
    obtain ⟨prerequisite, needed, ran⟩ := skipped
    have succeeded : before.1.ledger.state prerequisite = .succeeded := by
      have through := (TargetState.unblocks_iff _).1 (unblocked prerequisite needed)
      exact through.resolve_left ran
    have stale := not_fresh_of_succeeded orderly sorted member found needed reached turn pending
      succeeded
    refine iff_of_false stale fun foretold => ran ?_
    exact (earlier prerequisite needed).2 (foretold.2 prerequisite needed)

/-- **What has started was due just as the files foretold in the beginning**, however many recipes
may run at once and in which order they end. -/
theorem foretold_of_reaches {after : Run × World}
    (reached : scheduler.Reaches host (.start plan, origin) after) {name : String}
    (member : name ∈ plan.targets) (left : after.1.ledger.state name ≠ .pending) :
    after.1.ledger.state name = .skipped ↔
      ¬ Staleness.Due scheduler.registry (host.times origin) name := by
  have distinct := sorted.nodup
  induction reached generalizing name with
  | refl => exact absurd (Ledger.state_empty name) left
  | @tail middle after reached turn ih =>
    by_cases pending : middle.1.ledger.state name = .pending
    · obtain ⟨-, target, found, ready, departure⟩ :=
        turn.move.departure (consistent_of_turn distinct reached turn) pending left
      have unblocked := ((Ledger.readiness_eq_ready_iff ..).1 ready).2
      rw [← fresh_iff_of_turn orderly sorted member found reached turn pending unblocked
        fun prerequisite needed => ?_, ← Staleness.isDue_check_nil]
      · generalize after.1.ledger.state name = state at departure
        cases departure with
        | skip fresh => simp [fresh]
        | complete due | launch due => simp [due]
      · refine ih (sorted.mem_of_needs member ⟨target, found, needed⟩) fun pending => ?_
        have unblocks := unblocked prerequisite needed
        rw [pending] at unblocks
        cases unblocks
    · refine Iff.trans ?_ (ih member pending)
      have advance := advance_of_turn distinct reached turn name
      generalize middle.1.ledger.state name = before at advance pending
      generalize after.1.ledger.state name = state at advance
      cases advance <;> simp_all

end Foretold

/-! ## The end of an orderly run -/

/-- No recipe of an orderly run fails. -/
theorem failures_of_reaches (orderly : scheduler.Orderly host plan origin)
    {after : Run × World} (reached : scheduler.Reaches host (.start plan, origin) after) :
    after.1.ledger.failures = [] := by
  induction reached with
  | refl => rfl
  | @tail middle after reached turn ih =>
    refine List.eq_nil_iff_forall_not_mem.2 fun failure noted => ?_
    rcases turn.move.noted_failure noted with earlier | ⟨flight, inFlight, finished⟩
    · rw [ih] at earlier
      cases earlier
    · exact orderly.succeeds reached flight inFlight failure finished

/-- An orderly run that no mistake stops ends with every entry skipped or succeeded. -/
theorem unblocked_of_over (orderly : scheduler.Orderly host plan origin)
    (sorted : Plan.Sorted scheduler.registry plan.targets) {run : Run} {world : World}
    (reached : scheduler.Reaches host (.start plan, origin) (run, world))
    (final : scheduler.step host run world = none) (fine : run.error = none) {name : String}
    (member : name ∈ plan.targets) :
    run.ledger.state name = .skipped ∨ run.ledger.state name = .succeeded := by
  have accounted := accounted_of_reaches sorted reached fine
  have consistent := consistent_of_sorted sorted reached
  have whole := close_of_crash_eq_none host plan run world (orderly.prints.crash_eq_none reached)
  have clean : (close host plan run world).ledger.failures = [] := by
    rw [whole]
    exact failures_of_reaches orderly reached
  simpa only [whole] using accounted.unblocked_of_clean consistent sorted final clean member

end Scheduler

/-! ## The recipes of the small run -/

namespace Small

theorem succeeds_of_history : ∀ state ∈ history, ∀ flight ∈ state.1.flights, ∀ failure,
    flight.progress ≠ .finished (some failure) := by
  simp [history, Run.start, launched, busy, made, joined, done]

theorem made_of_history : ∀ state ∈ history, ⟨"lib", .finished none⟩ ∈ state.1.flights →
    state.2 = some 1 := by
  simp [history, Run.start, launched, busy, made, joined, done]

theorem keeps_of_zip : ∀ turn ∈ history.zip history.tail,
    (∀ flight ∈ turn.1.1.flights, flight.target = "lib" → flight.progress.isFinished = true) →
      turn.2.2 = turn.1.2 := by
  simp [history, busy, Progress.isFinished]

theorem begun_of_zip : ∀ turn ∈ history.zip history.tail,
    turn.1.1.ledger.state "lib" = .pending → turn.2.1.ledger.state "lib" = .running →
      turn.2.2 = none := by
  simp [history, busy, launched, made, joined, done, Ledger.state_setState]

/-- The recipes of the small run do what they are for. -/
theorem orderly : scheduler.Orderly host plan none where
  productive := by
    intro name _ target found judged
    rcases (get?_eq_some_iff name target).1 found with ⟨-, rfl⟩ | ⟨-, rfl⟩
    · simp [lib]
    · simp [all, Target.alwaysDue] at judged
  succeeds := fun reached => succeeds_of_history _ (mem_history_of_reaches reached)
  prints := Scheduler.prints_of_echo fun _ _ _ => rfl
  keeps := by
    intro before after reached turn name _ target found rests output made
    rcases (get?_eq_some_iff name target).1 found with ⟨rfl, rfl⟩ | ⟨-, rfl⟩
    · obtain rfl : output = "lib.o" := by simpa [lib] using made
      have same := keeps_of_zip _ (mem_zip_of_turn _ (mem_history_of_reaches reached) _ turn) rests
      rw [show after.2 = before.2 from same]
    · simp [all] at made
  renews := by
    intro before begun last reached turn onward name target found pending running finished
      output made
    rcases (get?_eq_some_iff name target).1 found with ⟨rfl, rfl⟩ | ⟨-, rfl⟩
    · obtain rfl : output = "lib.o" := by simpa [lib] using made
      have blank : begun.2 = none := begun_of_zip _
        (mem_zip_of_turn _ (mem_history_of_reaches reached) _ turn) pending running
      have written := made_of_history last
        (mem_history_of_reaches ((reached.tail turn).trans onward)) finished
      refine ⟨1, by simp [written], fun path earlier there => ?_⟩
      simp [blank] at there
    · simp [all] at made

end Small
end TaskRunner
