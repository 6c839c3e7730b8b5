import TaskRunner.Proofs.Execution.Failures
import TaskRunner.Proofs.Execution.Forecast
import TaskRunner.Proofs.Execution.Loss
/- # TaskRunner.Proofs.Execution.Chronicle -- what the events tell of one target

The events of a run come from the coordinator and from every recipe in flight, in any order.  Those
of one target tell its life: `Life` says which events an entry has, by the state that it ends in.

A run keeps the two in step (`Run.Chronicled`).  An entry that is not running has the events of its
state; for one that is running, its recipe in flight says how many of its lines have begun, and the
events are the opening of the recipe up to that line.  A move tells of one target at most, and the
lives of all others stay as they are.  A rehearsal tells lives of the same form.

The life of an entry whose recipe has crashed is never told to its end (`Unended`): it has started,
some of its lines have begun, and there is no event behind them. -/

namespace TaskRunner
set_option autoImplicit false

namespace Event

/-- The events of one target. -/
def about (name : String) (events : List Event) : List Event :=
  events.filter (·.target == name)

/-- How a recipe begins: its target starts, and its first lines after it. -/
def opening (name : String) (lines : List String) : List Event :=
  .started name :: lines.mapIdx fun line command => .command name line command

/-- The orders in which events can be read: the end of a target may come in late, behind lines of
other recipes that began in the meantime. -/
inductive Delays (events : List Event) : List Event → Prop where
  | refl : Delays events events
  | swap {front back : List Event} {name other text : String} {line : Nat}
      (delays : Delays events (front ++ .completed name :: .command other line text :: back))
      (different : other ≠ name) :
      Delays events (front ++ .command other line text :: .completed name :: back)

variable {name other : String} {events more : List Event} {lines : List String}

theorem mem_about {event : Event} :
    event ∈ about name events ↔ event ∈ events ∧ event.target = name := by
  simp [about]

@[simp] theorem about_append : about name (events ++ more) = about name events ++ about name more :=
  List.filter_append ..

theorem about_of_forall (all : ∀ event ∈ events, event.target = name) :
    about name events = events :=
  List.filter_eq_self.2 fun event member => beq_iff_eq.2 (all event member)

theorem about_of_ne (all : ∀ event ∈ events, event.target = other) (different : other ≠ name) :
    about name events = [] :=
  List.filter_eq_nil_iff.2 fun event member same =>
    different ((all event member).symm.trans (beq_iff_eq.1 same))

theorem target_of_mem_opening {event : Event} (member : event ∈ opening name lines) :
    event.target = name := by
  rcases List.mem_cons.1 member with rfl | later
  · rfl
  · obtain ⟨_, _, rfl⟩ := List.mem_mapIdx.1 later
    rfl

/-- A line that begins is one event more. -/
theorem opening_append_singleton (command : String) :
    opening name (lines ++ [command]) =
      opening name lines ++ [.command name lines.length command] := by
  simp [opening, List.mapIdx_append]

/-- However late the end of a target comes in, each target has the same events in the same order. -/
theorem Delays.about_eq {stream : List Event} (delays : Delays events stream) (name : String) :
    about name stream = about name events := by
  induction delays with
  | refl => rfl
  | @swap front back target other text line delays different ih =>
    rw [← ih]
    by_cases ends : target = name
    · have passes : other ≠ name := fun same => different (same.trans ends.symm)
      simp [about, Event.target, ends, passes]
    · simp [about, List.filter_cons, Event.target, ends]

end Event

/-- The events of a target by what became of it, where `lines` are those of its recipe with
references replaced. -/
inductive Life (failures : List TargetFailure) (name : String) (lines : List String) :
    TargetState → List Event → Prop where
  | pending : Life failures name lines .pending []
  | skipped (reason : String) : Life failures name lines .skipped [.skipped name reason]
  | succeeded : Life failures name lines .succeeded (Event.opening name lines ++ [.completed name])
  /-- No line behind the one that failed has begun. -/
  | failed {failure : TargetFailure} (noted : failure ∈ failures) (named : failure.target = name)
      (found : lines[failure.line]? = some failure.command) :
      Life failures name lines .failed
        (Event.opening name (lines.take (failure.line + 1)) ++ [.failed failure])

theorem Life.mono {failures more : List TargetFailure} {name : String} {lines : List String}
    {state : TargetState} {events : List Event} (life : Life failures name lines state events)
    (subset : failures ⊆ more) : Life more name lines state events := by
  cases life with
  | pending => exact .pending
  | skipped reason => exact .skipped reason
  | succeeded => exact .succeeded
  | failed noted named found => exact .failed (subset noted) named found

theorem Life.eq_nil {failures : List TargetFailure} {name : String} {lines : List String}
    {events : List Event} (life : Life failures name lines .pending events) : events = [] := by
  cases life with
  | pending => rfl

/-- The events of an entry whose recipe has crashed: not all of its lines have begun, and it does not
end. -/
def Unended (name : String) (lines : List String) (events : List Event) : Prop :=
  ∃ count < lines.length, events = Event.opening name (lines.take count)

/-- The lines of a recipe that have begun. -/
def Progress.begun (lines : List String) : Progress → List String
  | ready line _ _ | crashed line _ _ _ => lines.take line
  | busy line _ _ => lines.take (line + 1)
  | finished none => lines
  | finished (some failure) => lines.take (failure.line + 1)

namespace Progress

variable {target command : String} {lines rest : List String} {line : Nat}

theorem begun_ofLines (split : lines.drop line = rest) :
    (ofLines line rest).begun lines = lines.take line := by
  cases rest with
  | nil =>
    have all : lines.take line = lines := List.take_of_length_le (List.drop_eq_nil_iff.1 split)
    rw [all]
    rfl
  | cons => rfl

/-- The end of a line begins no other. -/
theorem begun_afterLine (split : lines.drop line = command :: rest) (result : Option LineFailure) :
    (afterLine target line command rest result).begun lines = lines.take (line + 1) := by
  cases result with
  | none => exact begun_ofLines (next_of_drop split).2
  | some cause => rfl

/-- The line that begins is the next after those that have. -/
theorem take_succ_of_drop (split : lines.drop line = command :: rest) :
    lines.take (line + 1) = lines.take line ++ [command] ∧ (lines.take line).length = line := by
  have first := (next_of_drop split).1
  have inside : line < lines.length := (List.getElem?_eq_some_iff.1 first).1
  refine ⟨?_, List.length_take_of_le (Nat.le_of_lt inside)⟩
  rw [List.take_add_one, first]
  rfl

end Progress

namespace Run

open Event (about opening)

/-- The events of one target so far, in order. -/
def eventsOf (run : Run) (name : String) : List Event := about name run.events.reverse

/-- Whether the events tell what the ledger and the recipes in flight say. -/
structure Chronicled (run : Run) : Prop where
  life : ∀ name, run.ledger.state name ≠ .running →
    Life run.ledger.failures name (run.ledger.linesOf name) (run.ledger.state name)
      (run.eventsOf name)
  opened : ∀ flight ∈ run.flights, run.eventsOf flight.target =
    opening flight.target (flight.progress.begun (run.ledger.linesOf flight.target))
  unended : ∀ name, run.ledger.state name = .running → name ∉ run.inFlight →
    Unended name (run.ledger.linesOf name) (run.eventsOf name)

variable {scheduler : Scheduler} {plan : Plan} {run next : Run} {times : FileTimes}

/-- Events about one target leave those of all others as they are. -/
theorem eventsOf_of_ne {name other : String} {added : List Event}
    (events : next.events.reverse = run.events.reverse ++ added)
    (told : ∀ event ∈ added, event.target = name) (different : name ≠ other) :
    next.eventsOf other = run.eventsOf other := by
  rw [eventsOf, events, Event.about_append, Event.about_of_ne told different, List.append_nil,
    eventsOf]

theorem eventsOf_of_told {name : String} {added : List Event}
    (events : next.events.reverse = run.events.reverse ++ added)
    (told : ∀ event ∈ added, event.target = name) :
    next.eventsOf name = run.eventsOf name ++ added := by
  rw [eventsOf, events, Event.about_append, Event.about_of_forall told, eventsOf]

/-- A recipe that goes on is the only one in flight under its name. -/
theorem eq_or_ne_of_mem_setProgress (distinct : run.inFlight.Nodup) {i : Nat}
    {flight other : Flight} {progress : Progress} (found : run.flights[i]? = some flight)
    (member : other ∈ (Scheduler.setProgress run i flight progress).flights) :
    other = { flight with progress } ∨ other ∈ run.flights ∧ other.target ≠ flight.target := by
  rcases List.mem_or_eq_of_mem_set member with before | same
  · by_cases named : other.target = flight.target
    · have inside : i < run.flights.length := (List.getElem?_eq_some_iff.1 found).1
      have mine : ({ flight with progress } : Flight) ∈
          (Scheduler.setProgress run i flight progress).flights :=
        List.mem_of_getElem? (List.getElem?_set_self inside)
      have apart := inFlight_setProgress progress found ▸ distinct
      exact .inl (List.inj_on_of_nodup_map apart member mine named)
    · exact .inr ⟨before, named⟩
  · exact .inl same

/-- No recipe of a pending entry is in flight. -/
theorem Consistent.ne_of_pending (consistent : run.Consistent scheduler plan) {name : String}
    {flight : Flight} (pending : run.ledger.state name = .pending)
    (member : flight ∈ run.flights) : name ≠ flight.target := by
  rintro rfl
  have running := consistent.running_of_inFlight flight.target (List.mem_map_of_mem member)
  rw [pending] at running
  cases running

theorem chronicled_start (plan : Plan) : (start plan).Chronicled where
  life := fun name _ => by
    have pending : (start plan).ledger.state name = .pending := Ledger.state_empty name
    rw [pending]
    exact .pending
  opened := fun flight member => absurd member List.not_mem_nil
  unended := fun name running => by simp [start] at running

namespace Chronicled

variable (chronicled : run.Chronicled) (consistent : run.Consistent scheduler plan)

include chronicled

/-- An entry of which nothing is known has no events. -/
theorem eventsOf_eq_nil {name : String} (pending : run.ledger.state name = .pending) :
    run.eventsOf name = [] := by
  have life := chronicled.life name (by simp [pending])
  rw [pending] at life
  exact life.eq_nil

include consistent

/-- An entry that is settled at once has its life told at once. -/
theorem settle {name : String} {ahead : List String} {state : TargetState} {added : List Event}
    (front : run.ahead = name :: ahead)
    (ledger : next.ledger = run.ledger.setState name state) (flights : next.flights = run.flights)
    (events : next.events.reverse = run.events.reverse ++ added)
    (told : ∀ event ∈ added, event.target = name)
    (life : Life run.ledger.failures name (run.ledger.linesOf name) state added) :
    next.Chronicled := by
  have pending := consistent.pending_of_front front
  refine ⟨fun other rests => ?_, fun flight member => ?_, fun other running grounded => ?_⟩
  · rw [ledger, Ledger.state_setState] at rests
    rw [ledger, Ledger.state_setState, Ledger.linesOf_setState, Ledger.failures_setState]
    by_cases same : name = other
    · subst same
      rw [if_pos rfl, eventsOf_of_told events told, chronicled.eventsOf_eq_nil pending,
        List.nil_append]
      exact life
    · rw [if_neg same] at rests ⊢
      rw [eventsOf_of_ne events told same]
      exact chronicled.life other rests
  · rw [flights] at member
    have different := consistent.ne_of_pending pending member
    rw [eventsOf_of_ne events told different, ledger, Ledger.linesOf_setState]
    exact chronicled.opened flight member
  · rw [ledger, Ledger.state_setState] at running
    rw [inFlight, flights] at grounded
    split at running
    · subst running
      cases life
    · next different =>
      rw [eventsOf_of_ne events told different, ledger, Ledger.linesOf_setState]
      exact chronicled.unended other running grounded

/-- A recipe that starts has no line begun. -/
theorem launch {name : String} {ahead lines : List String} (front : run.ahead = name :: ahead)
    (ledger : next.ledger = (run.ledger.setState name .running).setCommands name lines)
    (flights : next.flights = run.flights ++ [⟨name, Progress.ofLines 0 lines⟩])
    (events : next.events.reverse = run.events.reverse ++ [.started name]) :
    next.Chronicled := by
  have pending := consistent.pending_of_front front
  have told : ∀ event ∈ [Event.started name], event.target = name := by simp [Event.target]
  refine ⟨fun other rests => ?_, fun flight member => ?_, fun other running grounded => ?_⟩
  · rw [ledger, Ledger.state_setCommands, Ledger.state_setState] at rests
    by_cases same : name = other
    · exact absurd (if_pos same) rests
    · rw [if_neg same] at rests
      rw [ledger, Ledger.state_setCommands, Ledger.state_setState, if_neg same,
        Ledger.linesOf_setCommands, if_neg same, eventsOf_of_ne events told same]
      exact chronicled.life other rests
  · rw [flights, List.mem_append, List.mem_singleton] at member
    rcases member with earlier | rfl
    · have different := consistent.ne_of_pending pending earlier
      rw [eventsOf_of_ne events told different, ledger, Ledger.linesOf_setCommands,
        if_neg different]
      exact chronicled.opened flight earlier
    · rw [eventsOf_of_told events told, chronicled.eventsOf_eq_nil pending, ledger,
        Ledger.linesOf_setCommands, if_pos rfl]
      have none : (Progress.ofLines 0 lines).begun lines = [] := Progress.begun_ofLines rfl
      rw [none]
      rfl
  · rw [inFlight, flights, List.map_append, List.mem_append, not_or] at grounded
    have different : name ≠ other := fun same => grounded.2 (by simp [same])
    rw [ledger, Ledger.state_setCommands, Ledger.state_setState, if_neg different] at running
    rw [eventsOf_of_ne events told different, ledger, Ledger.linesOf_setCommands, if_neg different]
    exact chronicled.unended other running grounded.1

/-- A recipe that is over has its life told to the end. -/
theorem join (recorded : run.Recorded) {i : Nat} {flight : Flight}
    {failure : Option TargetFailure} (found : run.flights[i]? = some flight)
    (finished : flight.progress = .finished failure) :
    (scheduler.join run i flight.target failure).Chronicled := by
  have member : flight ∈ run.flights := List.mem_of_getElem? found
  have opened := chronicled.opened flight member
  have fits := recorded.fits flight member
  rw [finished] at opened fits
  obtain ⟨event, events, told, life⟩ : ∃ event : Event,
      (scheduler.join run i flight.target failure).events.reverse =
        run.events.reverse ++ [event] ∧ event.target = flight.target ∧
      Life (run.ledger.failures ++ failure.toList) flight.target
        (run.ledger.linesOf flight.target) (Ledger.endState failure)
        (run.eventsOf flight.target ++ [event]) := by
    rw [opened]
    cases failure with
    | none => exact ⟨.completed flight.target, List.reverse_cons, rfl, .succeeded⟩
    | some failure =>
      obtain ⟨named, line⟩ := fits
      exact ⟨.failed failure, List.reverse_cons, named, .failed (by simp) named line⟩
  have told : ∀ other ∈ [event], other.target = flight.target := by simpa using told
  refine ⟨fun other rests => ?_, fun other inFlight => ?_, fun other running grounded => ?_⟩
  · rw [ledger_join, Ledger.state_finish] at rests
    rw [ledger_join, Ledger.state_finish, Ledger.linesOf_finish, Ledger.failures_finish]
    by_cases same : flight.target = other
    · subst same
      rw [if_pos rfl, eventsOf_of_told events told]
      exact life
    · rw [if_neg same] at rests ⊢
      rw [eventsOf_of_ne events told same]
      exact (chronicled.life other rests).mono (List.subset_append_left _ _)
  · have different : flight.target ≠ other.target := by
      have name : other.target ∈ (scheduler.join run i flight.target failure).inFlight :=
        List.mem_map_of_mem inFlight
      rw [inFlight_join, mem_eraseIdx_inFlight consistent.inFlight_nodup found] at name
      exact name.1.symm
    rw [eventsOf_of_ne events told different, ledger_join, Ledger.linesOf_finish]
    exact chronicled.opened other ((List.eraseIdx_sublist ..).subset inFlight)
  · rw [inFlight_join, mem_eraseIdx_inFlight consistent.inFlight_nodup found, not_and] at grounded
    rw [ledger_join, Ledger.state_finish] at running
    split at running
    · cases failure <;> cases running
    · next different =>
      rw [eventsOf_of_ne events told different, ledger_join, Ledger.linesOf_finish]
      exact chronicled.unended other running (grounded (Ne.symm different))

/-- A recipe that has crashed is told of no more when it was joined. -/
theorem lose (recorded : run.Recorded) {i : Nat} {flight : Flight} {line : Nat}
    {command error : String} {rest : List String} (found : run.flights[i]? = some flight)
    (crashed : flight.progress = .crashed line command rest error) :
    (Scheduler.lose run i error).Chronicled := by
  have member : flight ∈ run.flights := List.mem_of_getElem? found
  refine ⟨chronicled.life, fun other inFlight =>
    chronicled.opened other ((List.eraseIdx_sublist ..).subset inFlight),
    fun other running grounded => ?_⟩
  rw [inFlight_lose, mem_eraseIdx_inFlight consistent.inFlight_nodup found, not_and] at grounded
  by_cases same : other = flight.target
  · subst same
    have opened := chronicled.opened flight member
    have fits := recorded.fits flight member
    rw [crashed] at opened fits
    have inside := (List.getElem?_eq_some_iff.1 (Progress.next_of_drop fits).1).1
    exact ⟨line, inside, opened⟩
  · exact chronicled.unended other running (grounded same)

/-- A recipe goes on, and what it tells is the lines that have begun. -/
theorem setProgress {i : Nat} {flight : Flight} {progress : Progress} {added : List Event}
    (found : run.flights[i]? = some flight) (ledger : next.ledger = run.ledger)
    (flights : next.flights = (Scheduler.setProgress run i flight progress).flights)
    (events : next.events.reverse = run.events.reverse ++ added)
    (told : ∀ event ∈ added, event.target = flight.target)
    (opens : opening flight.target (progress.begun (run.ledger.linesOf flight.target)) =
      opening flight.target (flight.progress.begun (run.ledger.linesOf flight.target)) ++ added) :
    next.Chronicled := by
  have mine : flight ∈ run.flights := List.mem_of_getElem? found
  refine ⟨fun other rests => ?_, fun other member => ?_, fun other running grounded => ?_⟩
  · rw [ledger] at rests ⊢
    have different : flight.target ≠ other := fun same =>
      rests (consistent.running_of_inFlight other (same ▸ mem_inFlight_of_getElem? found))
    rw [eventsOf_of_ne events told different]
    exact chronicled.life other rests
  · rw [flights] at member
    rw [ledger]
    rcases eq_or_ne_of_mem_setProgress consistent.inFlight_nodup found member with
      rfl | ⟨before, different⟩
    · rw [eventsOf_of_told events told, chronicled.opened flight mine]
      exact opens.symm
    · rw [eventsOf_of_ne events told (Ne.symm different)]
      exact chronicled.opened other before
  · rw [inFlight, flights, ← inFlight, inFlight_setProgress progress found] at grounded
    have different : flight.target ≠ other := fun same =>
      grounded (same ▸ mem_inFlight_of_getElem? found)
    rw [ledger] at running
    rw [eventsOf_of_ne events told different, ledger]
    exact chronicled.unended other running grounded

/-- A move tells of one target at most. -/
theorem move (recorded : run.Recorded)
    (noted : ∀ name, Noted scheduler name (run.ledger.state name) (run.ledger.linesOf name))
    (sorted : Plan.Sorted scheduler.registry plan.targets)
    (move : scheduler.Move times run next) : next.Chronicled := by
  cases move with
  | pass | withhold | refuse =>
    exact ⟨chronicled.life, chronicled.opened, chronicled.unended⟩
  | giveUp scans front unknown =>
    obtain ⟨target, found⟩ := sorted.declared (consistent.mem_of_front front)
    rw [unknown] at found
    cases found
  | @skip front ahead target scans eq found ready fresh =>
    refine chronicled.settle consistent eq rfl rfl List.reverse_cons ?_ (.skipped _)
    simp [Event.target]
  | @complete front ahead target scans eq found ready due empty =>
    have none := (noted front).of_idle (.inl (consistent.pending_of_front eq))
    have both : (Event.completed front :: .started front :: run.events).reverse =
        run.events.reverse ++ [.started front, .completed front] := by simp
    refine chronicled.settle consistent eq rfl rfl both ?_ ?_
    · simp [Event.target]
    · rw [none]
      exact .succeeded
  | launch scans front => exact chronicled.launch consistent front rfl rfl List.reverse_cons
  | join idle found finished => exact chronicled.join consistent recorded found finished
  | @startLine i flight line command rest found ready =>
    have fits := ready ▸ recorded.fits flight (List.mem_of_getElem? found)
    obtain ⟨taken, count⟩ := Progress.take_succ_of_drop fits
    refine chronicled.setProgress consistent found rfl rfl List.reverse_cons ?_ ?_
    · simp [Event.target]
    · rw [ready]
      change opening _ (List.take (line + 1) _) = opening _ (List.take line _) ++ _
      rw [taken, Event.opening_append_singleton, count]
  | @endLine i flight line command rest result found busy =>
    have fits := busy ▸ recorded.fits flight (List.mem_of_getElem? found)
    refine chronicled.setProgress consistent found rfl rfl (List.append_nil _).symm ?_ ?_
    · simp
    · rw [busy, Progress.begun_afterLine fits, List.append_nil]
      rfl
  | crash error echoes found ready =>
    refine chronicled.setProgress consistent found rfl rfl (List.append_nil _).symm ?_ ?_
    · simp
    · rw [ready, List.append_nil]
      rfl
  | lose idle found crashed => exact chronicled.lose consistent recorded found crashed

end Chronicled

end Run

namespace Scheduler

variable {World : Type} {scheduler : Scheduler} {host : Host World} {plan : Plan}
  {origin : World}

theorem chronicled_of_reaches (sorted : Plan.Sorted scheduler.registry plan.targets)
    {after : Run × World} (reached : scheduler.Reaches host (.start plan, origin) after) :
    after.1.Chronicled := by
  induction reached with
  | refl => exact Run.chronicled_start plan
  | tail reached turn ih =>
    exact ih.move (consistent_of_turn sorted.nodup reached turn)
      (recorded_of_reaches sorted.nodup reached) (noted_of_reaches sorted.nodup reached) sorted
      turn.move

/-! ## Rehearsals -/

/-- What holds when a rehearsal begins, and is kept whether it skips an entry or performs it, holds
when it has gone through the plan. -/
theorem rehearse_keeps {P : List String → Rehearsal → Prop}
    (skips : ∀ {order : List String} {rehearsal : Rehearsal} {name : String} {target : Target},
      scheduler.registry.get? name = some target → name ∉ order →
        (∀ prerequisite ∈ target.prerequisites, prerequisite ∈ order) → P order rehearsal →
          ∀ reason, P (order ++ [name]) (rehearsal.skip name reason))
    (performs : ∀ {order : List String} {rehearsal : Rehearsal} {name : String} {target : Target}
      {commands : List String},
      scheduler.registry.get? name = some target → name ∉ order →
        (∀ prerequisite ∈ target.prerequisites, prerequisite ∈ order) → P order rehearsal →
          scheduler.table.substituteAll target.recipe = .ok commands →
            P (order ++ [name]) (rehearsal.perform name commands))
    {order rest : List String} {rehearsal after : Rehearsal} {world desk : World}
    (holds : P order rehearsal)
    (led : scheduler.rehearse host rehearsal world rest = (none, after, desk))
    (sorted : Plan.Sorted scheduler.registry (order ++ rest)) : P (order ++ rest) after := by
  induction rest generalizing order rehearsal world with
  | nil =>
    cases led
    rwa [List.append_nil]
  | cons name rest ih =>
    have onward : order ++ name :: rest = (order ++ [name]) ++ rest := by simp
    have fresh : name ∉ order := by
      have apart := (List.nodup_append.1 sorted.nodup).2.2
      exact fun member => apart name member name List.mem_cons_self rfl
    rw [rehearse] at led
    cases found : scheduler.registry.get? name with
    | none =>
      rw [found] at led
      cases led
    | some target =>
      have earlier : ∀ prerequisite ∈ target.prerequisites, prerequisite ∈ order :=
        fun prerequisite needed => sorted.mem_before rfl found needed
      simp only [found] at led
      rw [onward] at sorted ⊢
      split at led
      · exact ih (skips found fresh earlier holds _) led sorted
      · cases expanded : scheduler.table.substituteAll target.recipe with
        | error e =>
          rw [expanded] at led
          cases led
        | ok commands =>
          rw [expanded] at led
          exact ih (performs found fresh earlier holds expanded) led sorted

end Scheduler

namespace Rehearsal

open Event (about opening)

theorem events_skip (rehearsal : Rehearsal) (name reason : String) :
    (rehearsal.skip name reason).events.reverse =
      rehearsal.events.reverse ++ [.skipped name reason] :=
  List.reverse_cons

theorem events_perform (rehearsal : Rehearsal) (name : String) (commands : List String) :
    (rehearsal.perform name commands).events.reverse =
      rehearsal.events.reverse ++ eventsOf name commands := by
  rw [perform, List.reverse_append, List.reverse_reverse]

theorem target_of_mem_eventsOf {name : String} {commands : List String} :
    ∀ event ∈ eventsOf name commands, event.target = name := by
  intro event member
  rcases List.mem_append.1 member with opens | ends
  · exact Event.target_of_mem_opening opens
  · rw [List.mem_singleton.1 ends]
    rfl

/-- What a rehearsal has told of the entries that it has come to, and of no others. -/
structure Chronicled (scheduler : Scheduler) (order : List String) (rehearsal : Rehearsal) :
    Prop where
  life : ∀ name, Life rehearsal.ledger.failures name (rehearsal.ledger.linesOf name)
    (rehearsal.ledger.state name) (about name rehearsal.events.reverse)
  noted : ∀ name,
    Noted scheduler name (rehearsal.ledger.state name) (rehearsal.ledger.linesOf name)
  unblocks : ∀ name ∈ order, (rehearsal.ledger.state name).unblocks = true
  pending : ∀ name, name ∉ order → rehearsal.ledger.state name = .pending
  sound : rehearsal.ledger.failures = []

theorem chronicled_start (scheduler : Scheduler) : Chronicled scheduler [] {} where
  life := fun name => by
    have pending : Ledger.empty.state name = .pending := Ledger.state_empty name
    rw [pending]
    exact .pending
  noted := fun name =>
    ⟨fun _ => Ledger.linesOf_empty name, fun busy => absurd (.inl (Ledger.state_empty name)) busy⟩
  unblocks := fun name member => absurd member List.not_mem_nil
  pending := fun name _ => Ledger.state_empty name
  sound := rfl

namespace Chronicled

variable {scheduler : Scheduler} {order : List String} {rehearsal : Rehearsal} {name : String}
  {target : Target} (chronicled : rehearsal.Chronicled scheduler order) (fresh : name ∉ order)

include chronicled fresh

/-- The next entry has its life told at once, and no other changes. -/
theorem settle {next : Rehearsal} {state : TargetState} {lines : List String} {added : List Event}
    (states : ∀ other, next.ledger.state other =
      if name = other then state else rehearsal.ledger.state other)
    (commands : ∀ other, next.ledger.linesOf other =
      if name = other then lines else rehearsal.ledger.linesOf other)
    (failures : next.ledger.failures = rehearsal.ledger.failures)
    (events : next.events.reverse = rehearsal.events.reverse ++ added)
    (told : ∀ event ∈ added, event.target = name)
    (life : Life [] name lines state added) (noted : Noted scheduler name state lines)
    (unblocks : state.unblocks = true) : next.Chronicled scheduler (order ++ [name]) := by
  refine ⟨fun other => ?_, fun other => ?_, fun other member => ?_, fun other absent => ?_, ?_⟩
  · rw [states, commands, failures, chronicled.sound, events, Event.about_append]
    by_cases same : name = other
    · subst same
      have before := chronicled.life name
      rw [chronicled.pending name fresh] at before
      rw [if_pos rfl, if_pos rfl, before.eq_nil, Event.about_of_forall told, List.nil_append]
      exact life
    · rw [if_neg same, if_neg same, Event.about_of_ne told same, List.append_nil]
      exact chronicled.sound ▸ chronicled.life other
  · rw [states, commands]
    by_cases same : name = other
    · rw [if_pos same, if_pos same]
      exact same ▸ noted
    · rw [if_neg same, if_neg same]
      exact chronicled.noted other
  · rw [states]
    by_cases same : name = other
    · rw [if_pos same]
      exact unblocks
    · rw [if_neg same]
      exact chronicled.unblocks other (by simpa [Ne.symm same] using member)
  · rw [List.mem_append, List.mem_singleton, not_or] at absent
    rw [states, if_neg (Ne.symm absent.2)]
    exact chronicled.pending other absent.1
  · rw [failures]
    exact chronicled.sound

theorem skip (reason : String) :
    (rehearsal.skip name reason).Chronicled scheduler (order ++ [name]) := by
  have none : rehearsal.ledger.linesOf name = [] :=
    (chronicled.noted name).of_idle (.inl (chronicled.pending name fresh))
  refine chronicled.settle fresh (fun other => Ledger.state_setState ..) (fun other => ?_) rfl
    (rehearsal.events_skip name reason) (by simp [Event.target]) (.skipped reason)
    ⟨fun _ => rfl, fun busy => absurd (.inr rfl) busy⟩ rfl
  change rehearsal.ledger.linesOf other = _
  split
  · next same => rw [← same, none]
  · rfl

theorem perform {commands : List String} (found : scheduler.registry.get? name = some target)
    (expanded : scheduler.table.substituteAll target.recipe = .ok commands) :
    (rehearsal.perform name commands).Chronicled scheduler (order ++ [name]) := by
  exact chronicled.settle fresh (fun other => Ledger.state_setState ..)
    (fun other => Ledger.linesOf_setCommands ..) rfl (rehearsal.events_perform name commands)
    target_of_mem_eventsOf .succeeded
    ⟨fun idle => by simp at idle, fun _ => ⟨target, found, expanded⟩⟩ rfl

end Chronicled

end Rehearsal

/-! ## What is told at the end -/

/-- What the events of a run tell of the entries of its plan, and the ledger with them, where `lost`
are the entries whose recipes have crashed. -/
structure Told (scheduler : Scheduler) (plan : Plan) (lost : List String) (ledger : Ledger)
    (events : List Event) : Prop where
  life : ∀ name, name ∉ lost → Life ledger.failures name (ledger.linesOf name)
    (ledger.state name) (Event.about name events)
  unended : ∀ name ∈ lost, Unended name (ledger.linesOf name) (Event.about name events)
  failed : ∃ error, ∀ name ∈ lost,
    ledger.state name = .failed ∧ .ofCrash error name ∈ ledger.failures
  noted : ∀ name, Noted scheduler name (ledger.state name) (ledger.linesOf name)
  member_of_left : ∀ name, ledger.state name ≠ .pending → name ∈ plan.targets
  failures_nodup : (ledger.failures.map (·.target)).Nodup

namespace Told

variable {scheduler : Scheduler} {plan : Plan} {lost : List String} {ledger : Ledger}
  {events : List Event}

/-- Nothing is told of targets outside the plan. -/
theorem planned (told : Told scheduler plan lost ledger events) {event : Event}
    (member : event ∈ events) : event.target ∈ plan.targets := by
  refine told.member_of_left _ fun pending => ?_
  obtain ⟨error, failed⟩ := told.failed
  have life := told.life event.target fun lost => by simp [(failed _ lost).1] at pending
  rw [pending] at life
  have member : event ∈ Event.about event.target events := Event.mem_about.2 ⟨member, rfl⟩
  rw [life.eq_nil] at member
  cases member

theorem delays (told : Told scheduler plan lost ledger events) {stream : List Event}
    (delays : Event.Delays events stream) : Told scheduler plan lost ledger stream where
  life := fun name => delays.about_eq name ▸ told.life name
  unended := fun name => delays.about_eq name ▸ told.unended name
  failed := told.failed
  noted := told.noted
  member_of_left := told.member_of_left
  failures_nodup := told.failures_nodup

end Told

namespace Scheduler

variable {World : Type} {scheduler : Scheduler} {host : Host World} {plan : Plan}
  {origin : World} {report : Report}

theorem run_eq_executeDry (shows : scheduler.options.dryRun = true) :
    scheduler.run host plan origin = scheduler.executeDry host plan origin :=
  if_pos shows

/-- A rehearsal that has a report has gone through the plan. -/
theorem rehearsal_of_executeDry
    (reported : (scheduler.executeDry host plan origin).1.result = .ok report) :
    ∃ rehearsal desk,
      scheduler.rehearse host {} origin plan.targets = (none, rehearsal, desk) ∧
      report = rehearsal.ledger.report plan true ∧
      (scheduler.executeDry host plan origin).1.events = rehearsal.events.reverse := by
  unfold executeDry at reported ⊢
  rcases outcome : scheduler.rehearse host {} origin plan.targets with ⟨_ | e, rehearsal, desk⟩
  · rw [outcome] at reported
    exact ⟨rehearsal, desk, rfl, (Except.ok.inj reported).symm, rfl⟩
  · rw [outcome] at reported
    cases reported

/-- What is told when a run is over and closed. -/
theorem told_of_over (sorted : Plan.Sorted scheduler.registry plan.targets) {run : Run}
    {world : World} (reached : scheduler.Reaches host (.start plan, origin) (run, world))
    (final : scheduler.step host run world = none) :
    Told scheduler plan (run.running plan) (close host plan run world).ledger
      run.events.reverse := by
  have consistent := consistent_of_sorted sorted reached
  have recorded := recorded_of_reaches sorted.nodup reached
  have chronicled := chronicled_of_reaches sorted reached
  have state : ∀ name, (close host plan run world).ledger.state name =
      if run.ledger.state name = .running then .failed else run.ledger.state name :=
    consistent.state_close final
  obtain ⟨error, order, perm, -, failures⟩ := consistent.failures_close final
  refine ⟨fun name kept => ?_, fun name lost => ?_, ⟨error, fun name lost => ⟨?_, ?_⟩⟩,
    fun name => ?_, fun name left => ?_, recorded.failures_close_nodup consistent final sorted.nodup⟩
  · rw [consistent.mem_running] at kept
    rw [state, if_neg kept, linesOf_close, failures]
    exact (chronicled.life name kept).mono (List.subset_append_left _ _)
  · rw [linesOf_close]
    refine chronicled.unended name (consistent.mem_running.1 lost) ?_
    simp [Run.inFlight, (over_of_step_eq_none final).1]
  · rw [state, if_pos (consistent.mem_running.1 lost)]
  · rw [failures]
    exact List.mem_append_right _ (List.mem_map_of_mem (perm.mem_iff.2 lost))
  · have noted := noted_of_reaches sorted.nodup reached name
    rw [linesOf_close, state]
    split
    · next runs => exact ⟨fun idle => by simp at idle, fun _ => noted.of_started (by simp [runs])⟩
    · exact noted
  · rw [state] at left
    split at left
    · next runs => exact consistent.planned name (by simp [runs])
    · exact consistent.planned name left

theorem chronicled_of_rehearse (sorted : Plan.Sorted scheduler.registry plan.targets)
    {rehearsal : Rehearsal} {desk : World}
    (led : scheduler.rehearse host {} origin plan.targets = (none, rehearsal, desk)) :
    rehearsal.Chronicled scheduler plan.targets :=
  rehearse_keeps (P := fun order rehearsal => rehearsal.Chronicled scheduler order)
    (fun _ fresh _ chronicled reason => chronicled.skip fresh reason)
    (fun found fresh _ chronicled expanded => chronicled.perform fresh found expanded)
    (Rehearsal.chronicled_start scheduler) led sorted

/-- What is told when there is a report. -/
theorem told_of_run (sorted : Plan.Sorted scheduler.registry plan.targets)
    (reported : (scheduler.run host plan origin).1.result = .ok report) :
    ∃ ledger : Ledger, report = ledger.report plan scheduler.options.dryRun ∧
      Told scheduler plan (scheduler.lost host plan origin) ledger
        (scheduler.run host plan origin).1.events := by
  cases runs : scheduler.options.dryRun with
  | false =>
    rw [run_eq_execute runs] at reported ⊢
    obtain ⟨reached, final⟩ := loop_reaches scheduler host (.start plan) origin
    refine ⟨_, (report_of_execute reported).2, ?_⟩
    simpa [lost, leftRunning, runs, execute] using told_of_over sorted reached final
  | true =>
    rw [run_eq_executeDry runs] at reported ⊢
    obtain ⟨rehearsal, desk, led, rfl, events⟩ := rehearsal_of_executeDry reported
    have chronicled := chronicled_of_rehearse sorted led
    have kept : scheduler.lost host plan origin = [] := if_pos runs
    rw [kept, events]
    refine ⟨rehearsal.ledger, rfl, fun name _ => chronicled.life name, by simp, ⟨"", by simp⟩,
      chronicled.noted, fun name left => ?_, ?_⟩
    · by_contra absent
      exact left (chronicled.pending name absent)
    · rw [chronicled.sound]
      exact List.nodup_nil

end Scheduler

end TaskRunner
