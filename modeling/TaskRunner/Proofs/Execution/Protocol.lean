import Mathlib.Data.List.Perm.Subperm
import TaskRunner.Proofs.Execution.Chronicle
/- # TaskRunner.Proofs.Execution.Protocol -- what order the events of a run keep to

The lives of the targets say nothing of how they lie together.  Two things hold of all of them
(`Paced`): a target opens only after everything that it needs has freed it, and at no moment are
more of them under way than there are jobs.

Both come from what is added at a time (`Paced.append`).  What opens in a move is ready, so what it
needs is unblocked, and the life of an unblocked entry has an event that frees; and the entry of a
target that is under way is running.

A recipe that crashes keeps the pace too, but its target stays under way for ever: there is no event
that says that it has failed, though the report does (`Fork.lives_bereft`).

The coordinator writes the two events of an entry without a recipe at one go, and a line of another
recipe may still come in between.  `Event.Delays` allows for that, and nothing in the protocol
depends on it. -/

namespace TaskRunner
set_option autoImplicit false

namespace Event

/-- Whether an event is the first of a target. -/
def Opens (name : String) : Event → Prop
  | started target | skipped target _ => target = name
  | command _ _ _ | completed _ | failed _ => False

/-- Whether an event lets what needs a target start. -/
def Frees (name : String) : Event → Prop
  | completed target | skipped target _ => target = name
  | started _ | command _ _ _ | failed _ => False

/-- Whether a target that has started ends with an event. -/
def Ends (name : String) : Event → Prop
  | completed target => target = name
  | failed failure => failure.target = name
  | started _ | command _ _ _ | skipped _ _ => False

/-- Whether a target has started and has not ended. -/
def UnderWay (events : List Event) (name : String) : Prop :=
  .started name ∈ events ∧ ∀ event ∈ events, ¬ event.Ends name

/-- Whether no more than so many targets are under way. -/
def Within (limit : Nat) (events : List Event) : Prop :=
  ∀ names : List String, names.Nodup → (∀ name ∈ names, UnderWay events name) →
    names.length ≤ limit

variable {name : String} {event : Event} {events more : List Event} {limit : Nat}

theorem target_of_ends (ends : event.Ends name) : event.target = name := by
  cases event <;> first | exact ends | cases ends

/-- Whether a target is under way shows in its own events. -/
theorem underWay_about : UnderWay (about name events) name ↔ UnderWay events name := by
  have started : .started name ∈ about name events ↔ .started name ∈ events := by
    simp [mem_about, target]
  refine and_congr started ⟨fun goes event member ends => ?_, fun goes event member => ?_⟩
  · exact goes event (mem_about.2 ⟨member, target_of_ends ends⟩) ends
  · exact goes event (mem_about.1 member).1

theorem underWay_congr (same : ∀ event, event ∈ events ↔ event ∈ more) :
    UnderWay events name ↔ UnderWay more name := by
  simp only [UnderWay, same]

theorem Within.of_subset (names : List String) (room : names.length ≤ limit)
    (subset : ∀ name, UnderWay events name → name ∈ names) : Within limit events := by
  intro others distinct goes
  have inside : others ⊆ names := fun name member => subset name (goes name member)
  exact Nat.le_trans (List.subperm_of_subset distinct inside).length_le room

end Event

namespace Life

variable {failures : List TargetFailure} {name : String} {lines : List String}
  {state : TargetState} {events : List Event} (life : Life failures name lines state events)

include life

/-- An entry that unblocks has an event that says so. -/
theorem frees (unblocks : state.unblocks = true) : ∃ event ∈ events, event.Frees name := by
  cases life with
  | pending => cases unblocks
  | skipped reason => exact ⟨_, List.mem_singleton_self _, rfl⟩
  | succeeded => exact ⟨.completed name, by simp, rfl⟩
  | failed => cases unblocks

/-- A life that is told to the end is of no target that is under way. -/
theorem not_underWay : ¬ Event.UnderWay events name := by
  rintro ⟨started, goes⟩
  cases life with
  | pending => cases started
  | skipped reason => simp at started
  | succeeded => exact goes (.completed name) (by simp) rfl
  | @failed failure _ named => exact goes (.failed failure) (by simp) named

end Life

/-- What all events together keep to: a target opens when everything that it needs has freed it, and
at no moment are more targets under way than may be. -/
structure Paced (registry : Registry) (limit : Nat) (events : List Event) : Prop where
  ordered : ∀ front event back, events = front ++ event :: back → ∀ name, event.Opens name →
    ∀ prerequisite, registry.Needs name prerequisite →
      ∃ earlier ∈ front, earlier.Frees prerequisite
  bounded : ∀ front, front <+: events → Event.Within limit front

namespace Paced

variable {registry : Registry} {limit : Nat} {events : List Event}

theorem nil : Paced registry limit [] := by
  refine ⟨fun front event back split => by simp at split, fun front begins => ?_⟩
  rw [List.prefix_nil.1 begins]
  refine Event.Within.of_subset [] (Nat.zero_le limit) fun name goes => ?_
  cases goes.1

/-- What is added keeps the pace if all that it opens has been freed, and it starts no more than
may be under way. -/
theorem append (paced : Paced registry limit events) {added : List Event}
    (freed : ∀ event ∈ added, ∀ name, event.Opens name → ∀ prerequisite,
      registry.Needs name prerequisite → ∃ earlier ∈ events, earlier.Frees prerequisite)
    (within : ∀ part, part <+: added → part ≠ [] → Event.Within limit (events ++ part)) :
    Paced registry limit (events ++ added) := by
  refine ⟨fun front event back split name opens prerequisite needs => ?_, fun front begins => ?_⟩
  · rcases List.append_eq_append_iff.1 split with ⟨middle, rfl, rest⟩ | ⟨middle, rfl, rest⟩
    · have member : event ∈ added := rest ▸ by simp
      obtain ⟨earlier, before, frees⟩ := freed event member name opens prerequisite needs
      exact ⟨earlier, List.mem_append_left _ before, frees⟩
    · cases middle with
      | nil =>
        have member : event ∈ added := by
          rw [List.nil_append] at rest
          exact rest ▸ List.mem_cons_self
        simpa using freed event member name opens prerequisite needs
      | cons first middle =>
        obtain ⟨rfl, rfl⟩ := List.cons_eq_cons.1 rest
        exact paced.ordered front event middle rfl name opens prerequisite needs
  · rcases List.prefix_or_prefix_of_prefix begins (List.prefix_append events added) with
      early | ⟨part, rfl⟩
    · exact paced.bounded front early
    · by_cases none : part = []
      · subst none
        rw [List.append_nil]
        exact paced.bounded events List.prefix_rfl
      · exact within part ((List.prefix_append_right_inj events).1 begins) none

/-- What stands at the beginning of a list ends before two items that follow one another, between
them, or behind them. -/
theorem split_of_pair {α : Type} {front back before after : List α} {first second : α}
    (split : front ++ first :: second :: back = before ++ after) :
    (∃ middle, front = before ++ middle ∧ after = middle ++ first :: second :: back) ∨
      (before = front ++ [first] ∧ after = second :: back) ∨
        ∃ middle, before = front ++ first :: second :: middle ∧ back = middle ++ after := by
  rcases List.append_eq_append_iff.1 split with ⟨_ | ⟨one, _ | ⟨two, middle⟩⟩, rfl, rest⟩ |
    ⟨middle, rfl, rest⟩
  · exact .inl ⟨[], by simp, by simpa using rest.symm⟩
  · obtain ⟨rfl, rfl⟩ := List.cons_eq_cons.1 rest
    exact .inr (.inl ⟨rfl, rfl⟩)
  · simp only [List.cons_append, List.cons.injEq] at rest
    obtain ⟨rfl, rfl, rfl⟩ := rest
    exact .inr (.inr ⟨middle, rfl, rfl⟩)
  · exact .inl ⟨middle, rfl, rest⟩

/-- It does not matter to the pace whether a line of another recipe has come in yet. -/
theorem swap {front back : List Event} {name other text : String} {line : Nat}
    (paced : Paced registry limit (front ++ .completed name :: .command other line text :: back)) :
    Paced registry limit (front ++ .command other line text :: .completed name :: back) := by
  refine ⟨fun before event after split target opens prerequisite needs => ?_,
    fun before ⟨after, begins⟩ => ?_⟩
  · rcases split_of_pair split with
      ⟨_ | ⟨first, middle⟩, rfl, rest⟩ | ⟨-, rest⟩ | ⟨middle, rfl, rfl⟩
    · obtain ⟨rfl, -⟩ := List.cons_eq_cons.1 rest
      cases opens
    · obtain ⟨rfl, -⟩ := List.cons_eq_cons.1 rest
      exact paced.ordered before event _ (List.append_assoc ..) target opens prerequisite needs
    · obtain ⟨rfl, -⟩ := List.cons_eq_cons.1 rest
      cases opens
    · obtain ⟨earlier, member, frees⟩ := paced.ordered
        (front ++ .completed name :: .command other line text :: middle) event after (by simp)
        target opens prerequisite needs
      exact ⟨earlier, (by simpa [or_left_comm] using member), frees⟩
  · rcases split_of_pair begins.symm with ⟨middle, rfl, -⟩ | ⟨rfl, -⟩ | ⟨middle, rfl, rfl⟩
    · exact paced.bounded before ⟨_, (List.append_assoc ..).symm⟩
    · intro names distinct goes
      refine paced.bounded front (List.prefix_append ..) names distinct fun target member => ?_
      obtain ⟨started, ends⟩ := goes target member
      exact ⟨by simpa using started, fun event early => ends event (List.mem_append_left _ early)⟩
    · intro names distinct goes
      refine paced.bounded (front ++ .completed name :: .command other line text :: middle)
        ⟨after, by simp⟩ names distinct fun target member => ?_
      exact (Event.underWay_congr fun event => by simp [or_left_comm]).1 (goes target member)

end Paced

/-! ## The pace of a run -/

namespace Run

variable {scheduler : Scheduler} {plan : Plan} {run next : Run} {times : FileTimes}

/-- With one event more, only what it starts comes under way. -/
theorem underWay_of_emit {event : Event} {name : String}
    (goes : Event.UnderWay (run.emit event).events.reverse name) :
    event = .started name ∨ Event.UnderWay run.events.reverse name := by
  obtain ⟨started, ends⟩ := goes
  rw [emit, List.reverse_cons] at started ends
  rcases List.mem_append.1 started with before | last
  · exact .inr ⟨before, fun event early => ends event (List.mem_append_left _ early)⟩
  · exact .inl (List.mem_singleton.1 last).symm

theorem Chronicled.running_of_underWay (chronicled : run.Chronicled) {name : String}
    (goes : Event.UnderWay run.events.reverse name) : run.ledger.state name = .running := by
  by_contra rests
  exact (chronicled.life name rests).not_underWay (Event.underWay_about.2 goes)

theorem Chronicled.within (chronicled : run.Chronicled)
    (consistent : run.Consistent scheduler plan) :
    Event.Within scheduler.jobs run.events.reverse := fun names distinct goes =>
  consistent.running_le names distinct fun name member =>
    chronicled.running_of_underWay (goes name member)

/-- What is ready has been freed by all that it needs. -/
theorem Chronicled.freed (chronicled : run.Chronicled) {name : String} {target : Target}
    (found : scheduler.registry.get? name = some target)
    (ready : run.ledger.readiness target = .ready) {prerequisite : String}
    (needs : scheduler.registry.Needs name prerequisite) :
    ∃ earlier ∈ run.events.reverse, earlier.Frees prerequisite := by
  obtain ⟨same, known, needed⟩ := needs
  obtain rfl := Option.some.inj (found.symm.trans known)
  have unblocks := ((Ledger.readiness_eq_ready_iff ..).1 ready).2 prerequisite needed
  have rests : run.ledger.state prerequisite ≠ .running := fun running => by
    rw [running] at unblocks
    cases unblocks
  obtain ⟨earlier, member, frees⟩ := (chronicled.life prerequisite rests).frees unblocks
  exact ⟨earlier, (Event.mem_about.1 member).1, frees⟩

/-- One event more keeps the pace, if all that it opens has been freed. -/
theorem paced_of_event {event : Event} (paced : Paced scheduler.registry scheduler.jobs
      run.events.reverse)
    (freed : ∀ name, event.Opens name → ∀ prerequisite, scheduler.registry.Needs name prerequisite →
      ∃ earlier ∈ run.events.reverse, earlier.Frees prerequisite)
    (events : next.events = event :: run.events)
    (within : Event.Within scheduler.jobs next.events.reverse) :
    Paced scheduler.registry scheduler.jobs next.events.reverse := by
  rw [events, List.reverse_cons] at within ⊢
  refine paced.append (fun other member => ?_) fun part begins some_event => ?_
  · rw [List.mem_singleton.1 member]
    exact freed
  · rcases List.prefix_concat_iff.1 (List.nil_append [event] ▸ begins) with rfl | none
    · exact within
    · exact absurd (List.prefix_nil.1 none) some_event

theorem paced_of_move (paced : Paced scheduler.registry scheduler.jobs run.events.reverse)
    (chronicled : run.Chronicled) (consistent : run.Consistent scheduler plan)
    (within : Event.Within scheduler.jobs next.events.reverse)
    (move : scheduler.Move times run next) :
    Paced scheduler.registry scheduler.jobs next.events.reverse := by
  cases move with
  | pass | withhold | giveUp | refuse | endLine | crash | lose => exact paced
  | skip scans front found ready fresh =>
    refine paced_of_event paced (fun name opens prerequisite needs => ?_) rfl within
    cases opens
    exact chronicled.freed found ready needs
  | launch scans front found ready due nonempty expanded =>
    refine paced_of_event paced (fun name opens prerequisite needs => ?_) rfl within
    cases opens
    exact chronicled.freed found ready needs
  | @complete front ahead target scans eq found ready due empty =>
    -- Between the two events the entry is under way, beside those in flight.
    have started : Paced scheduler.registry scheduler.jobs
        (run.emit (.started front)).events.reverse := by
      refine paced_of_event paced (fun name opens prerequisite needs => ?_) rfl ?_
      · cases opens
        exact chronicled.freed found ready needs
      · have room : run.flights.length < scheduler.jobs := by
          simp only [Scheduler.canScan, Bool.and_eq_true, decide_eq_true_eq] at scans
          exact scans.2
        have room : (front :: run.inFlight).length ≤ scheduler.jobs := by
          simpa [inFlight] using Nat.succ_le_of_lt room
        refine .of_subset _ room fun name goes => ?_
        rcases underWay_of_emit goes with same | earlier
        · cases same
          exact List.mem_cons_self
        · exact List.mem_cons_of_mem _ (consistent.inFlight_of_running
            (consistent.crash_of_scan scans) name (chronicled.running_of_underWay earlier))
    refine paced_of_event started (fun name opens => ?_) rfl within
    cases opens
  | @join i flight failure idle found finished =>
    cases failure with
    | none | some _ =>
      refine paced_of_event paced (fun name opens => ?_) rfl within
      cases opens
  | startLine found ready =>
    refine paced_of_event paced (fun name opens => ?_) rfl within
    cases opens

end Run

namespace Scheduler

variable {World : Type} {scheduler : Scheduler} {host : Host World} {plan : Plan}
  {origin : World}

theorem paced_of_reaches (sorted : Plan.Sorted scheduler.registry plan.targets)
    {after : Run × World} (reached : scheduler.Reaches host (.start plan, origin) after) :
    Paced scheduler.registry scheduler.jobs after.1.events.reverse := by
  induction reached with
  | refl => exact .nil
  | @tail before after reached turn ih =>
    have within := (chronicled_of_reaches sorted (reached.tail turn)).within
      (consistent_of_sorted sorted (reached.tail turn))
    exact Run.paced_of_move ih (chronicled_of_reaches sorted reached)
      (consistent_of_turn sorted.nodup reached turn) within turn.move

end Scheduler

/-! ## The pace of a rehearsal -/

namespace Rehearsal

variable {scheduler : Scheduler} {order : List String} {rehearsal : Rehearsal} {name : String}
  {target : Target} {limit : Nat}

/-- Nothing but the next entry comes under way. -/
theorem Chronicled.paced_append (chronicled : rehearsal.Chronicled scheduler order)
    (found : scheduler.registry.get? name = some target)
    (earlier : ∀ prerequisite ∈ target.prerequisites, prerequisite ∈ order)
    (room : 0 < limit) (paced : Paced scheduler.registry limit rehearsal.events.reverse)
    {added : List Event} (told : ∀ event ∈ added, event.target = name) :
    Paced scheduler.registry limit (rehearsal.events.reverse ++ added) := by
  refine paced.append (fun event member other opens prerequisite needs => ?_)
    fun part begins _ => .of_subset [name] room fun other goes => ?_
  · have same : event.target = other := by cases event <;> first | exact opens | cases opens
    obtain rfl := (told event member).symm.trans same
    obtain ⟨again, known, needed⟩ := needs
    obtain rfl := Option.some.inj (found.symm.trans known)
    obtain ⟨event, member, frees⟩ := (chronicled.life prerequisite).frees
      (chronicled.unblocks prerequisite (earlier prerequisite needed))
    exact ⟨event, (Event.mem_about.1 member).1, frees⟩
  · by_contra different
    have different : name ≠ other := fun same => different (same ▸ List.mem_singleton_self name)
    have silent : Event.about other part = [] :=
      Event.about_of_ne (fun event member => told event (begins.subset member)) different
    rw [← Event.underWay_about, Event.about_append, silent, List.append_nil] at goes
    exact (chronicled.life other).not_underWay goes

end Rehearsal

namespace Scheduler

variable {World : Type} {scheduler : Scheduler} {host : Host World} {plan : Plan}
  {origin : World} {report : Report}

theorem paced_of_rehearse (sorted : Plan.Sorted scheduler.registry plan.targets)
    {rehearsal : Rehearsal} {desk : World}
    (led : scheduler.rehearse host {} origin plan.targets = (none, rehearsal, desk)) :
    Paced scheduler.registry scheduler.jobs rehearsal.events.reverse := by
  have room : 0 < scheduler.jobs := by unfold jobs; omega
  refine (rehearse_keeps (P := fun order rehearsal => rehearsal.Chronicled scheduler order ∧
    Paced scheduler.registry scheduler.jobs rehearsal.events.reverse) ?_ ?_
    ⟨Rehearsal.chronicled_start scheduler, .nil⟩ led sorted).2
  · rintro order rehearsal name target found fresh earlier ⟨chronicled, paced⟩ reason
    refine ⟨chronicled.skip fresh reason, ?_⟩
    rw [rehearsal.events_skip]
    exact chronicled.paced_append found earlier room paced (by simp [Event.target])
  · rintro order rehearsal name target commands found fresh earlier ⟨chronicled, paced⟩ expanded
    refine ⟨chronicled.perform fresh found expanded, ?_⟩
    rw [rehearsal.events_perform]
    exact chronicled.paced_append found earlier room paced Rehearsal.target_of_mem_eventsOf

theorem paced_of_run (sorted : Plan.Sorted scheduler.registry plan.targets)
    (reported : (scheduler.run host plan origin).1.result = .ok report) :
    Paced scheduler.registry scheduler.jobs (scheduler.run host plan origin).1.events := by
  cases runs : scheduler.options.dryRun with
  | false =>
    rw [run_eq_execute runs]
    simpa [execute] using paced_of_reaches sorted (loop_reaches scheduler host (.start plan) origin).1
  | true =>
    rw [run_eq_executeDry runs] at reported ⊢
    obtain ⟨rehearsal, desk, led, -, events⟩ := rehearsal_of_executeDry reported
    rw [events]
    exact paced_of_rehearse sorted led

end Scheduler

/-! ## The protocol -/

theorem Event.Delays.paced {events stream : List Event} (delays : Event.Delays events stream)
    {registry : Registry} {limit : Nat} (paced : Paced registry limit events) :
    Paced registry limit stream := by
  induction delays with
  | refl => exact paced
  | swap delays different ih => exact ih.swap

/-- The protocol of the events of a run that has a report, where `lost` are the entries whose recipes
have crashed. -/
structure Protocol (scheduler : Scheduler) (plan : Plan) (lost : List String) (report : Report)
    (events : List Event) : Prop where
  names : report.outcomes.map (·.name) = plan.targets
  /-- Nothing is told of targets outside the plan. -/
  planned : ∀ event ∈ events, event.target ∈ plan.targets
  /-- Each entry has the events of the state that is reported of it. -/
  lives : ∀ outcome ∈ report.outcomes, outcome.name ∉ lost →
    Life report.failures outcome.name outcome.commands outcome.state
      (Event.about outcome.name events)
  /-- But an entry whose recipe has crashed has failed without an event that says so. -/
  unended : ∀ outcome ∈ report.outcomes, outcome.name ∈ lost →
    outcome.state = .failed ∧
      Unended outcome.name outcome.commands (Event.about outcome.name events)
  /-- The lines of an entry that was started are those of its recipe with references replaced. -/
  replaced : ∀ outcome ∈ report.outcomes, outcome.state = .succeeded ∨ outcome.state = .failed →
    ∃ target, scheduler.registry.get? outcome.name = some target ∧
      List.Forall₂ (fun line command => scheduler.table.substitute line = .ok command)
        target.recipe outcome.commands
  paced : Paced scheduler.registry (max scheduler.options.jobs 1) events

namespace Scheduler

variable {World : Type} {scheduler : Scheduler} {host : Host World} {plan : Plan}
  {origin : World} {report : Report}

/-- **The events of a run keep to the protocol**, dry or not, whatever the commands do, however many
recipes may run at once and in which order they go on, and however late the end of a target comes
in among the lines of others.  Only the end of a recipe that crashes is not told. -/
theorem run_keeps_protocol {roots : List String} {stream : List Event}
    (planned : scheduler.registry.plan roots = .ok plan)
    (reported : (scheduler.run host plan origin).1.result = .ok report)
    (delays : Event.Delays (scheduler.run host plan origin).1.events stream) :
    Protocol scheduler plan (scheduler.lost host plan origin) report stream := by
  have sorted := Plan.sorted_of_plan planned
  obtain ⟨ledger, rfl, told⟩ := told_of_run sorted reported
  have told := told.delays delays
  obtain ⟨error, failed⟩ := told.failed
  refine ⟨ledger.names_report plan _, fun event member => told.planned member,
    List.forall_mem_map.2 fun name _ => told.life name,
    List.forall_mem_map.2 fun name _ gone => ⟨(failed name gone).1, told.unended name gone⟩, ?_,
    delays.paced (paced_of_run sorted reported)⟩
  refine List.forall_mem_map.2 fun name _
    (started : ledger.state name = .succeeded ∨ ledger.state name = .failed) => ?_
  obtain ⟨target, found, expanded⟩ := (told.noted name).of_started fun idle => by
    rcases started with state | state <;> simp [state] at idle
  exact ⟨target, found, Variable.Table.forall₂_of_substituteAll expanded⟩

/-- The small run keeps to the protocol, and so does the run of the fork that loses its first
entry. -/
theorem run_keeps_protocol_small :
    Small.scheduler.registry.plan ["all"] = .ok Small.plan ∧
      (Small.scheduler.run Small.host Small.plan none).1.result =
        .ok (Small.done.ledger.report Small.plan false) ∧
      Event.Delays (Small.scheduler.run Small.host Small.plan none).1.events Small.stream ∧
      Protocol Small.scheduler Small.plan [] (Small.done.ledger.report Small.plan false)
        Small.stream ∧
      Fork.registry.plan ["both"] = .ok Fork.plan ∧
      (Fork.persistent.run Fork.mute Fork.plan ()).1.result = .ok Fork.bereftReport ∧
      Event.Delays (Fork.persistent.run Fork.mute Fork.plan ()).1.events [.started "one"] ∧
      Protocol Fork.persistent Fork.plan ["one"] Fork.bereftReport [.started "one"] := by
  have reported : (Small.scheduler.run Small.host Small.plan none).1.result =
      .ok (Small.done.ledger.report Small.plan false) := by rw [Small.run_start]
  have delays : Event.Delays (Small.scheduler.run Small.host Small.plan none).1.events
      Small.stream := by
    rw [Small.run_start]
    exact .refl
  have bereft : (Fork.persistent.run Fork.mute Fork.plan ()).1.result =
      .ok Fork.bereftReport := by rw [Fork.run_mute]
  have silent : Event.Delays (Fork.persistent.run Fork.mute Fork.plan ()).1.events
      [.started "one"] := by
    rw [Fork.run_mute]
    exact .refl
  exact ⟨Small.plan_registry, reported, delays,
    Small.lost_eq_nil ▸ run_keeps_protocol Small.plan_registry reported delays,
    Fork.plan_registry, bereft, silent,
    Fork.lost_mute ▸ run_keeps_protocol Fork.plan_registry bereft silent⟩

end Scheduler

/-- The first entry of the fork fails when nothing can be printed, and no event says so. -/
theorem Fork.lives_bereft :
    registry.plan ["both"] = .ok plan ∧
      (persistent.run mute plan ()).1.result = .ok bereftReport ∧
        ¬ ∀ outcome ∈ bereftReport.outcomes,
          Life bereftReport.failures outcome.name outcome.commands outcome.state
            (Event.about outcome.name (persistent.run mute plan ()).1.events) := by
  refine ⟨plan_registry, by rw [run_mute], fun lives => ?_⟩
  have life := lives ⟨"one", .failed, ["first"]⟩ (by simp [bereftReport])
  rw [run_mute] at life
  have silent : Event.about "one" [.started "one"] = [.started "one"] := rfl
  rw [silent] at life
  generalize eq : [Event.started "one"] = events at life
  cases life with
  | failed => simp [Event.opening] at eq
end TaskRunner
