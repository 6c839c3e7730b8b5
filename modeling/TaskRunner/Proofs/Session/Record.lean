import Mathlib.Data.List.Perm.Basic
import TaskRunner.Application
import TaskRunner.Proofs.Execution.Chronicle
/- # TaskRunner.Proofs.Session.Record -- the session says what the report says

The ledger of a run and its session are kept apart: the one by the coordinator, the other by the
events, which come from the recipes as well.  An event changes the record of its own target alone,
so the record of a target is what its own events make of it (`Session.target_applyAll`), however
they lie among those of others.  These events tell the life of the entry, and of each life
`TargetRecord.Agrees` says which record it leaves behind.

An entry whose recipe crashes is the exception.  The ledger is told of the crash when the run is over,
and the events are not, so the record says for ever that the entry is running
(`TargetRecord.Unended`). -/

namespace TaskRunner
set_option autoImplicit false

/-- The events of a run, each with the time at which it was noted. -/
abbrev Stamped := List (Timestamp × Event)

namespace TargetRecord

/-- The record of a target after some more of its events. -/
def after (record : TargetRecord) (stamped : Stamped) : TargetRecord :=
  stamped.foldl (fun record (now, event) => Session.record now event record) record

/-- The record that fits an outcome, where `failures` are those that the report lists. -/
inductive Agrees (failures : List TargetFailure) (outcome : Outcome) : TargetRecord → Prop where
  | pending (state : outcome.state = .pending) : Agrees failures outcome {}
  | skipped (state : outcome.state = .skipped) : Agrees failures outcome { state := .skipped }
  | succeeded (state : outcome.state = .succeeded) (started ended : Timestamp) :
      Agrees failures outcome
        { state := .succeeded, started, ended, commands := outcome.commands }
  /-- The failure is the only one of the target, and its line is the last that began. -/
  | failed (state : outcome.state = .failed) (started ended : Timestamp) {failure : TargetFailure}
      (only : ∀ other ∈ failures, other.target = outcome.name ↔ other = failure)
      (noted : failure ∈ failures) (inside : failure.line < outcome.commands.length) :
      Agrees failures outcome
        { state := .failed, started, ended, commands := outcome.commands.take (failure.line + 1),
          error := failure.message }

/-- The record of a target whose recipe has crashed: it is running and has no end, and not all of the
commands are in it. -/
def Unended (outcome : Outcome) (record : TargetRecord) : Prop :=
  ∃ (started : Timestamp) (count : Nat), count < outcome.commands.length ∧
    record = { state := .running, started, commands := outcome.commands.take count }

end TargetRecord

theorem TargetRecord.Agrees.state_eq {failures : List TargetFailure} {outcome : Outcome}
    {record : TargetRecord} (agrees : TargetRecord.Agrees failures outcome record) :
    record.state = outcome.state := by
  cases agrees with
  | pending state | skipped state | succeeded state | failed state => exact state.symm

namespace Session

/-- A session after some more events. -/
def applyAll (session : Session) (stamped : Stamped) : Session :=
  stamped.foldl (fun session (now, event) => session.apply now event) session

/-- Whether a session and a report on the same plan say the same, but for `lost`, the entries whose
recipes have crashed. -/
structure Agrees (session : Session) (plan : Plan) (lost : List String) (report : Report) :
    Prop where
  names : report.outcomes.map (·.name) = plan.targets
  mem_iff : ∀ name, name ∈ session.targets ↔ name ∈ plan.targets
  records : ∀ outcome ∈ report.outcomes, outcome.name ∉ lost →
    TargetRecord.Agrees report.failures outcome (session.target outcome.name)
  /-- Of an entry whose recipe has crashed the report says that it has failed, and the session that
  it is running. -/
  unended : ∀ outcome ∈ report.outcomes, outcome.name ∈ lost →
    outcome.state = .failed ∧ TargetRecord.Unended outcome (session.target outcome.name)
  finished_eq : session.finished =
    report.outcomes.countP fun outcome => outcome.state.isTerminal && !lost.contains outcome.name
  finished_le : session.finished ≤ plan.targets.length

/-- The time at which a session ends is no part of what it says of its targets. -/
theorem Agrees.finish {session : Session} {plan : Plan} {lost : List String} {report : Report}
    (agrees : session.Agrees plan lost report) (now : Timestamp) :
    (session.finish now).Agrees plan lost report :=
  ⟨agrees.names, agrees.mem_iff, agrees.records, agrees.unended, agrees.finished_eq,
    agrees.finished_le⟩

/-! ## One target at a time -/

variable {session : Session} {stamped : Stamped} {name : String}

theorem target_apply (session : Session) (now : Timestamp) (event : Event) (name : String) :
    (session.apply now event).target name =
      if event.target = name then record now event (session.target name)
      else session.target name := by
  by_cases same : event.target = name
  · subst same
    simp [apply, target]
  · simp [apply, target, Std.TreeMap.getElem?_insert, same]

/-- The record of a target is what its own events make of it. -/
theorem target_applyAll (session : Session) (stamped : Stamped) (name : String) :
    (session.applyAll stamped).target name =
      (session.target name).after (stamped.filter (·.2.target == name)) := by
  induction stamped generalizing session with
  | nil => rfl
  | cons first rest ih =>
    obtain ⟨now, event⟩ := first
    have step := target_apply session now event name
    refine (ih (session.apply now event)).trans ?_
    by_cases same : event.target = name
    · rw [if_pos same] at step
      rw [step, List.filter_cons_of_pos (by simpa using same)]
      rfl
    · rw [if_neg same] at step
      rw [step, List.filter_cons_of_neg (by simpa using same)]

/-- The events of a target are what is left of the stream when those of all others are dropped. -/
theorem map_snd_filter (stamped : Stamped) (name : String) :
    (stamped.filter (·.2.target == name)).map Prod.snd =
      Event.about name (stamped.map Prod.snd) := by
  rw [Event.about, List.filter_map]
  rfl

/-- Events change nothing but the records of targets. -/
theorem applyAll_eq (session : Session) (stamped : Stamped) :
    session.applyAll stamped = { session with targets := (session.applyAll stamped).targets } := by
  induction stamped generalizing session with
  | nil => rfl
  | cons first rest ih => exact ih (session.apply first.1 first.2)

theorem mem_targets_applyAll (session : Session) (stamped : Stamped) (name : String) :
    name ∈ (session.applyAll stamped).targets ↔
      name ∈ session.targets ∨ ∃ event ∈ stamped.map Prod.snd, event.target = name := by
  induction stamped generalizing session with
  | nil => simp [applyAll]
  | cons first rest ih =>
    have inserted : name ∈ (session.apply first.1 first.2).targets ↔
        first.2.target = name ∨ name ∈ session.targets := by
      simp [apply, Std.TreeMap.mem_insert]
    refine (ih (session.apply first.1 first.2)).trans ?_
    simp only [inserted, List.map_cons, List.mem_cons, exists_eq_or_imp]
    tauto

/-- When a run begins, just the entries of its plan have a record, and nothing is in it. -/
theorem targets_begin (requested plan : List String) (dryRun : Bool) (now : Timestamp)
    (name : String) : (Session.begin requested plan dryRun now).targets[name]? =
      if name ∈ plan then some {} else none := by
  have inserted : ∀ targets : Std.TreeMap String TargetRecord,
      (plan.foldl (fun targets name => targets.insert name {}) targets)[name]? =
        if name ∈ plan then some {} else targets[name]? := by
    induction plan with
    | nil => simp
    | cons first rest ih =>
      intro targets
      rw [List.foldl_cons, ih, Std.TreeMap.getElem?_insert]
      by_cases same : first = name
      · simp [same]
      · simp [same, Ne.symm same]
  exact (inserted {}).trans (by simp)

theorem mem_targets_begin {requested plan : List String} {dryRun : Bool} {now : Timestamp}
    {name : String} : name ∈ (Session.begin requested plan dryRun now).targets ↔ name ∈ plan := by
  rw [Std.TreeMap.mem_iff_isSome_getElem?, targets_begin]
  split <;> simp [*]

theorem target_begin (requested plan : List String) (dryRun : Bool) (now : Timestamp)
    (name : String) : (Session.begin requested plan dryRun now).target name = {} := by
  rw [target, targets_begin]
  split <;> rfl

/-- Counting finished records is counting the names of finished targets. -/
theorem finished_eq_countP {names : List String} (distinct : names.Nodup)
    (mem_iff : ∀ name, name ∈ session.targets ↔ name ∈ names) :
    session.finished = names.countP fun name => (session.target name).state.isTerminal := by
  have kept : ∀ entry ∈ session.targets.toList, entry.2 = session.target entry.1 := by
    rintro ⟨name, record⟩ member
    rw [target, Std.TreeMap.mem_toList_iff_getElem?_eq_some.1 member]
    rfl
  have same : session.targets.keys.Perm names :=
    (List.perm_ext_iff_of_nodup session.targets.nodup_keys distinct).2 fun name =>
      Std.TreeMap.mem_keys.trans (mem_iff name)
  rw [← same.countP_eq, ← Std.TreeMap.map_fst_toList_eq_keys, List.countP_map, finished]
  refine List.countP_congr fun ⟨name, record⟩ member => ?_
  have same : record = session.target name := kept _ member
  rw [same]
  rfl

end Session

/-! ## What a life leaves behind -/

namespace TargetRecord

variable {name : String} {lines : List String} {stamped : Stamped}

/-- The lines that begin are added to the commands, whatever their numbers. -/
theorem after_lines (number : Nat → Nat) (record : TargetRecord)
    (told : stamped.map Prod.snd =
      lines.mapIdx fun line command => .command name (number line) command) :
    record.after stamped = { record with commands := record.commands ++ lines } := by
  induction lines generalizing number record stamped with
  | nil =>
    rw [List.mapIdx_nil, List.map_eq_nil_iff] at told
    rw [told, List.append_nil]
    rfl
  | cons command rest ih =>
    rw [List.mapIdx_cons] at told
    obtain ⟨⟨now, event⟩, later, rfl, rfl, behind⟩ := List.map_eq_cons_iff.1 told
    have onward := ih (fun line => number (line + 1))
      (Session.record now (.command name (number 0) command) record) behind
    rw [Session.record, List.append_assoc] at onward
    exact onward

/-- A recipe that has begun leaves the record of a running target. -/
theorem after_opening (told : stamped.map Prod.snd = Event.opening name lines) :
    ∃ started : Timestamp, ({} : TargetRecord).after stamped =
      { state := .running, started, commands := lines } := by
  obtain ⟨⟨now, event⟩, later, rfl, rfl, behind⟩ := List.map_eq_cons_iff.1 told
  exact ⟨now, after_lines id (Session.record now (.started name) {}) behind⟩

/-- One event behind the beginning of a recipe. -/
theorem after_ended {last : Event}
    (told : stamped.map Prod.snd = Event.opening name lines ++ [last]) :
    ∃ started ended : Timestamp, ({} : TargetRecord).after stamped =
      Session.record ended last { state := .running, started, commands := lines } := by
  obtain ⟨first, final, rfl, opens, ends⟩ := List.map_eq_append_iff.1 told
  obtain ⟨⟨now, event⟩, later, rfl, rfl, nothing⟩ := List.map_eq_cons_iff.1 ends
  obtain rfl := List.map_eq_nil_iff.1 nothing
  obtain ⟨started, running⟩ := after_opening opens
  refine ⟨started, now, ?_⟩
  rw [← running, after, List.foldl_append]
  rfl

end TargetRecord

/-- The events of an entry leave the record that fits its outcome. -/
theorem Life.agrees {failures : List TargetFailure} {outcome : Outcome} {events : List Event}
    {stamped : Stamped}
    (life : Life failures outcome.name outcome.commands outcome.state events)
    (distinct : (failures.map (·.target)).Nodup) (told : stamped.map Prod.snd = events) :
    TargetRecord.Agrees failures outcome (({} : TargetRecord).after stamped) := by
  generalize reached : outcome.state = state at life
  cases life with
  | pending =>
    rw [List.map_eq_nil_iff.1 told]
    exact .pending reached
  | skipped reason =>
    obtain ⟨⟨now, event⟩, later, rfl, rfl, nothing⟩ := List.map_eq_cons_iff.1 told
    rw [List.map_eq_nil_iff.1 nothing]
    exact .skipped reached
  | succeeded =>
    obtain ⟨started, ended, record⟩ := TargetRecord.after_ended told
    rw [record]
    exact .succeeded reached started ended
  | @failed failure noted named found =>
    obtain ⟨started, ended, record⟩ := TargetRecord.after_ended told
    rw [record]
    refine .failed reached started ended (fun other member => ⟨fun same => ?_, fun same => ?_⟩)
      noted (List.getElem?_eq_some_iff.1 found).1
    · exact List.inj_on_of_nodup_map distinct member noted (same.trans named.symm)
    · rw [same, named]

namespace Scheduler

variable {World : Type} {scheduler : Scheduler} {host : Host World} {plan : Plan}
  {origin : World} {report : Report}

/-- A session that the events of a run have filled agrees with its report. -/
theorem agrees_of_run (sorted : Plan.Sorted scheduler.registry plan.targets)
    (reported : (scheduler.run host plan origin).1.result = .ok report) {stamped : Stamped}
    (noted : Event.Delays (scheduler.run host plan origin).1.events (stamped.map Prod.snd))
    (requested : List String) (dryRun : Bool) (begun : Timestamp) :
    ((Session.begin requested plan.targets dryRun begun).applyAll stamped).Agrees plan
      (scheduler.lost host plan origin) report := by
  obtain ⟨ledger, rfl, told⟩ := told_of_run sorted reported
  have told := told.delays noted
  generalize filled :
    (Session.begin requested plan.targets dryRun begun).applyAll stamped = session
  have mem_iff : ∀ name, name ∈ session.targets ↔ name ∈ plan.targets := by
    intro name
    rw [← filled, Session.mem_targets_applyAll, Session.mem_targets_begin, or_iff_left_iff_imp]
    rintro ⟨event, member, rfl⟩
    exact told.planned member
  have records : ∀ name, name ∉ scheduler.lost host plan origin →
      TargetRecord.Agrees ledger.failures ⟨name, ledger.state name, ledger.linesOf name⟩
        (session.target name) := by
    intro name kept
    rw [← filled, Session.target_applyAll, Session.target_begin]
    exact (told.life name kept).agrees told.failures_nodup (Session.map_snd_filter stamped name)
  have unended : ∀ name ∈ scheduler.lost host plan origin,
      TargetRecord.Unended ⟨name, ledger.state name, ledger.linesOf name⟩
        (session.target name) := by
    intro name gone
    obtain ⟨count, inside, opens⟩ := told.unended name gone
    rw [← filled, Session.target_applyAll, Session.target_begin]
    obtain ⟨started, record⟩ :=
      TargetRecord.after_opening ((Session.map_snd_filter stamped name).trans opens)
    exact ⟨started, count, inside, record⟩
  have finished : session.finished = plan.targets.countP fun name =>
      (ledger.state name).isTerminal && !(scheduler.lost host plan origin).contains name := by
    rw [Session.finished_eq_countP sorted.nodup mem_iff]
    refine List.countP_congr fun name _ => ?_
    by_cases gone : name ∈ scheduler.lost host plan origin
    · obtain ⟨started, count, -, record⟩ := unended name gone
      simp [record, gone, TargetState.isTerminal]
    · rw [(records name gone).state_eq]
      simp [gone]
  obtain ⟨error, failed⟩ := told.failed
  refine ⟨ledger.names_report plan _, mem_iff, List.forall_mem_map.2 fun name _ => records name,
    List.forall_mem_map.2 fun name _ gone => ⟨(failed name gone).1, unended name gone⟩, ?_, ?_⟩
  · rw [finished, Ledger.report, List.countP_map]
    rfl
  · rw [finished]
    exact List.countP_le_length

/-- **The record of a run agrees with its report**, dry or not, whatever the commands do, however
many recipes may run at once and in which order they go on: so does any session that the events of
the run have filled, and the one that is kept of the run.  They disagree on the entries whose recipes
crash, and on no others. -/
theorem session_agrees {roots : List String} {stamped : Stamped}
    (planned : scheduler.registry.plan roots = .ok plan)
    (reported : (scheduler.run host plan origin).1.result = .ok report)
    (noted : Event.Delays (scheduler.run host plan origin).1.events (stamped.map Prod.snd))
    (begun : Timestamp) :
    (stamped.foldl (fun session (now, event) => session.apply now event)
        (Session.begin roots plan.targets scheduler.options.dryRun begun)).Agrees plan
          (scheduler.lost host plan origin) report ∧
      ∀ (request : Request) (ended : Timestamp),
        (Project.session roots plan request begun ended
          (scheduler.run host plan origin).1.events).Agrees plan
            (scheduler.lost host plan origin) report := by
  have sorted := Plan.sorted_of_plan planned
  refine ⟨agrees_of_run sorted reported noted roots _ begun, fun request ended => ?_⟩
  generalize run : scheduler.run host plan origin = outcome at reported
  have bare : (outcome.1.events.map (ended, ·)).map Prod.snd = outcome.1.events := by
    simp [Function.comp_def]
  have kept : Event.Delays (scheduler.run host plan origin).1.events
      ((outcome.1.events.map (ended, ·)).map Prod.snd) := by
    rw [run, bare]
    exact .refl
  have agrees := agrees_of_run sorted (run ▸ reported) kept roots request.dryRun begun
  rw [Session.applyAll, List.foldl_map] at agrees
  exact agrees.finish ended

/-- The session of the small run agrees with its report, and so does that of the run of the fork, but
for the entry that it loses. -/
theorem session_agrees_small :
    Small.scheduler.registry.plan ["all"] = .ok Small.plan ∧
      (Small.scheduler.run Small.host Small.plan none).1.result =
        .ok (Small.done.ledger.report Small.plan false) ∧
      Event.Delays (Small.scheduler.run Small.host Small.plan none).1.events
        ((Small.stream.map (Timestamp.ofFileTime 0, ·)).map Prod.snd) ∧
      ((Small.stream.map (Timestamp.ofFileTime 0, ·)).foldl
          (fun session (now, event) => session.apply now event)
          (Session.begin ["all"] Small.plan.targets false (.ofFileTime 0))).Agrees Small.plan []
        (Small.done.ledger.report Small.plan false) ∧
      Fork.registry.plan ["both"] = .ok Fork.plan ∧
      (Fork.persistent.run Fork.mute Fork.plan ()).1.result = .ok Fork.bereftReport ∧
      Event.Delays (Fork.persistent.run Fork.mute Fork.plan ()).1.events
        ([(Timestamp.ofFileTime 0, Event.started "one")].map Prod.snd) ∧
      ((Session.begin ["both"] Fork.plan.targets false (.ofFileTime 0)).apply (.ofFileTime 0)
          (.started "one")).Agrees Fork.plan ["one"] Fork.bereftReport := by
  have reported : (Small.scheduler.run Small.host Small.plan none).1.result =
      .ok (Small.done.ledger.report Small.plan false) := by rw [Small.run_start]
  have noted : Event.Delays (Small.scheduler.run Small.host Small.plan none).1.events
      ((Small.stream.map (Timestamp.ofFileTime 0, ·)).map Prod.snd) := by
    rw [Small.run_start]
    exact .refl
  have bereft : (Fork.persistent.run Fork.mute Fork.plan ()).1.result =
      .ok Fork.bereftReport := by rw [Fork.run_mute]
  have silent : Event.Delays (Fork.persistent.run Fork.mute Fork.plan ()).1.events
      ([(Timestamp.ofFileTime 0, Event.started "one")].map Prod.snd) := by
    rw [Fork.run_mute]
    exact .refl
  have agrees := (session_agrees Small.plan_registry reported noted (.ofFileTime 0)).1
  have loses := (session_agrees Fork.plan_registry bereft silent (.ofFileTime 0)).1
  rw [Small.lost_eq_nil] at agrees
  rw [Fork.lost_mute] at loses
  exact ⟨Small.plan_registry, reported, noted, agrees, Fork.plan_registry, bereft, silent, loses⟩

end Scheduler

/-- When nothing can be printed, the record of the fork says of its first entry that it is running,
and the report that it has failed. -/
theorem Fork.session_bereft :
    registry.plan ["both"] = .ok plan ∧
      (persistent.run mute plan ()).1.result = .ok bereftReport ∧
        ∀ (request : Request) (begun ended : Timestamp),
          ¬ ∀ outcome ∈ bereftReport.outcomes,
            ((Project.session ["both"] plan request begun ended
              (persistent.run mute plan ()).1.events).target outcome.name).state =
                outcome.state := by
  refine ⟨plan_registry, by rw [run_mute], fun request begun ended agrees => ?_⟩
  have same := agrees ⟨"one", .failed, ["first"]⟩ (by simp [bereftReport])
  have record := (Session.target_apply (Session.begin ["both"] plan.targets request.dryRun begun)
    ended (.started "one") "one").trans (if_pos rfl)
  rw [Session.target_begin] at record
  rw [run_mute] at same
  exact absurd ((congrArg TargetRecord.state record).symm.trans same) (by simp [Session.record])

end TaskRunner
