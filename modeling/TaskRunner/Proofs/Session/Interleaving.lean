import TaskRunner.Proofs.Session.Record
/- # TaskRunner.Proofs.Session.Interleaving -- the order between targets leaves no trace

Recipes that are in flight together send their events in whatever order they come to them, so one
run can be told in many streams.  What all of them have in common is the order of the events of each
target (`Event.Interleave`).  That is enough for the record: a target has a record if some event is
about it, and its record is what its own events make of it.  Only the times at which events are
noted can tell two such streams apart, and `Session.SameButTimes` compares all but these. -/

namespace TaskRunner
set_option autoImplicit false

/-! ## Streams with the same events of each target -/

/-- Whether two streams interleave the same events of each target, in the same order. -/
def Event.Interleave (events others : List Event) : Prop :=
  ∀ name, about name events = about name others

theorem Event.Interleave.mem_iff {events others : List Event} (same : Interleave events others)
    (event : Event) : event ∈ events ↔ event ∈ others := by
  have member : event ∈ about event.target events ↔ event ∈ about event.target others := by
    rw [same event.target]
  simpa [mem_about] using member

/-- Every order in which the events of a run can be read interleaves the events of its targets. -/
theorem Event.Delays.interleave {events stream : List Event} (delays : Delays events stream) :
    Interleave stream events :=
  delays.about_eq

/-! ## Records that differ in times only -/

/-- Whether two records of a target say the same, whatever the times in them. -/
structure TargetRecord.SameButTimes (record other : TargetRecord) : Prop where
  state : record.state = other.state
  commands : record.commands = other.commands
  error : record.error = other.error
  started : record.started.isSome = other.started.isSome
  ended : record.ended.isSome = other.ended.isSome

/-- Whether two sessions say the same, whatever the times in them. -/
structure Session.SameButTimes (session other : Session) : Prop where
  requested : session.requested = other.requested
  plan : session.plan = other.plan
  dryRun : session.dryRun = other.dryRun
  recorded : ∀ name, name ∈ session.targets ↔ name ∈ other.targets
  records : ∀ name, (session.target name).SameButTimes (other.target name)

namespace TargetRecord

theorem SameButTimes.refl (record : TargetRecord) : record.SameButTimes record :=
  ⟨rfl, rfl, rfl, rfl, rfl⟩

/-- An event keeps records alike, whenever it is noted in either. -/
theorem SameButTimes.record {record other : TargetRecord} (alike : record.SameButTimes other)
    (now later : Timestamp) (event : Event) :
    (Session.record now event record).SameButTimes (Session.record later event other) := by
  obtain ⟨state, commands, error, started, ended⟩ := alike
  cases event with
  | started name => exact ⟨rfl, commands, error, rfl, ended⟩
  | command name line text =>
    exact ⟨state, by simp [Session.record, commands], error, started, ended⟩
  | skipped name reason => exact ⟨rfl, commands, rfl, started, ended⟩
  | completed name => exact ⟨rfl, commands, error, started, rfl⟩
  | failed failure => exact ⟨rfl, commands, rfl, started, rfl⟩

/-- The same events keep records alike, whenever they are noted. -/
theorem SameButTimes.after {record other : TargetRecord} (alike : record.SameButTimes other)
    {stamped others : Stamped} (same : stamped.map Prod.snd = others.map Prod.snd) :
    (record.after stamped).SameButTimes (other.after others) := by
  induction stamped generalizing record other others with
  | nil =>
    rw [List.map_nil, eq_comm, List.map_eq_nil_iff] at same
    rw [same]
    exact alike
  | cons first rest ih =>
    obtain ⟨now, event⟩ := first
    obtain ⟨⟨later, _⟩, behind, rfl, rfl, onward⟩ := List.map_eq_cons_iff.1 same.symm
    exact ih (alike.record now later _) onward.symm

end TargetRecord

namespace Session

/-! ## What an event leaves alone -/

/-- An event leaves the records of all other targets as they are, and gives none to them. -/
theorem getElem?_apply_of_ne (session : Session) (now : Timestamp) {event : Event} {name : String}
    (different : event.target ≠ name) :
    (session.apply now event).targets[name]? = session.targets[name]? := by
  simp [apply, Std.TreeMap.getElem?_insert, different]

/-- Streams that interleave the same events leave sessions that are alike. -/
theorem sameButTimes_applyAll (session : Session) {stamped others : Stamped}
    (same : Event.Interleave (stamped.map Prod.snd) (others.map Prod.snd)) :
    (session.applyAll stamped).SameButTimes (session.applyAll others) := by
  have first := session.applyAll_eq stamped
  have second := session.applyAll_eq others
  refine ⟨by rw [first, second], by rw [first, second], by rw [first, second],
    fun name => ?_, fun name => ?_⟩
  · simp only [mem_targets_applyAll, same.mem_iff]
  · rw [target_applyAll, target_applyAll]
    refine (TargetRecord.SameButTimes.refl _).after ?_
    rw [map_snd_filter, map_snd_filter, same name]

/-- However late the ends of targets come in, all readings of one run leave sessions that are alike. -/
theorem sameButTimes_of_delays (session : Session) {events : List Event} {stamped others : Stamped}
    (read : Event.Delays events (stamped.map Prod.snd))
    (again : Event.Delays events (others.map Prod.snd)) :
    (session.applyAll stamped).SameButTimes (session.applyAll others) :=
  session.sameButTimes_applyAll fun name =>
    (read.interleave name).trans (again.interleave name).symm

/-- **The record of a run does not depend on how the events of its targets interleave**: sessions
that are filled from any two interleavings of the same events agree on all but times.  What makes it
so is that an event changes no record but that of its own target. -/
theorem record_interleaved (session : Session) {stamped others : Stamped}
    (same : Event.Interleave (stamped.map Prod.snd) (others.map Prod.snd)) :
    (stamped.foldl (fun session (now, event) => session.apply now event) session).SameButTimes
        (others.foldl (fun session (now, event) => session.apply now event) session) ∧
      ∀ now event name, event.target ≠ name →
        (session.apply now event).targets[name]? = session.targets[name]? :=
  ⟨session.sameButTimes_applyAll same, fun now _ _ different =>
    session.getElem?_apply_of_ne now different⟩

end Session

namespace Fork

/-- Two recipes that run side by side, one of which fails. -/
def sideBySide : List Event := [
  .started "one", .started "two", .command "two" 0 "second", .command "one" 0 "first",
  .completed "two", .failed ⟨"one", 0, "first", .exit 1⟩]

/-- The same recipes, one after the other. -/
def inTurn : List Event := [
  .started "one", .command "one" 0 "first", .failed ⟨"one", 0, "first", .exit 1⟩,
  .started "two", .command "two" 0 "second", .completed "two"]

/-- The record of the two recipes, in a session that has planned neither. -/
theorem record_interleaved_fork :
    Event.Interleave ((sideBySide.map (Timestamp.ofFileTime 0, ·)).map Prod.snd)
        ((inTurn.map (Timestamp.ofFileTime 1, ·)).map Prod.snd) ∧
      ((sideBySide.map (Timestamp.ofFileTime 0, ·)).foldl
          (fun session (now, event) => session.apply now event)
          (Session.begin ["both"] ["both"] false (.ofFileTime 0))).SameButTimes
        ((inTurn.map (Timestamp.ofFileTime 1, ·)).foldl
          (fun session (now, event) => session.apply now event)
          (Session.begin ["both"] ["both"] false (.ofFileTime 0))) := by
  have same : Event.Interleave ((sideBySide.map (Timestamp.ofFileTime 0, ·)).map Prod.snd)
      ((inTurn.map (Timestamp.ofFileTime 1, ·)).map Prod.snd) := by
    intro name
    by_cases one : "one" = name
    · subst one
      rfl
    · by_cases two : "two" = name <;>
        simp [Event.about, sideBySide, inTurn, Event.target, one, two]
  exact ⟨same, (Session.record_interleaved _ same).1⟩

end Fork
end TaskRunner
