import Mathlib.Algebra.GroupWithZero.Nat
import Mathlib.Data.List.Nodup
import TaskRunner.Proofs.Keyed
import TaskRunner.Proofs.Plan.Composition
import TaskRunner.Proofs.Project.Validation
import TaskRunner.Proofs.Session.Record
/- # TaskRunner.Proofs.Session.Summary -- how many lines a summary has

The summary of the session of a run is told by the report: a head that counts what is over, and for
each outcome an entry that begins with its state and its name (`Session.summary_eq`).  An entry whose
recipe has crashed is shown as it is recorded, running and without a failure (`Report.asRecorded`).

Only texts that come from outside can hold the end of a line.  The names do not, by assumption; the
command that failed and the reason why can.  So a summary has one line for its head, one for each
entry of the plan, and one more for each line break in a failure (`summary_lines`). -/

namespace TaskRunner
set_option autoImplicit false

/-! ## Lines -/

/-- Whether a text stays on its line. -/
def OneLine (text : String) : Prop := '\n' ∉ text.toList

instance (text : String) : Decidable (OneLine text) := inferInstanceAs (Decidable (_ ∉ _))

/-- How many lines of a text come to their end. -/
def lineCount (text : String) : Nat := text.toList.count '\n'

@[simp] theorem oneLine_append {front back : String} :
    OneLine (front ++ back) ↔ OneLine front ∧ OneLine back := by
  simp [OneLine]

theorem oneLine_toString (n : Nat) : OneLine (toString n) := by
  intro member
  rw [Nat.toString_eq_repr, Nat.toList_repr] at member
  exact absurd (Nat.isDigit_of_mem_toDigits (by decide) (by decide) member) (by decide)

theorem oneLine_intercalate {separator : String} {texts : List String} (apart : OneLine separator)
    (each : ∀ text ∈ texts, OneLine text) : OneLine (separator.intercalate texts) := by
  induction texts with
  | nil => simp [OneLine]
  | cons text rest ih =>
    obtain ⟨here, later⟩ := List.forall_mem_cons.1 each
    cases rest with
    | nil => simpa using here
    | cons next rest => simp [here, apart, ih later]

@[simp] theorem lineCount_append (front back : String) :
    lineCount (front ++ back) = lineCount front + lineCount back := by
  simp [lineCount]

theorem lineCount_eq_zero_iff {text : String} : lineCount text = 0 ↔ OneLine text :=
  List.count_eq_zero

/-- Texts put one under the other have a line each, and those that they have already. -/
theorem lineCount_join (texts : List String) :
    lineCount (String.join (texts.map (· ++ "\n"))) = texts.length + (texts.map lineCount).sum := by
  have ending : lineCount "\n" = 1 := by decide
  induction texts with
  | nil => simp [lineCount]
  | cons text rest ih =>
    simp only [List.map_cons, String.join_cons, lineCount_append, ih, ending, List.length_cons,
      List.sum_cons]
    omega

theorem lineCount_join_of_oneLine {texts : List String} (each : ∀ text ∈ texts, OneLine text) :
    lineCount (String.join (texts.map (· ++ "\n"))) = texts.length := by
  have none : texts.map lineCount = texts.map fun _ => 0 :=
    List.map_congr_left fun text member => lineCount_eq_zero_iff.2 (each text member)
  rw [lineCount_join, none]
  simp

/-! ## Texts that are on one line -/

theorem Timestamp.oneLine_padded (width n : Nat) : OneLine (padded width n) := by
  intro member
  rw [padded, String.toList_ofList, List.mem_append, List.mem_replicate] at member
  rcases member with ⟨-, zero⟩ | digit
  · exact absurd zero (by decide)
  · exact oneLine_toString n digit

theorem Timestamp.oneLine_yearText (year : Int) : OneLine (yearText year) := by
  unfold yearText
  split
  · exact oneLine_padded _ _
  · split <;> exact oneLine_append.2 ⟨by decide, oneLine_padded _ _⟩

theorem Timestamp.oneLine_slug (time : Timestamp) : OneLine time.slug := by
  unfold slug
  refine oneLine_intercalate (show OneLine "-" by decide) ?_
  simp only [List.forall_mem_cons, oneLine_yearText, oneLine_padded, List.not_mem_nil,
    false_implies, implies_true, and_true]

theorem Session.oneLine_padEnd {width : Nat} {text : String} (one : OneLine text) :
    OneLine (padEnd width text) := by
  intro member
  rw [padEnd, String.toList_ofList, List.mem_append, List.mem_replicate] at member
  rcases member with inside | ⟨-, blank⟩
  · exact one inside
  · exact absurd blank (by decide)

/-- How many lines come to their end within the words for a failure, its target apart. -/
def TargetFailure.breaks (failure : TargetFailure) : Nat :=
  lineCount failure.command + lineCount failure.cause.message

theorem TargetFailure.lineCount_message (failure : TargetFailure) :
    lineCount failure.message = lineCount failure.target + failure.breaks := by
  have number := lineCount_eq_zero_iff.2 (oneLine_toString (failure.line + 1))
  have words : ∀ text ∈ ["target `", "` failed at recipe line ", " (`", "`): "],
      lineCount text = 0 := by decide
  simp only [List.forall_mem_cons] at words
  obtain ⟨begins, goes, opens, closes, -⟩ := words
  -- The message is an interpolation; written out, its pieces are seen to be on one line.
  change lineCount ("target `" ++ failure.target ++ "` failed at recipe line " ++
    toString (failure.line + 1) ++ " (`" ++ failure.command ++ "`): " ++ failure.cause.message) = _
  simp only [lineCount_append, number, begins, goes, opens, closes, breaks]
  omega

/-! ## What the report makes of a summary -/

namespace Report

/-- The failure of a target. -/
def failure? (report : Report) (name : String) : Option TargetFailure :=
  report.failures.find? (·.target == name)

/-- The entry of a summary for an outcome. -/
def entry (report : Report) (outcome : Outcome) : String :=
  "  " ++ Session.padEnd Session.stateWidth outcome.state.name ++ " " ++ outcome.name ++
    match report.failure? outcome.name with
    | some failure => " - " ++ failure.message
    | none => ""

/-- How far the run came, in words. -/
def tally (report : Report) : String :=
  " (" ++ toString (report.outcomes.countP (·.state.isTerminal)) ++ "/" ++
    toString report.outcomes.length ++ " finished)"

/-- The head of the summary of a session. -/
def headline (report : Report) (session : Session) : String :=
  "run " ++ session.id ++ (if session.dryRun then " (dry run)" else "") ++ ": " ++
    " ".intercalate session.requested ++ report.tally

/-- How many lines come to their end within the words for the failure of a target. -/
def breaks (report : Report) (name : String) : Nat :=
  ((report.failure? name).map TargetFailure.breaks).getD 0

/-- Whether the failures of a report are those of its failed outcomes, one for each. -/
structure Blames (report : Report) : Prop where
  nodup : (report.failures.map (·.target)).Nodup
  reported : ∀ failure ∈ report.failures, failure.target ∈ report.outcomes.map (·.name)
  failed : ∀ failure ∈ report.failures, ∀ outcome ∈ report.outcomes,
    failure.target = outcome.name → outcome.state = .failed

variable {report : Report} {outcome : Outcome}

theorem Blames.failure?_eq_some_iff (blames : report.Blames) {name : String}
    {failure : TargetFailure} :
    report.failure? name = some failure ↔ failure ∈ report.failures ∧ failure.target = name :=
  Keyed.find?_eq_some_iff TargetFailure.target blames.nodup name failure

/-- Only a failed outcome has a failure. -/
theorem Blames.failure?_eq_none (blames : report.Blames) (member : outcome ∈ report.outcomes)
    (fine : outcome.state ≠ .failed) : report.failure? outcome.name = none := by
  refine Option.eq_none_iff_forall_ne_some.2 fun failure found => ?_
  obtain ⟨noted, same⟩ := blames.failure?_eq_some_iff.1 found
  exact fine (blames.failed failure noted outcome member same)

/-- A report as the record of the run has it, where `lost` are the entries whose recipes have crashed:
they are running, and no failure is known of them. -/
def asRecorded (lost : List String) (report : Report) : Report :=
  { report with
    outcomes := report.outcomes.map fun outcome =>
      if outcome.name ∈ lost then { outcome with state := .running } else outcome
    failures := report.failures.filter fun failure => failure.target ∉ lost }

section AsRecorded

variable (report) (lost : List String)

@[simp] theorem names_asRecorded :
    (report.asRecorded lost).outcomes.map (·.name) = report.outcomes.map (·.name) := by
  simp only [asRecorded, List.map_map]
  refine List.map_congr_left fun outcome _ => ?_
  rw [Function.comp_apply]
  split <;> rfl

@[simp] theorem asRecorded_nil : report.asRecorded [] = report := by
  simp [asRecorded]

/-- What is finished in the record of a run is what is finished, but for what has crashed. -/
theorem countP_asRecorded : (report.asRecorded lost).outcomes.countP (·.state.isTerminal) =
    report.outcomes.countP fun outcome =>
      outcome.state.isTerminal && !lost.contains outcome.name := by
  rw [asRecorded, List.countP_map]
  refine List.countP_congr fun outcome _ => ?_
  by_cases gone : outcome.name ∈ lost <;> simp [gone, TargetState.isTerminal]

variable {report lost}

theorem mem_asRecorded (member : outcome ∈ (report.asRecorded lost).outcomes) :
    ∃ before ∈ report.outcomes, before.name = outcome.name ∧
      (outcome.name ∈ lost ∧ outcome.state = .running ∨
        outcome.name ∉ lost ∧ before = outcome) := by
  obtain ⟨before, inside, rfl⟩ := List.mem_map.1 member
  refine ⟨before, inside, ?_⟩
  split
  · next gone => exact ⟨rfl, .inl ⟨gone, rfl⟩⟩
  · next kept => exact ⟨rfl, .inr ⟨kept, rfl⟩⟩

theorem Blames.asRecorded (blames : report.Blames) : (report.asRecorded lost).Blames where
  nodup := blames.nodup.sublist (List.filter_sublist.map _)
  reported := fun failure noted => by
    rw [names_asRecorded]
    exact blames.reported failure (List.mem_filter.1 noted).1
  failed := by
    intro failure noted outcome member same
    obtain ⟨noted, kept⟩ := List.mem_filter.1 noted
    obtain ⟨before, inside, -, ⟨gone, -⟩ | ⟨-, rfl⟩⟩ := mem_asRecorded member
    · exact absurd gone (same ▸ of_decide_eq_true kept)
    · exact blames.failed failure noted before inside same

end AsRecorded

end Report

/-- The record of an outcome has the words for its failure. -/
theorem TargetRecord.Agrees.error_eq {report : Report} {outcome : Outcome} {record : TargetRecord}
    {lost : List String} (agrees : TargetRecord.Agrees report.failures outcome record)
    (blames : (report.asRecorded lost).Blames)
    (member : outcome ∈ (report.asRecorded lost).outcomes) (kept : outcome.name ∉ lost) :
    record.error = ((report.asRecorded lost).failure? outcome.name).map (·.message) := by
  cases agrees with
  | pending state | skipped state | succeeded state =>
    rw [blames.failure?_eq_none member (by simp [state])]
    rfl
  | @failed state _ _ failure only noted _ =>
    have named : failure.target = outcome.name := (only _ noted).2 rfl
    have shown : failure ∈ (report.asRecorded lost).failures :=
      List.mem_filter.2 ⟨noted, decide_eq_true (named ▸ kept)⟩
    rw [blames.failure?_eq_some_iff.2 ⟨shown, named⟩]
    rfl

namespace Session

variable {session : Session} {plan : Plan} {lost : List String} {report : Report}

/-- What the record of a run says of an entry. -/
theorem Agrees.shows (agrees : session.Agrees plan lost report) (blames : report.Blames)
    {outcome : Outcome} (member : outcome ∈ (report.asRecorded lost).outcomes) :
    (session.target outcome.name).state = outcome.state ∧
      (session.target outcome.name).error =
        ((report.asRecorded lost).failure? outcome.name).map (·.message) := by
  obtain ⟨before, inside, named, ⟨gone, running⟩ | ⟨kept, rfl⟩⟩ := Report.mem_asRecorded member
  · obtain ⟨-, started, count, -, record⟩ := agrees.unended before inside (named ▸ gone)
    rw [← named, record, named,
      blames.asRecorded.failure?_eq_none member (by simp [running]), running]
    exact ⟨rfl, rfl⟩
  · have record := agrees.records before inside kept
    exact ⟨record.state_eq, record.error_eq blames.asRecorded member kept⟩

theorem summaryHead_eq (agrees : session.Agrees plan lost report)
    (whole : session.plan = plan.targets) :
    session.summaryHead = (report.asRecorded lost).headline session ++ "\n" := by
  have length : session.plan.length = (report.asRecorded lost).outcomes.length := by
    rw [whole, ← agrees.names, ← report.names_asRecorded lost, List.length_map]
  unfold summaryHead
  rw [agrees.finished_eq, ← Report.countP_asRecorded, length, Report.headline, Report.tally]
  simp only [String.append_assoc]
  rfl

/-- The summary of a session that agrees with a report. -/
theorem summary_eq (agrees : session.Agrees plan lost report) (blames : report.Blames)
    (whole : session.plan = plan.targets) :
    session.summary = String.join (((report.asRecorded lost).headline session ::
      (report.asRecorded lost).outcomes.map (report.asRecorded lost).entry).map (· ++ "\n")) := by
  have names : (report.asRecorded lost).outcomes.map (·.name) = plan.targets :=
    (report.names_asRecorded lost).trans agrees.names
  rw [summary, summaryHead_eq agrees whole, whole, ← names, List.map_cons,
    String.join_cons, List.map_map, List.map_map]
  congr 2
  refine List.map_congr_left fun outcome member => ?_
  have kept : outcome.name ∈ session.targets :=
    (agrees.mem_iff _).2 (names ▸ List.mem_map_of_mem member)
  have recorded : session.targets[outcome.name]? = some (session.target outcome.name) := by
    obtain ⟨record, found⟩ := Option.isSome_iff_exists.1
      (Std.TreeMap.mem_iff_isSome_getElem?.1 kept)
    rw [target, found]
    rfl
  obtain ⟨state, error⟩ := agrees.shows blames member
  simp only [Function.comp, recorded, summaryLine, Report.entry, state, error]
  cases (report.asRecorded lost).failure? outcome.name <;> rfl

end Session

/-! ## Failures of a run -/

namespace Scheduler

variable {World : Type} {scheduler : Scheduler} {host : Host World} {plan : Plan}
  {origin : World} {report : Report}

theorem blames_of_run (sorted : Plan.Sorted scheduler.registry plan.targets)
    (reported : (scheduler.run host plan origin).1.result = .ok report) : report.Blames := by
  cases runs : scheduler.options.dryRun with
  | false =>
    rw [run_eq_execute runs] at reported
    obtain ⟨-, rfl⟩ := report_of_execute reported
    obtain ⟨reached, final⟩ := loop_reaches scheduler host (.start plan) origin
    have recorded := recorded_of_reaches sorted.nodup reached
    have consistent := consistent_of_sorted sorted reached
    generalize scheduler.loop host (.start plan) origin = last at recorded consistent final ⊢
    have failed : ∀ failure ∈ (close host plan last.1 last.2).ledger.failures,
        (close host plan last.1 last.2).ledger.state failure.target = .failed :=
      fun failure noted => (recorded.failed_close_iff consistent final _).2
        (List.mem_map_of_mem noted)
    refine ⟨recorded.failures_close_nodup consistent final sorted.nodup, fun failure noted => ?_,
      fun failure noted => ?_⟩
    · rw [Ledger.names_report]
      exact consistent.planned_close final (by simp [failed failure noted])
    · refine List.forall_mem_map.2 fun name _ same => ?_
      obtain rfl : failure.target = name := same
      exact failed failure noted
  | true =>
    rw [run_eq_executeDry runs] at reported
    obtain ⟨rehearsal, desk, led, rfl, -⟩ := rehearsal_of_executeDry reported
    have sound : (rehearsal.ledger.report plan true).failures = [] :=
      (chronicled_of_rehearse sorted led).sound
    exact ⟨by simp [sound], by simp [sound], by simp [sound]⟩

end Scheduler

/-! ## Lines of a summary -/

namespace Report

variable {report : Report} {outcome : Outcome}

theorem oneLine_headline {session : Session} (id : OneLine session.id)
    (requested : ∀ root ∈ session.requested, OneLine root) : OneLine (report.headline session) := by
  have dry : OneLine (if session.dryRun then " (dry run)" else "") := by
    cases session.dryRun <;> decide
  have words : OneLine "run " ∧ OneLine ": " ∧ OneLine " (" ∧ OneLine "/" ∧
      OneLine " finished)" := by decide
  have roots := oneLine_intercalate (show OneLine " " by decide) requested
  simp only [headline, tally, oneLine_append, oneLine_toString, id, dry, words, roots, and_self]

/-- The line breaks of an entry are those in the words for its failure. -/
theorem lineCount_entry (blames : report.Blames) (named : OneLine outcome.name) :
    lineCount (report.entry outcome) = report.breaks outcome.name := by
  have front : lineCount ("  " ++ Session.padEnd Session.stateWidth outcome.state.name ++ " " ++
      outcome.name) = 0 := by
    have state : OneLine outcome.state.name := by cases outcome.state <;> decide
    rw [lineCount_eq_zero_iff, oneLine_append, oneLine_append, oneLine_append]
    exact ⟨⟨⟨by decide, Session.oneLine_padEnd state⟩, by decide⟩, named⟩
  rw [entry, lineCount_append, front, breaks, Nat.zero_add]
  cases found : report.failure? outcome.name with
  | none => rfl
  | some failure =>
    have target : lineCount failure.target = 0 := by
      rw [(blames.failure?_eq_some_iff.1 found).2, lineCount_eq_zero_iff]
      exact named
    have dash : lineCount " - " = 0 := by decide
    simp [failure.lineCount_message, target, dash]

/-- The failures of the outcomes are the failures of the report. -/
theorem perm_failures (blames : report.Blames) (distinct : (report.outcomes.map (·.name)).Nodup) :
    ((report.outcomes.map (·.name)).filterMap report.failure?).Perm report.failures := by
  have once : report.failures.Nodup := blames.nodup.of_map _
  have apart : ((report.outcomes.map (·.name)).filterMap report.failure?).Nodup :=
    distinct.filterMap fun first second failure foundFirst foundSecond =>
      (blames.failure?_eq_some_iff.1 foundFirst).2.symm.trans
        (blames.failure?_eq_some_iff.1 foundSecond).2
  -- Neither list has anything twice, so it is enough that they have the same members.
  refine (List.perm_ext_iff_of_nodup apart once).2 fun failure => ?_
  simp only [List.mem_filterMap, blames.failure?_eq_some_iff]
  constructor
  · rintro ⟨name, -, noted, -⟩
    exact noted
  · exact fun noted => ⟨failure.target, blames.reported failure noted, noted, rfl⟩

/-- Added up over the outcomes, the line breaks are those of all failures. -/
theorem sum_breaks (blames : report.Blames) (distinct : (report.outcomes.map (·.name)).Nodup) :
    (report.outcomes.map fun outcome => report.breaks outcome.name).sum =
      (report.failures.map TargetFailure.breaks).sum := by
  have named : ∀ names : List String, (names.map report.breaks).sum =
      ((names.filterMap report.failure?).map TargetFailure.breaks).sum := by
    intro names
    induction names with
    | nil => rfl
    | cons name rest ih =>
      rw [List.map_cons, List.sum_cons, ih, breaks]
      cases found : report.failure? name <;> simp [found]
  rw [← ((perm_failures blames distinct).map _).sum_nat, ← named, List.map_map]
  rfl

end Report

/-- The lines of a head and of entries under one another. -/
theorem Report.lineCount_entries {report : Report} {head : String} (blames : report.Blames)
    (distinct : (report.outcomes.map (·.name)).Nodup) (headline : OneLine head)
    (named : ∀ name ∈ report.outcomes.map (·.name), OneLine name) :
    lineCount (String.join ((head :: report.outcomes.map report.entry).map (· ++ "\n"))) =
      1 + report.outcomes.length + (report.failures.map TargetFailure.breaks).sum := by
  have each : ∀ outcome ∈ report.outcomes,
      lineCount (report.entry outcome) = report.breaks outcome.name := fun outcome member =>
    lineCount_entry blames (named outcome.name (List.mem_map_of_mem member))
  have entries : (report.outcomes.map report.entry).map lineCount =
      report.outcomes.map fun outcome => report.breaks outcome.name := by
    rw [List.map_map]
    refine List.map_congr_left fun outcome member => ?_
    rw [Function.comp_apply, each outcome member]
  rw [lineCount_join, List.map_cons, List.sum_cons, entries, sum_breaks blames distinct,
    lineCount_eq_zero_iff.2 headline, List.length_cons, List.length_map]
  omega

namespace Project

variable {World : Type} {project : Project} {request : Request} {host : Host World}
  {origin : World} {roots : List String} {plan : Plan} {report : Report} {session : Session}

/-- Whether a session is kept of events that are noted one by one, where some may be delayed. -/
def Keeps (roots : List String) (plan : Plan) (request : Request) (events : List Event)
    (session : Session) : Prop :=
  ∃ (stamped : Stamped) (begun ended : Timestamp),
    Event.Delays events (stamped.map Prod.snd) ∧
      session = ((Session.begin roots plan.targets request.dryRun begun).applyAll stamped).finish
        ended

/-- The session that is kept of a run notes its events as they come. -/
theorem keeps_session (begun ended : Timestamp) (events : List Event) :
    Keeps roots plan request events (Project.session roots plan request begun ended events) := by
  refine ⟨events.map (ended, ·), begun, ended, ?_, ?_⟩
  · simpa [Function.comp_def] using Event.Delays.refl
  · rw [Session.applyAll, List.foldl_map]
    rfl

/-- What is planned is declared, and so are the roots of a plan. -/
theorem oneLine_of_planned (named : ∀ target ∈ project.registry.toList, OneLine target.name)
    (planned : project.registry.plan roots = .ok plan) :
    (∀ root ∈ roots, OneLine root) ∧ ∀ name ∈ plan.targets, OneLine name := by
  have declared : ∀ name target, project.registry.get? name = some target → OneLine name := by
    intro name target found
    rw [← Registry.name_of_get? found]
    exact named target (Array.mem_toList_iff.2 (Registry.mem_of_get? found))
  refine ⟨fun root member => ?_, fun name member => ?_⟩
  · have sound := (Plan.plan_eq_ok_iff.1 planned).1 root member
    obtain ⟨target, found⟩ := Option.ne_none_iff_exists'.1 fun unknown => sound (.inl unknown)
    exact declared root target found
  · obtain ⟨target, found⟩ := (Plan.sorted_of_plan planned).declared member
    exact declared name target found

theorem sorted_of_planned (request : Request)
    (planned : project.registry.plan roots = .ok plan) :
    Plan.Sorted (project.scheduler request).registry plan.targets :=
  Plan.sorted_of_plan planned

section Kept

variable (named : ∀ target ∈ project.registry.toList, OneLine target.name)
  (planned : project.registry.plan roots = .ok plan)
  (reported : ((project.scheduler request).run host plan origin).1.result = .ok report)
  (kept : Keeps roots plan request ((project.scheduler request).run host plan origin).1.events
    session)

include planned reported kept

/-- A session that is kept of a run agrees with its report, and says what was asked for. -/
theorem agrees_of_kept :
    session.Agrees plan ((project.scheduler request).lost host plan origin) report ∧
      session.plan = plan.targets ∧ session.requested = roots ∧ OneLine session.id := by
  obtain ⟨stamped, begun, ended, noted, rfl⟩ := kept
  have agrees := Scheduler.agrees_of_run (sorted_of_planned request planned) reported noted roots
    request.dryRun begun
  rw [Session.applyAll_eq] at agrees ⊢
  exact ⟨agrees.finish ended, rfl, rfl, begun.oneLine_slug⟩

include named

/-- The summary of a run with what is recorded of it, and the number of its lines. -/
theorem lineCount_summary_of_kept :
    let shown := report.asRecorded ((project.scheduler request).lost host plan origin)
    session.summary = String.join
        ((shown.headline session :: shown.outcomes.map shown.entry).map (· ++ "\n")) ∧
      shown.Blames ∧ shown.outcomes.map (·.name) = plan.targets ∧
      OneLine (shown.headline session) ∧
      lineCount session.summary =
        1 + plan.targets.length + (shown.failures.map TargetFailure.breaks).sum := by
  intro shown
  obtain ⟨agrees, whole, requested, id⟩ := agrees_of_kept planned reported kept
  obtain ⟨roots, targets⟩ := oneLine_of_planned named planned
  have sorted := sorted_of_planned request planned
  have blames := Scheduler.blames_of_run sorted reported
  have text := Session.summary_eq agrees blames whole
  have names : shown.outcomes.map (·.name) = plan.targets :=
    (report.names_asRecorded _).trans agrees.names
  have headline : OneLine (shown.headline session) := shown.oneLine_headline id (requested ▸ roots)
  have length : shown.outcomes.length = plan.targets.length := by rw [← names, List.length_map]
  refine ⟨text, blames.asRecorded, names, headline, ?_⟩
  rw [text, ← length]
  exact Report.lineCount_entries blames.asRecorded (names ▸ sorted.nodup) headline
    (names ▸ targets)

/-- **A summary has a line for its head, one for each entry of the plan, and one more for each line
break in a failure.**  The head counts what is over, and the entries begin with the state and the
name of the outcomes, in the order of the plan; all this as it is recorded. -/
theorem summary_lines :
    let shown := report.asRecorded ((project.scheduler request).lost host plan origin)
    session.summary = String.join
        ((shown.headline session :: shown.outcomes.map shown.entry).map (· ++ "\n")) ∧
      shown.outcomes.map (·.name) = plan.targets ∧
      OneLine (shown.headline session) ∧
      (∀ outcome ∈ shown.outcomes,
        lineCount (shown.entry outcome) = shown.breaks outcome.name) ∧
      lineCount session.summary =
        1 + plan.targets.length + (shown.failures.map TargetFailure.breaks).sum := by
  intro shown
  obtain ⟨text, blames, names, headline, count⟩ :=
    lineCount_summary_of_kept named planned reported kept
  refine ⟨text, names, headline, fun outcome member => ?_, count⟩
  have inside : outcome.name ∈ plan.targets := names ▸ List.mem_map_of_mem member
  exact Report.lineCount_entry blames ((oneLine_of_planned named planned).2 _ inside)

end Kept
end Project

/-! ## A recipe line of two lines -/

namespace Script

def build : Target := { name := "build", recipe := ["true\nfalse"] }

/-- A Runfile with a recipe line that goes over two lines. -/
def runfile : Runfile where
  targets := [{ name := "build", recipe := ["true\nfalse"] }]

def plan : Plan := ⟨["build"]⟩

def request : Request := { targets := ["build"] }

/-- A host on which every recipe line fails. -/
def host : Host Unit where
  times _ _ := none
  print _ world := world
  echo _ world := (none, world)
  start _ _ world := world
  await _ world := (some (.exit 1), world)
  choose _ _ world := (none, world)

/-- The state in which the run ends. -/
def halted : Run := .cutShort "build" "true\nfalse" [] (.exit 1)

theorem loads_runfile : ∃ project, Project.ofRunfile runfile "." [] = .ok project ∧
    project.registry.toList = [build] ∧
    project.table.substituteAll ["true\nfalse"] = .ok ["true\nfalse"] := by
  have fine : Project.mistakes (Project.tableOf runfile []) runfile = [] := by decide +kernel
  obtain ⟨project, loaded⟩ : ∃ project, Project.ofRunfile runfile "." [] = .ok project := by
    rw [← Variable.refusal?_eq_none_iff, Project.refusal?_ofRunfile, fine]
    rfl
  have assembled := Project.assembled_of_loaded loaded
  refine ⟨project, loaded, ?_, ?_⟩
  · obtain ⟨made, others, described, rest, same⟩ := List.forall₂_cons_left_iff.1 assembled.targets
    cases rest
    obtain ⟨name, prerequisites, recipe, description, outputs, phony⟩ := described
    rw [same, List.singleton_inj]
    cases made
    cases outputs
    simp_all [build]
  · rw [assembled.final]
    cbv

section Steps

variable {project : Project} (declared : project.registry.toList = [build])
  (expanded : project.table.substituteAll ["true\nfalse"] = .ok ["true\nfalse"])

include declared in
theorem get?_registry : project.registry.get? "build" = some build := by
  refine (project.registry.get?_eq_some_iff "build" build).2 ⟨?_, rfl⟩
  have member : build ∈ project.registry.toList := by simp [declared]
  exact Array.mem_toList_iff.1 member

include declared in
theorem plan_registry : project.registry.plan ["build"] = .ok plan := by
  have found := get?_registry declared
  simp only [build] at found
  simp [Registry.plan, Plan.visit, plan, found, Plan.walk_of_over, Plan.walk_of_looked, bind,
    Except.bind, pure, Except.pure]

include declared expanded in
/-- The one recipe of the plan starts at once. -/
theorem opens : (project.scheduler request).Opens host plan build "true\nfalse" [] where
  order := rfl
  found := get?_registry declared
  free := rfl
  due := rfl
  works := rfl
  expanded
  alone := rfl
  calm := fun _ _ _ => rfl

include declared expanded in
theorem run_plan : ((project.scheduler request).run host plan ()).1.result =
    .ok (halted.ledger.report plan false) := by
  rw [Scheduler.run_eq_execute rfl]
  exact (opens declared expanded).result_of_failure rfl rfl rfl

end Steps

/-- The run of the Runfile that is loaded, in which nothing crashes. -/
theorem run_runfile : ∃ project, Project.ofRunfile runfile "." [] = .ok project ∧
    (∀ target ∈ project.registry.toList, OneLine target.name) ∧
    project.registry.plan ["build"] = .ok plan ∧
    ((project.scheduler request).run host plan ()).1.result =
      .ok (halted.ledger.report plan false) ∧
    (project.scheduler request).lost host plan () = [] := by
  obtain ⟨project, loaded, declared, expanded⟩ := loads_runfile
  have planned := plan_registry declared
  have sorted := Project.sorted_of_planned request planned
  refine ⟨project, loaded, ?_, planned, run_plan declared expanded,
    Scheduler.lost_eq_nil_of_prints sorted (Scheduler.prints_of_echo fun _ _ _ => rfl)⟩
  rw [declared]
  decide

/-- The summary of one entry ends three lines. -/
theorem summary_lines_script : ∃ project, Project.ofRunfile runfile "." [] = .ok project ∧
    (∀ target ∈ project.registry.toList, OneLine target.name) ∧
    project.registry.plan ["build"] = .ok plan ∧
    ((project.scheduler request).run host plan ()).1.result =
      .ok (halted.ledger.report plan false) ∧
    ∀ begun ended, lineCount (Project.session ["build"] plan request begun ended
      ((project.scheduler request).run host plan ()).1.events).summary = 3 := by
  obtain ⟨project, loaded, named, planned, reported, none⟩ := run_runfile
  refine ⟨project, loaded, named, planned, reported, fun begun ended => ?_⟩
  obtain ⟨-, -, -, -, count⟩ :=
    Project.summary_lines named planned reported (Project.keeps_session begun ended _)
  rw [count, none, Report.asRecorded_nil]
  decide

/-- The line that failed is shown as it is, so a summary need not be one line for each entry. -/
theorem summary_overflows : ∃ project, Project.ofRunfile runfile "." [] = .ok project ∧
    (∀ target ∈ project.registry.toList, OneLine target.name) ∧
    project.plan request.targets = .ok plan ∧
    ((project.scheduler request).run host plan ()).1.result =
      .ok (halted.ledger.report plan false) ∧
    ∀ begun ended, ¬ ∃ lines : List String, (∀ line ∈ lines, OneLine line) ∧
      lines.length = 1 + plan.targets.length ∧
      (Project.session ["build"] plan request begun ended
        ((project.scheduler request).run host plan ()).1.events).summary =
          String.join (lines.map (· ++ "\n")) := by
  obtain ⟨project, loaded, named, planned, reported, none⟩ := run_runfile
  refine ⟨project, loaded, named, planned, reported, fun begun ended => ?_⟩
  rintro ⟨lines, each, length, text⟩
  obtain ⟨-, -, -, -, count⟩ := Project.lineCount_summary_of_kept named planned reported
    (Project.keeps_session begun ended _)
  rw [text, lineCount_join_of_oneLine each, length, none, Report.asRecorded_nil] at count
  exact absurd count (by decide)

end Script
end TaskRunner
