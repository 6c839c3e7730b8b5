import TaskRunner.Proofs.Json.RoundTrip
import TaskRunner.Proofs.Session.Record
import TaskRunner.Proofs.Timestamp
import TaskRunner.Session.Encoding
/- # TaskRunner.Proofs.Session.Encoding -- a session is read from its text

What a session says is all in its text (`decode?_encode`): every name, command and error, whatever
characters it has, every state, and every point in time of a year that four digits write.

The records of targets are kept in a tree, which has one shape for many orders of insertion.  Reading
inserts them by name and need not come to the same tree, but it comes to the same records (`Alike`).

The session of a run notes no times but those of its events, so a run in such years leaves a session
that is all in its text (`timely_of_run`). -/

namespace TaskRunner
set_option autoImplicit false

open Timestamp (Ordinary)

/-- Whether the points in time of a record can be written. -/
structure TargetRecord.Timely (record : TargetRecord) : Prop where
  started : ∀ time ∈ record.started, Ordinary time
  ended : ∀ time ∈ record.ended, Ordinary time

namespace Session

/-- Whether all points in time of a session can be written. -/
structure Timely (session : Session) : Prop where
  startedAt : Ordinary session.startedAt
  endedAt : ∀ time ∈ session.endedAt, Ordinary time
  targets : ∀ (name : String) (record : TargetRecord), session.targets[name]? = some record →
    record.Timely

/-- Whether two sessions say the same, with the same records under the same names. -/
structure Alike (session other : Session) : Prop where
  id : session.id = other.id
  requested : session.requested = other.requested
  plan : session.plan = other.plan
  dryRun : session.dryRun = other.dryRun
  startedAt : session.startedAt = other.startedAt
  endedAt : session.endedAt = other.endedAt
  targets : session.targets.toList = other.targets.toList

/-! ## Single values -/

theorem timestamp?_text {time : Timestamp} (ordinary : Ordinary time) :
    timestamp? (.string time.text) = some time := by
  rw [timestamp?, Json.string?, Option.bind_some, ordinary.parse?_text]

theorem strings?_ofStrings (texts : List String) :
    (Json.ofStrings texts).strings? = some texts := by
  rw [Json.ofStrings, Json.strings?]
  induction texts with
  | nil => rfl
  | cons text texts ih => rw [List.map_cons, List.mapM_cons, ih]; rfl

theorem required?_found {α : Type} {read : Json → Option α} {fields : List (String × Json)}
    {name : String} {content : Json} {value : α} (found : fields.lookup name = some content)
    (reads : read content = some value) : required? read fields name = some value := by
  rw [required?, found, Option.bind_some, reads]

theorem optional?_ofTime {fields : List (String × Json)} {name : String} {time : Option Timestamp}
    (found : fields.lookup name = some (TargetRecord.ofTime time))
    (ordinary : ∀ moment ∈ time, Ordinary moment) :
    optional? timestamp? fields name = some time := by
  rw [optional?, found]
  cases time with
  | none => rfl
  | some moment =>
    simp only [TargetRecord.ofTime, timestamp?_text (ordinary moment rfl), Option.map_some]

theorem optional?_ofString? {fields : List (String × Json)} {name : String} {text : Option String}
    (found : fields.lookup name = some (.ofString? text)) :
    optional? Json.string? fields name = some text := by
  rw [optional?, found]
  cases text <;> rfl

theorem state?_name (state : TargetState) : state? (.string state.name) = some state :=
  TargetState.ofName?_name state

/-! ## Records and sessions -/

/-- A record is read from what is written of it. -/
theorem targetRecord?_toJson {record : TargetRecord} (timely : record.Timely) :
    targetRecord? record.toJson = some record := by
  have fields : fields? ["state", "started", "ended", "commands", "error"] record.toJson =
      some [("state", .string record.state.name),
        ("started", TargetRecord.ofTime record.started),
        ("ended", TargetRecord.ofTime record.ended),
        ("commands", .ofStrings record.commands),
        ("error", .ofString? record.error)] := by
    rfl
  rw [targetRecord?, fields]
  simp only [Option.bind_eq_bind, Option.bind_some]
  rw [required?_found rfl (state?_name record.state), optional?_ofTime rfl timely.started,
    optional?_ofTime rfl timely.ended, required?_found rfl (strings?_ofStrings record.commands),
    optional?_ofString? rfl]
  rfl

/-- Records are read from what is written of them, one after the other. -/
theorem targets?_object {entries : List (String × TargetRecord)}
    (timely : ∀ entry ∈ entries, entry.2.Timely) :
    targets? (.object (entries.map fun entry => (entry.1, entry.2.toJson))) =
      some (entries.foldl (fun targets entry => targets.insert entry.1 entry.2) {}) := by
  have from_any : ∀ targets : Std.TreeMap String TargetRecord,
      (entries.map fun entry => (entry.1, entry.2.toJson)).foldlM
        (fun targets field => (targetRecord? field.2).map (targets.insert field.1 ·)) targets =
        some (entries.foldl (fun targets entry => targets.insert entry.1 entry.2) targets) := by
    induction entries with
    | nil => exact fun _ => rfl
    | cons entry entries ih =>
      intro targets
      rw [List.map_cons, List.foldlM_cons, List.foldl_cons]
      simp only [targetRecord?_toJson (timely entry List.mem_cons_self), Option.map_some,
        Option.bind_eq_bind, Option.bind_some]
      exact ih (fun other member => timely other (List.mem_cons_of_mem _ member)) _
  exact from_any {}

/-- A tree that is made of the entries of a tree has the same entries. -/
theorem toList_foldl_insert (targets : Std.TreeMap String TargetRecord) :
    (targets.toList.foldl (fun targets entry => targets.insert entry.1 entry.2)
      ({} : Std.TreeMap String TargetRecord)).toList = targets.toList := by
  have made : (Std.TreeMap.ofList targets.toList compare).Equiv
      (targets.toList.foldl (fun targets entry => targets.insert entry.1 entry.2) {}) :=
    Std.TreeMap.ofList_equiv_foldl
  have same : (Std.TreeMap.ofList targets.toList compare).Equiv targets := by
    refine .of_forall_constGet?_eq fun name => ?_
    cases found : targets[name]? with
    | some record =>
      exact Std.TreeMap.getElem?_ofList_of_mem Std.ReflCmp.compare_self
        Std.TreeMap.distinct_keys_toList (Std.TreeMap.mem_toList_iff_getElem?_eq_some.2 found)
    | none =>
      refine Std.TreeMap.getElem?_ofList_of_contains_eq_false ?_
      rw [Bool.eq_false_iff, ne_eq, List.contains_iff_mem, List.mem_map]
      rintro ⟨⟨other, record⟩, member, rfl⟩
      rw [Std.TreeMap.mem_toList_iff_getElem?_eq_some, found] at member
      cases member
  exact (made.symm.trans same).toList_eq

theorem ofJson?_toJson {session : Session} (timely : session.Timely) :
    ∃ loaded, ofJson? session.toJson = some loaded ∧ loaded.Alike session := by
  have fields : fields? ["id", "requested", "plan", "dry_run", "started_at", "ended_at", "targets"]
      session.toJson = some [
        ("id", .string session.id),
        ("requested", .ofStrings session.requested),
        ("plan", .ofStrings session.plan),
        ("dry_run", .bool session.dryRun),
        ("started_at", .string session.startedAt.text),
        ("ended_at", TargetRecord.ofTime session.endedAt),
        ("targets",
          .object (session.targets.toList.map fun entry => (entry.1, entry.2.toJson)))] := by
    rfl
  have records : ∀ entry ∈ session.targets.toList, entry.2.Timely := fun entry member =>
    timely.targets entry.1 entry.2 (Std.TreeMap.mem_toList_iff_getElem?_eq_some.1 member)
  rw [ofJson?, fields]
  simp only [Option.bind_eq_bind, Option.bind_some]
  rw [required?_found rfl (show Json.string? (.string session.id) = some session.id from rfl),
    required?_found rfl (strings?_ofStrings session.requested),
    required?_found rfl (strings?_ofStrings session.plan),
    required?_found rfl (show Json.bool? (.bool session.dryRun) = some session.dryRun from rfl),
    required?_found rfl (timestamp?_text timely.startedAt), optional?_ofTime rfl timely.endedAt,
    required?_found rfl (targets?_object records)]
  exact ⟨_, rfl, rfl, rfl, rfl, rfl, rfl, rfl, toList_foldl_insert session.targets⟩

theorem textual_ofTime (time : Option Timestamp) : (TargetRecord.ofTime time).Textual := by
  cases time with
  | none => exact .null
  | some moment => exact .string _

theorem textual_ofString? (text : Option String) : (Json.ofString? text).Textual := by
  cases text with
  | none => exact .null
  | some text => exact .string _

theorem textual_ofStrings (texts : List String) : (Json.ofStrings texts).Textual := by
  refine .array fun item member => ?_
  obtain ⟨text, -, rfl⟩ := List.mem_map.1 member
  exact .string text

theorem textual_record (record : TargetRecord) : record.toJson.Textual := by
  refine .object ?_
  simp only [List.forall_mem_cons]
  exact ⟨.string _, textual_ofTime _, textual_ofTime _, textual_ofStrings _, textual_ofString? _,
    by simp⟩

theorem textual_toJson (session : Session) : session.toJson.Textual := by
  refine .object ?_
  simp only [List.forall_mem_cons]
  refine ⟨.string _, textual_ofStrings _, textual_ofStrings _, .bool _, .string _, textual_ofTime _,
    .object fun field member => ?_, by simp⟩
  obtain ⟨entry, -, rfl⟩ := List.mem_map.1 member
  exact textual_record entry.2

/-- **A session is read from its text.** -/
theorem decode?_encode {session : Session} (timely : session.Timely) :
    ∃ loaded, decode? session.encode = some loaded ∧ loaded.Alike session := by
  rw [decode?, encode, Json.parse?_pretty session.textual_toJson, Option.bind_some]
  exact ofJson?_toJson timely

/-! ## The session of a run -/

variable {session : Session} {now : Timestamp}

theorem timely_record {record : TargetRecord} (timely : record.Timely) (ordinary : Ordinary now)
    (event : Event) : (Session.record now event record).Timely := by
  obtain ⟨started, ended⟩ := timely
  cases event with
  | started | completed | failed => constructor <;> simpa [Session.record]
  | command | skipped => exact ⟨started, ended⟩

theorem timely_begin (requested plan : List String) (dryRun : Bool) (ordinary : Ordinary now) :
    (begin requested plan dryRun now).Timely where
  startedAt := ordinary
  endedAt := by simp [begin]
  targets name record found := by
    rw [targets_begin] at found
    split at found
    · cases found
      exact ⟨by simp, by simp⟩
    · cases found

theorem Timely.apply (timely : session.Timely) (ordinary : Ordinary now) (event : Event) :
    (session.apply now event).Timely where
  startedAt := timely.startedAt
  endedAt := timely.endedAt
  targets name record found := by
    have old : (session.target event.target).Timely := by
      unfold target
      cases held : session.targets[event.target]? with
      | none => exact ⟨by simp, by simp⟩
      | some record => exact timely.targets _ record held
    rw [Session.apply, Std.TreeMap.getElem?_insert] at found
    split at found
    · cases found
      exact timely_record old ordinary event
    · exact timely.targets name record found

theorem Timely.applyAll (timely : session.Timely) {stamped : Stamped}
    (ordinary : ∀ stamp ∈ stamped, Ordinary stamp.1) : (session.applyAll stamped).Timely := by
  induction stamped generalizing session with
  | nil => exact timely
  | cons stamp stamped ih =>
    exact ih (timely.apply (ordinary stamp List.mem_cons_self) stamp.2) fun other member =>
      ordinary other (List.mem_cons_of_mem _ member)

/-- A run leaves a session that can be written, if its times can be. -/
theorem timely_of_run (requested plan : List String) (dryRun : Bool) {begun ended : Timestamp}
    {stamped : Stamped} (first : Ordinary begun) (ordinary : ∀ stamp ∈ stamped, Ordinary stamp.1)
    (last : Ordinary ended) :
    (((begin requested plan dryRun begun).applyAll stamped).finish ended).Timely := by
  obtain ⟨startedAt, -, targets⟩ := (timely_begin requested plan dryRun first).applyAll ordinary
  exact ⟨startedAt, by simpa [finish] using last, targets⟩

end Session
end TaskRunner
