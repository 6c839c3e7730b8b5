import TaskRunner.Json.Parser
import TaskRunner.Json.Printer
import TaskRunner.Session
/- # TaskRunner.Session.Encoding -- sessions as JSON

A session is an object with its fields in a fixed order, and so is the record of a target.  Reading
does not mind the order, fields that it does not know, and optional fields that are left out; a
field of either record must not be there twice.  Both may also be written as arrays of the values of
all their fields. -/

namespace TaskRunner
set_option autoImplicit false

/-! ## Writing -/

namespace TargetRecord

def ofTime : Option Timestamp → Json
  | some time => .string time.text
  | none => .null

/-- The record of a target as JSON. -/
def toJson (record : TargetRecord) : Json := .object [
  ("state", .string record.state.name),
  ("started", ofTime record.started),
  ("ended", ofTime record.ended),
  ("commands", .ofStrings record.commands),
  ("error", .ofString? record.error)]

end TargetRecord

namespace Session

/-- A session as JSON. -/
def toJson (session : Session) : Json := .object [
  ("id", .string session.id),
  ("requested", .ofStrings session.requested),
  ("plan", .ofStrings session.plan),
  ("dry_run", .bool session.dryRun),
  ("started_at", .string session.startedAt.text),
  ("ended_at", TargetRecord.ofTime session.endedAt),
  ("targets", .object (session.targets.toList.map fun (name, record) => (name, record.toJson)))]

/-- The text of a session. -/
def encode (session : Session) : String := session.toJson.pretty

/-! ## Reading -/

/-- The values of named fields: from an array, which has exactly one for each, or from an object, in
which none of them is there twice. -/
def fields? (names : List String) : Json → Option (List (String × Json))
  | .array items => if items.length == names.length then some (names.zip items) else none
  | .object fields =>
    let known := fields.filter fun (name, _) => names.contains name
    if (known.map (·.1)).Nodup then some known else none
  | _ => none

/-- The content of a field that may be null or left out. -/
def optional? {α : Type} (read : Json → Option α) (fields : List (String × Json))
    (name : String) : Option (Option α) :=
  match fields.lookup name with
  | none | some .null => some none
  | some content => (read content).map some

/-- The content of a field that must be there. -/
def required? {α : Type} (read : Json → Option α) (fields : List (String × Json))
    (name : String) : Option α :=
  (fields.lookup name).bind read

def timestamp? (content : Json) : Option Timestamp := content.string?.bind Timestamp.parse?

/-- A state: its word, alone or as the only field of an object that holds null. -/
def state? : Json → Option TargetState
  | .string word => TargetState.ofName? word
  | .object [(word, .null)] => TargetState.ofName? word
  | _ => none

/-- The record of a target that a value holds. -/
def targetRecord? (content : Json) : Option TargetRecord := do
  let fields ← fields? ["state", "started", "ended", "commands", "error"] content
  return {
    state := ← required? state? fields "state"
    started := ← optional? timestamp? fields "started"
    ended := ← optional? timestamp? fields "ended"
    commands := ← required? Json.strings? fields "commands"
    error := ← optional? Json.string? fields "error" }

/-- The records of targets that an object holds; the last one of a name counts. -/
def targets? : Json → Option (Std.TreeMap String TargetRecord)
  | .object fields =>
    fields.foldlM
      (fun targets (name, content) => (targetRecord? content).map (targets.insert name ·)) {}
  | _ => none

/-- The session that a value holds. -/
def ofJson? (content : Json) : Option Session := do
  let fields ← fields?
    ["id", "requested", "plan", "dry_run", "started_at", "ended_at", "targets"] content
  return {
    id := ← required? Json.string? fields "id"
    requested := ← required? Json.strings? fields "requested"
    plan := ← required? Json.strings? fields "plan"
    dryRun := ← required? Json.bool? fields "dry_run"
    startedAt := ← required? timestamp? fields "started_at"
    endedAt := ← optional? timestamp? fields "ended_at"
    targets := ← required? targets? fields "targets" }

/-- The session that a text holds. -/
def decode? (text : String) : Option Session := (Json.parse? text).bind ofJson?

end Session
end TaskRunner
