import Std.Data.TreeMap
import TaskRunner.Report
import TaskRunner.Timestamp
/- # TaskRunner.Session -- the record of a run

A session says what was requested and planned, and of each entry of the plan what became of it.  It
is filled by the events of the run, one after the other; each event changes the record of its own
target alone. -/

namespace TaskRunner
set_option autoImplicit false

/-- What became of one target. -/
structure TargetRecord where
  state : TargetState := .pending
  started : Option Timestamp := none
  ended : Option Timestamp := none
  commands : List String := []
  error : Option String := none
  deriving DecidableEq, Repr, Inhabited

/-- The record of a run. -/
structure Session where
  id : String
  requested : List String
  plan : List String
  dryRun : Bool
  startedAt : Timestamp
  endedAt : Option Timestamp
  targets : Std.TreeMap String TargetRecord

namespace Session

/-- The record of a run that begins now, with every entry of its plan pending.  The clock is read for
the name of the record and read again for the beginning of the run; one reading stands for both
here, so the time between the two is left out. -/
def begin (requested plan : List String) (dryRun : Bool) (now : Timestamp) : Session where
  id := now.slug
  requested
  plan
  dryRun
  startedAt := now
  endedAt := none
  targets := plan.foldl (fun targets name => targets.insert name {}) {}

/-- The record of a target, pending if there is none. -/
def target (session : Session) (name : String) : TargetRecord := (session.targets[name]?).getD {}

/-- What an event makes of the record of its target. -/
def record (now : Timestamp) (event : Event) (record : TargetRecord) : TargetRecord :=
  match event with
  | .started _ => { record with state := .running, started := some now }
  | .command _ _ command => { record with commands := record.commands ++ [command] }
  | .skipped _ _ => { record with state := .skipped, error := none }
  | .completed _ => { record with state := .succeeded, ended := some now }
  | .failed failure =>
    { record with state := .failed, ended := some now, error := some failure.message }

/-- The session after one more event. -/
def apply (session : Session) (now : Timestamp) (event : Event) : Session :=
  { session with
    targets := session.targets.insert event.target
      (record now event (session.target event.target)) }

/-- The session when the run is over. -/
def finish (session : Session) (now : Timestamp) : Session := { session with endedAt := some now }

/-- How many targets are in a terminal state. -/
def finished (session : Session) : Nat :=
  session.targets.toList.countP fun (_, record) => record.state.isTerminal

/-! ## Summary -/

/-- A text with blanks behind it, up to a width. -/
def padEnd (width : Nat) (text : String) : String :=
  String.ofList (text.toList ++ List.replicate (width - text.length) ' ')

/-- How wide the column of states is. -/
def stateWidth : Nat := 10

/-- The first line of a summary. -/
def summaryHead (session : Session) : String :=
  "run " ++ session.id ++ (if session.dryRun then " (dry run)" else "") ++ ": " ++
    " ".intercalate session.requested ++ " (" ++ toString session.finished ++ "/" ++
    toString session.plan.length ++ " finished)\n"

/-- The line of a summary that is about one target. -/
def summaryLine (name : String) (record : TargetRecord) : String :=
  "  " ++ padEnd stateWidth record.state.name ++ " " ++ name ++
    (match record.error with
      | some error => " - " ++ error
      | none => "") ++ "\n"

/-- The session in words: how far the run came, and a line for each recorded entry of the plan. -/
def summary (session : Session) : String :=
  session.summaryHead ++ String.join (session.plan.map fun name =>
    match session.targets[name]? with
    | some record => summaryLine name record
    | none => "")

end Session
end TaskRunner
