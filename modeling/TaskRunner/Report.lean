import TaskRunner.Error
import TaskRunner.Plan
/- # TaskRunner.Report -- what became of a run

Every entry of a plan is in one `TargetState`, from pending to one of three terminal states.  A
recipe that fails is described by the line that failed and the cause.  While a run goes on it emits
an `Event` for each step of a target; when it is over, its `Report` lists the outcomes in the order
of the plan and the failures in the order in which they came in. -/

namespace TaskRunner
set_option autoImplicit false

/-- How far an entry of a plan has come. -/
inductive TargetState where
  | pending
  | skipped
  | running
  | succeeded
  | failed
  deriving DecidableEq, Repr, Inhabited

namespace TargetState

/-- Every state, in the order in which they are counted. -/
def all : List TargetState := [pending, skipped, running, succeeded, failed]

/-- The word for a state, in texts and in records. -/
def name : TargetState → String
  | pending => "pending"
  | skipped => "skipped"
  | running => "running"
  | succeeded => "succeeded"
  | failed => "failed"

/-- The state that a word stands for. -/
def ofName? (word : String) : Option TargetState := all.find? (·.name == word)

/-- Whether an entry leaves the state no more. -/
def isTerminal : TargetState → Bool
  | skipped | succeeded | failed => true
  | pending | running => false

/-- Whether what depends on an entry in the state may start. -/
def unblocks : TargetState → Bool
  | skipped | succeeded => true
  | pending | running | failed => false

theorem unblocks_iff (state : TargetState) :
    state.unblocks = true ↔ state = .skipped ∨ state = .succeeded := by
  cases state <;> simp [unblocks]

theorem ofName?_name (state : TargetState) : ofName? state.name = some state := by
  cases state <;> decide

end TargetState

/-- Why a recipe line did not succeed. -/
inductive LineFailure where
  /-- It ended with a status other than zero. -/
  | exit (status : Int)
  /-- A signal ended it. -/
  | signal
  /-- The shell could not be started. -/
  | spawn (reason : String)
  deriving DecidableEq, Repr, Inhabited

/-- The cause in words. -/
def LineFailure.message : LineFailure → String
  | exit status => s!"exited with status {status}"
  | signal => "terminated by signal"
  | spawn reason => s!"could not start shell: {reason}"

/-- A recipe that failed: the line, counted from zero, and the cause. -/
structure TargetFailure where
  target : String
  line : Nat
  command : String
  cause : LineFailure
  deriving DecidableEq, Repr, Inhabited

/-- The failure in words, with the line counted from one. -/
def TargetFailure.message (failure : TargetFailure) : String :=
  s!"target `{failure.target}` failed at recipe line {failure.line + 1} (`{failure.command}`): " ++
    failure.cause.message

/-- The failure that is noted of a target whose recipe has crashed.  The line and the command are made
up: which line it was is not known then. -/
def TargetFailure.ofCrash (error target : String) : TargetFailure := ⟨target, 0, "", .spawn error⟩

/-- One step in the life of a target. -/
inductive Event where
  | started (target : String)
  | command (target : String) (line : Nat) (command : String)
  | skipped (target reason : String)
  | completed (target : String)
  | failed (failure : TargetFailure)
  deriving DecidableEq, Repr, Inhabited

/-- The target that an event is about. -/
def Event.target : Event → String
  | started target | command target _ _ | skipped target _ | completed target => target
  | failed failure => failure.target

/-- What became of one entry of a plan. -/
structure Outcome where
  name : String
  state : TargetState
  /-- The recipe lines with references replaced, for an entry that ran or would run. -/
  commands : List String
  deriving DecidableEq, Repr, Inhabited

/-- What became of a plan. -/
structure Report where
  plan : Plan
  outcomes : List Outcome
  failures : List TargetFailure
  dryRun : Bool
  deriving DecidableEq, Repr, Inhabited

namespace Report

/-- Whether no target failed. -/
def isSuccess (report : Report) : Bool := report.failures.isEmpty

/-- The exit status of a run that ends with this report. -/
def exitStatus (report : Report) : Nat := if report.isSuccess then 0 else failureStatus

/-- The outcome of an entry. -/
def outcome? (report : Report) (name : String) : Option Outcome :=
  report.outcomes.find? (·.name == name)

/-- The state of an entry. -/
def state? (report : Report) (name : String) : Option TargetState :=
  (report.outcome? name).map (·.state)

/-- How many entries are in a state. -/
def count (report : Report) (state : TargetState) : Nat :=
  report.outcomes.countP (·.state == state)

end Report
end TaskRunner
