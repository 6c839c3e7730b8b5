import Std.Data.HashMap
import TaskRunner.Report
/- # TaskRunner.Execution.Ledger -- what is known of each entry of a plan

The ledger of a run holds the state of each entry, the commands of those whose recipe was started,
the entries that are withheld for good, and the failures so far.  An entry may start when all of its
prerequisites unblock it; it is withheld when one of them failed or is withheld itself. -/

namespace TaskRunner
set_option autoImplicit false

/-- Whether an entry may start. -/
inductive Readiness where
  | ready
  | waiting
  /-- It never may, because of a prerequisite. -/
  | withheld (prerequisite : String)
  deriving DecidableEq, Repr

/-- What is known of the entries of a plan. -/
structure Ledger where
  states : Std.HashMap String TargetState := {}
  commands : Std.HashMap String (List String) := {}
  withheld : List String := []
  /-- The failures in the order in which they came in. -/
  failures : List TargetFailure := []

namespace Ledger

/-- The ledger before anything has happened: every entry is pending. -/
def empty : Ledger := {}

/-- The state of an entry. -/
def state (ledger : Ledger) (name : String) : TargetState :=
  ledger.states[name]?.getD .pending

/-- The commands of an entry whose recipe was started, and none otherwise. -/
def linesOf (ledger : Ledger) (name : String) : List String :=
  ledger.commands[name]?.getD []

def setState (ledger : Ledger) (name : String) (state : TargetState) : Ledger :=
  { ledger with states := ledger.states.insert name state }

def setCommands (ledger : Ledger) (name : String) (commands : List String) : Ledger :=
  { ledger with commands := ledger.commands.insert name commands }

def withhold (ledger : Ledger) (name : String) : Ledger :=
  { ledger with withheld := name :: ledger.withheld }

/-- Notes how the recipe of an entry ended. -/
def finish (ledger : Ledger) (name : String) (failure : Option TargetFailure) : Ledger :=
  match failure with
  | none => ledger.setState name .succeeded
  | some failure =>
    { ledger.setState name .failed with failures := ledger.failures ++ [failure] }

/-- Notes of some entries that their recipes have crashed. -/
def noteCrashes (ledger : Ledger) (error : String) (names : List String) : Ledger :=
  names.foldl (fun ledger name => ledger.finish name (some (.ofCrash error name))) ledger

@[simp] theorem state_empty (name : String) : empty.state name = .pending := by
  simp [empty, state]

theorem state_setState (ledger : Ledger) (name other : String) (state : TargetState) :
    (ledger.setState name state).state other = if name = other then state else ledger.state other := by
  by_cases h : name = other <;> simp [setState, Ledger.state, Std.HashMap.getElem?_insert, h]

@[simp] theorem withheld_empty : empty.withheld = [] := rfl

@[simp] theorem linesOf_empty (name : String) : empty.linesOf name = [] := by
  simp [empty, linesOf]

theorem linesOf_setCommands (ledger : Ledger) (name other : String) (commands : List String) :
    (ledger.setCommands name commands).linesOf other =
      if name = other then commands else ledger.linesOf other := by
  by_cases h : name = other <;> simp [setCommands, linesOf, Std.HashMap.getElem?_insert, h]

/-- Whether a prerequisite can never unblock what depends on it. -/
def isLost (ledger : Ledger) (name : String) : Bool :=
  ledger.withheld.contains name || ledger.state name == .failed

/-- Whether a target may start: the first lost prerequisite decides, and otherwise all of them
must unblock it. -/
def readiness (ledger : Ledger) (target : Target) : Readiness :=
  match target.prerequisites.find? ledger.isLost with
  | some name => .withheld name
  | none =>
    if target.prerequisites.all fun name => (ledger.state name).unblocks then .ready else .waiting

theorem isLost_iff (ledger : Ledger) (name : String) :
    ledger.isLost name = true ↔ name ∈ ledger.withheld ∨ ledger.state name = .failed := by
  simp [isLost]

/-- Where no prerequisite is lost, all of them together settle whether a target may start. -/
theorem readiness_of_kept {ledger : Ledger} {target : Target}
    (kept : ∀ name ∈ target.prerequisites, ledger.isLost name = false) :
    ledger.readiness target =
      if target.prerequisites.all fun name => (ledger.state name).unblocks then .ready
      else .waiting := by
  have none : target.prerequisites.find? ledger.isLost = none := by
    simpa [List.find?_eq_none] using kept
  rw [readiness, none]

theorem kept_of_readiness {ledger : Ledger} {target : Target}
    (stays : ∀ name, ledger.readiness target ≠ .withheld name) :
    ∀ name ∈ target.prerequisites, ledger.isLost name = false := by
  cases found : target.prerequisites.find? ledger.isLost with
  | some name => exact absurd (by rw [readiness, found]) (stays name)
  | none => simpa [List.find?_eq_none] using found

theorem readiness_eq_ready_iff (ledger : Ledger) (target : Target) :
    ledger.readiness target = .ready ↔
      (∀ name ∈ target.prerequisites, ledger.isLost name = false) ∧
        ∀ name ∈ target.prerequisites, (ledger.state name).unblocks = true := by
  constructor
  · intro ready
    have kept : ∀ name ∈ target.prerequisites, ledger.isLost name = false :=
      kept_of_readiness fun name => by simp [ready]
    exact ⟨kept, by simpa [readiness_of_kept kept] using ready⟩
  · rintro ⟨kept, unblocked⟩
    simpa [readiness_of_kept kept] using unblocked

theorem readiness_eq_waiting_iff (ledger : Ledger) (target : Target) :
    ledger.readiness target = .waiting ↔
      (∀ name ∈ target.prerequisites, ledger.isLost name = false) ∧
        ∃ name ∈ target.prerequisites, (ledger.state name).unblocks = false := by
  constructor
  · intro waits
    have kept : ∀ name ∈ target.prerequisites, ledger.isLost name = false :=
      kept_of_readiness fun name => by simp [waits]
    exact ⟨kept, by simpa [readiness_of_kept kept] using waits⟩
  · rintro ⟨kept, blocked⟩
    simpa [readiness_of_kept kept] using blocked

theorem lost_of_readiness_eq_withheld {ledger : Ledger} {target : Target} {name : String}
    (h : ledger.readiness target = .withheld name) :
    name ∈ target.prerequisites ∧ ledger.isLost name = true := by
  unfold readiness at h
  split at h
  · next found =>
    cases h
    exact ⟨List.mem_of_find?_eq_some found, List.find?_some found⟩
  · split at h <;> cases h

/-! ## What each update leaves alone -/

@[simp] theorem state_setCommands (ledger : Ledger) (name other : String)
    (commands : List String) :
    (ledger.setCommands name commands).state other = ledger.state other := rfl

@[simp] theorem state_withhold (ledger : Ledger) (name other : String) :
    (ledger.withhold name).state other = ledger.state other := rfl

@[simp] theorem linesOf_setState (ledger : Ledger) (name other : String) (state : TargetState) :
    (ledger.setState name state).linesOf other = ledger.linesOf other := rfl

@[simp] theorem linesOf_withhold (ledger : Ledger) (name other : String) :
    (ledger.withhold name).linesOf other = ledger.linesOf other := rfl

@[simp] theorem linesOf_finish (ledger : Ledger) (name other : String)
    (failure : Option TargetFailure) :
    (ledger.finish name failure).linesOf other = ledger.linesOf other := by
  cases failure <;> rfl

@[simp] theorem withheld_setState (ledger : Ledger) (name : String) (state : TargetState) :
    (ledger.setState name state).withheld = ledger.withheld := rfl

@[simp] theorem withheld_setCommands (ledger : Ledger) (name : String)
    (commands : List String) :
    (ledger.setCommands name commands).withheld = ledger.withheld := rfl

@[simp] theorem withheld_withhold (ledger : Ledger) (name : String) :
    (ledger.withhold name).withheld = name :: ledger.withheld := rfl

@[simp] theorem withheld_finish (ledger : Ledger) (name : String)
    (failure : Option TargetFailure) :
    (ledger.finish name failure).withheld = ledger.withheld := by
  cases failure <;> rfl

@[simp] theorem failures_setState (ledger : Ledger) (name : String) (state : TargetState) :
    (ledger.setState name state).failures = ledger.failures := rfl

@[simp] theorem failures_setCommands (ledger : Ledger) (name : String)
    (commands : List String) :
    (ledger.setCommands name commands).failures = ledger.failures := rfl

@[simp] theorem failures_withhold (ledger : Ledger) (name : String) :
    (ledger.withhold name).failures = ledger.failures := rfl

/-- The state in which an entry is when its recipe has ended. -/
def endState : Option TargetFailure → TargetState
  | none => .succeeded
  | some _ => .failed

theorem state_finish (ledger : Ledger) (name other : String) (failure : Option TargetFailure) :
    (ledger.finish name failure).state other =
      if name = other then endState failure else ledger.state other := by
  cases failure with
  | none => exact ledger.state_setState name other .succeeded
  | some _ => exact ledger.state_setState name other .failed

@[simp] theorem failures_finish (ledger : Ledger) (name : String)
    (failure : Option TargetFailure) :
    (ledger.finish name failure).failures = ledger.failures ++ failure.toList := by
  cases failure <;> simp [finish]

section NoteCrashes

variable (ledger : Ledger) (error : String) (names : List String)

theorem state_noteCrashes (name : String) :
    (ledger.noteCrashes error names).state name =
      if name ∈ names then .failed else ledger.state name := by
  induction names generalizing ledger with
  | nil => simp [noteCrashes]
  | cons first rest ih =>
    refine (ih (ledger.finish first (some (.ofCrash error first)))).trans ?_
    rw [state_finish]
    by_cases same : first = name
    · simp [same, endState]
    · simp [same, Ne.symm same]

@[simp] theorem linesOf_noteCrashes (name : String) :
    (ledger.noteCrashes error names).linesOf name = ledger.linesOf name := by
  induction names generalizing ledger with
  | nil => rfl
  | cons first rest ih => exact (ih _).trans (linesOf_finish ..)

@[simp] theorem failures_noteCrashes :
    (ledger.noteCrashes error names).failures =
      ledger.failures ++ names.map (.ofCrash error) := by
  induction names generalizing ledger with
  | nil => simp [noteCrashes]
  | cons first rest ih =>
    refine (ih (ledger.finish first (some (.ofCrash error first)))).trans ?_
    simp

end NoteCrashes

/-- The report on a plan. -/
def report (ledger : Ledger) (plan : Plan) (dryRun : Bool) : Report where
  plan
  outcomes := plan.targets.map fun name => ⟨name, ledger.state name, ledger.linesOf name⟩
  failures := ledger.failures
  dryRun

@[simp] theorem names_report (ledger : Ledger) (plan : Plan) (dryRun : Bool) :
    (ledger.report plan dryRun).outcomes.map (·.name) = plan.targets := by
  simp [report, Function.comp_def]

end Ledger
end TaskRunner
