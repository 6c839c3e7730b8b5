import TaskRunner.Shell.Action
import TaskRunner.Shell.Arithmetic
/- # TaskRunner.Shell.Process -- the state of a shell

A process that carries out commands has variables, arguments, functions and options of its own.
`Work` is a piece of such a process: it may change the process, and it may leave what the process is
in the middle of. -/

namespace TaskRunner.Shell
set_option autoImplicit false

/-- A process that carries out commands. -/
structure Process where
  dialect : Dialect := .plain
  bindings : Variables := {}
  functions : Std.HashMap Octets Command := {}
  aliases : Std.HashMap Octets Octets := {}
  /-- The name by which the process was called. -/
  name : Octets
  arguments : List Octets := []
  /-- The number by which the shell knows itself. -/
  number : Nat := 0
  status : Nat := 0
  /-- The programs that were found by their names. -/
  found : List Octets := []
  /-- The status of the last command in a word of the present command, if there was one. -/
  substituted : Option Nat := none
  /-- The options that are set, by name. -/
  options : List String := []
  /-- What is carried out when a signal comes, and at the end of the process for the number zero. -/
  traps : List (Nat × Octets) := []
  /-- The variables of the present function, as they are outside of it; nothing outside of all
  functions. -/
  shadowed : Option (List (Octets × Option Variable)) := none
  /-- The functions that the process is inside of, the innermost first. -/
  calls : List Octets := []
  /-- How many scripts the process is reading that it was not started with. -/
  scripts : Nat := 0
  /-- How many loops the process is inside of. -/
  loops : Nat := 0
  /-- The command of the shell that is being carried out; empty for other commands. -/
  command : Octets := []
  /-- The status from before what is carried out on a signal or at the end. -/
  interrupted : Option Nat := none
  /-- How many commands there are that the present one is a part of, as far as a report shows it. -/
  nesting : Nat := 0
  /-- The statuses of the stages of the last pipeline. -/
  stages : List Nat := []
  line : Nat := 1
  /-- The path of the script that is read, if it is one. -/
  source : Option String := none
  /-- Where the script comes from that is read, as a report of a mistake in it says. -/
  origin : String := ""
  /-- The process that was started last without waiting for it. -/
  background : Option Nat := none
  /-- The processes that were started and not waited for. -/
  jobs : List Nat := []
  /-- Where the reading of options has come to inside of an argument. -/
  optionOffset : Nat := 0
  /-- The path by which the working directory was come to. -/
  directory : Octets := []
  /-- The directories that were left to come back to. -/
  directories : List Octets := []
  started : FileTime := 0
  random : Nat := 1
  deriving Inhabited

/-- What is left behind when commands are left. -/
inductive Escape where
  /-- The process, with its status. -/
  | process
  /-- As much as a mistake in a command puts an end to. -/
  | mistake
  /-- So many loops. -/
  | loops (count : Nat)
  /-- So many loops but one, and that one is begun again. -/
  | round (count : Nat)
  /-- The function, or the script that is read. -/
  | function
  deriving DecidableEq, Repr, Inhabited

namespace Process

def isExtended (process : Process) : Bool := process.dialect == .extended

def has (process : Process) (option : String) : Bool := process.options.contains option

def setOption (process : Process) (option : String) (isSet : Bool) : Process :=
  let others := process.options.filter (· != option)
  { process with options := if isSet then option :: others else others }

/-- The number of a line as reports show it. -/
def lineLabel (process : Process) (line : Nat) : String :=
  if process.has "stdin" then "" else s!"line {line}: "

def withStatus (process : Process) (status : Nat) : Process := { process with status }

/-- The text of a variable, empty if it has none. -/
def get (process : Process) (name : String) : Octets := process.bindings.text name.toList

/-- Gives a variable a text, as the options ask for it. -/
def set (process : Process) (name text : Octets) : Process :=
  let name := process.bindings.target name
  let bindings := process.bindings.set name text
  let bindings := if process.has "allexport" then
      bindings.insert name { bindings.find name with exported := true }
    else bindings
  { process with
    bindings
    optionOffset := if name == "OPTIND".toList then 0 else process.optionOffset }

/-- Gives variables the state that they had, or none. -/
def restore (process : Process) (values : List (Octets × Option Variable)) : Process :=
  { process with
    bindings := values.foldl
      (fun bindings (name, entry) =>
        match entry with
        | some entry => bindings.insert name entry
        | none => bindings.erase name)
      process.bindings }

/-- What the process puts in front of what it reports. -/
def label (process : Process) : String :=
  let name := if process.isExtended && !process.calls.isEmpty then process.source.getD "environment"
    else (process.source.getD process.name.toText)
  let place := if process.isExtended then s!"{name}: {process.lineLabel process.line}"
    else s!"{process.name.toText}: {process.line}: "
  if process.command.isEmpty then place else s!"{place}{process.command.toText}: "

end Process

/-- Work of a process, which may leave what it is in the middle of. -/
def Work (α : Type) := Process → (Except Escape α → Process → Machine → Job) → Machine → Job

namespace Work

instance : Monad Work where
  pure value := fun process next machine => next (.ok value) process machine
  bind work f := fun process next machine =>
    work process
      (fun result process machine =>
        match result with
        | .ok value => f value process next machine
        | .error escape => next (.error escape) process machine)
      machine

instance {α : Type} : Inhabited (Work α) :=
  ⟨fun process next machine => next (.error .process) process machine⟩

/-- Leaves commands. -/
def leave {α : Type} (escape : Escape) : Work α := fun process next machine =>
  next (.error escape) process machine

/-- Carries out work to its end, or until commands are left. -/
def attempt {α : Type} (work : Work α) : Work (Except Escape α) := fun process next machine =>
  work process (fun result process machine => next (.ok result) process machine) machine

/-- Goes on as an attempt came out. -/
def resume {α : Type} (result : Except Escape α) : Work α := fun process next machine =>
  next result process machine

/-- The process itself. -/
def process : Work Process := fun process next machine => next (.ok process) process machine

def modify (f : Process → Process) : Work Unit := fun process next machine =>
  next (.ok ()) (f process) machine

/-- Does something that does not concern the process. -/
def act {α : Type} (action : Action α) : Work α := fun process next machine =>
  action (fun value machine => next (.ok value) process machine) machine

/-- What an observation of the machine gives. -/
def look {α : Type} (observe : Machine → α) : Work α := act (Action.look observe)

def change (f : Machine → Machine) : Work Unit := act (Action.change f)

def setStatus (status : Nat) : Work Unit := modify (·.withStatus status)

/-- Carries out work, and undoes afterwards what was done for it, however it ends. -/
def restoring {α : Type} (restore : Process → Process → Process) (work : Work α) : Work α := do
  let before ← process
  let result ← attempt work
  modify (restore before)
  resume result

/-- What is left of work as an action: how the process is when it ends. -/
def toAction {α : Type} (work : Work α) (process : Process) : Action (Except Escape α × Process) :=
  fun next machine => work process (fun result process => next (result, process)) machine

/-! ## Reports -/

/-- Writes to the output of the process; the flag says whether that was possible. -/
def print (octets : Octets) : Work Bool := do
  match ← act (Action.write 1 octets) with
  | .ok _ => return true
  | .error _ => return false

/-- Writes a line to the errors of the process. -/
def report (text : String) : Work Unit := act (Action.complain text)

/-- Reports as the shell itself does, with its name and the number of the line. -/
def complain (text : String) : Work Unit := do
  report ((← process).label ++ text)

/-- Reports a mistake, which gives the command a status. -/
def fail {α : Type} (status : Nat) (text : String) : Work α := do
  complain text
  setStatus status
  leave .mistake

/-- The status of a mistake. -/
def mistakeStatus : Work Nat := do return if (← process).isExtended then 1 else 2

/-- Reports a mistake. -/
def abort {α : Type} (text : String) : Work α := do fail (← mistakeStatus) text

/-! ## Variables -/

/-- The value of a calculation, which may change variables. -/
def calculate (text : Octets) : Work Int := do
  let process ← process
  match Expr.calculate process.dialect (process.has "nounset") process.bindings text with
  | .error fault => abort (fault.message process.dialect text)
  | .ok (n, bindings) =>
    modify fun process => { process with bindings }
    return n

/-- Reports that a variable cannot be changed. -/
def refuse {α : Type} (name : Octets) : Work α := do
  abort (if (← process).isExtended then s!"{name.toText}: readonly variable"
    else s!"{name.toText}: is read only")

/-- Gives a variable a text. -/
def assign (name text : Octets) : Work Unit := do
  let bindings := (← process).bindings
  let entry := bindings.find (bindings.target name)
  if entry.readOnly then refuse name
  else
    let text ← if entry.integer then pure (Octets.ofInt (← calculate text)) else pure text
    modify (·.set name text)

/-- The index of an element: a key as it is, or what an expression comes to. -/
def indexOf (name text : Octets) : Work Octets := do
  let bindings := (← process).bindings
  if bindings.isKeyed name then return text
  else
    let n ← calculate text
    let next : Int := ((((← process).bindings.find name).value.map Value.next).getD 0 : Nat)
    return Octets.ofInt (if n < 0 then next + n else n)

/-- Gives an element a text. -/
def assignElement (name index text : Octets) : Work Unit := do
  let name := (← process).bindings.target name
  let entry := (← process).bindings.find name
  if entry.readOnly then refuse name
  else
    let index ← indexOf name index
    let text ← if entry.integer then pure (Octets.ofInt (← calculate text)) else pure text
    modify fun process =>
      { process with bindings := process.bindings.setElement name index text }

end Work
end TaskRunner.Shell
