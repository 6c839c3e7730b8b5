import TaskRunner.Shell.Program
import TaskRunner.Shell.Quoting
/- # TaskRunner.Shell.Tool -- how the programs of the machine work

A program reads lines or octets, writes, complains and ends with a status.  `Tool` is a piece of such
a program.  What a program writes is kept until there is enough of it, until it
complains, or until it ends.

A program that goes through many lines lets others go on now and then. -/

namespace TaskRunner.Shell
set_option autoImplicit false

/-- What a program has read and not yet looked at. -/
structure Unread where
  octets : Octets := []
  /-- Whether nothing comes behind it. -/
  ended : Bool := false
  deriving Inhabited

/-- How far a program has come. -/
structure Progress where
  invocation : Invocation
  execute : Execute
  /-- What is to be written, the latest octet first. -/
  pending : Octets := []
  size : Nat := 0
  status : Nat := 0
  /-- The status of a program that cannot write. -/
  failure : Nat := 1
  /-- What was read under each number. -/
  unread : List (Nat × Unread) := []
  /-- How many lines were read since others could go on. -/
  lines : Nat := 0

/-- Work of a program, which may end it with a status. -/
def Tool (α : Type) := Progress → (Except Nat α → Progress → Machine → Job) → Machine → Job

/-- A program of the machine. -/
abbrev Utility := Execute → Invocation → Action Ending

namespace Tool

instance : Monad Tool where
  pure value := fun progress next machine => next (.ok value) progress machine
  bind tool f := fun progress next machine =>
    tool progress
      (fun result progress machine =>
        match result with
        | .ok value => f value progress next machine
        | .error status => next (.error status) progress machine)
      machine

instance {α : Type} : Inhabited (Tool α) := ⟨fun progress next machine => next (.error 1) progress machine⟩

/-- Ends the program. -/
def exit {α : Type} (status : Nat) : Tool α := fun progress next machine =>
  next (.error status) progress machine

/-- Does something that does not concern the program. -/
def act {α : Type} (action : Action α) : Tool α := fun progress next machine =>
  action (fun value machine => next (.ok value) progress machine) machine

def look {α : Type} (observe : Machine → α) : Tool α := act (Action.look observe)

def change (f : Machine → Machine) : Tool Unit := act (Action.change f)

def progress : Tool Progress := fun progress next machine => next (.ok progress) progress machine

def modify (f : Progress → Progress) : Tool Unit := fun progress next machine =>
  next (.ok ()) (f progress) machine

/-- Carries out work to its end, and says with which status it ended the program, if it did. -/
def attempt {α : Type} (tool : Tool α) : Tool (Except Nat α) := fun progress next machine =>
  tool progress (fun result progress machine => next (.ok result) progress machine) machine

/-- The name by which the program was called. -/
def name : Tool String := do return (← progress).invocation.name.toText

/-- The value of a variable that the program sees. -/
def setting? (name : String) : Tool (Option Octets) := do
  return Program.setting? (← progress).invocation.environment name

/-- Gives the program a status that it will end with. -/
def setStatus (status : Nat) : Tool Unit := modify fun progress => { progress with status }

/-! ## Writing -/

/-- Writes what is to be written. -/
def flush : Tool Unit := do
  let now ← progress
  if now.size != 0 then
    modify fun progress => { progress with pending := [], size := 0 }
    match ← act (Action.write 1 now.pending.reverse) with
    | .ok _ => pure ()
    | .error cause =>
      act (Action.complain s!"{now.invocation.name.toText}: write error: {cause.wording}")
      exit now.failure

/-- How much is kept until it is written. -/
def bufferSize : Nat := 4096

/-- Writes octets, at once or later. -/
def put (octets : Octets) : Tool Unit := do
  modify fun progress =>
    { progress with
      pending := octets.reverse ++ progress.pending, size := progress.size + octets.length }
  if (← progress).size ≥ bufferSize then flush

def putLine (octets : Octets) : Tool Unit := put (octets ++ ['\n'])

def putText (text : String) : Tool Unit := put (Octets.ofText text)

/-! ## Complaints -/

/-- Writes a line to the errors, in front of what is still to be written. -/
def reportAhead (text : String) : Tool Unit := act (Action.complain text)

/-- Writes a line to the errors, behind what is to be written. -/
def report (text : String) : Tool Unit := do
  flush
  reportAhead text

/-- Complains in the name of the program. -/
def complain (text : String) : Tool Unit := do report s!"{← name}: {text}"

/-- Complains, and goes on to end with a status. -/
def blame (status : Nat) (text : String) : Tool Unit := do
  complain text
  setStatus status

/-- Complains and ends the program. -/
def fail {α : Type} (status : Nat) (text : String) : Tool α := do
  complain text
  exit status

/-- Says where help is to be found and ends the program. -/
def giveHelp {α : Type} (status : Nat) : Tool α := do
  report s!"Try '{← name} --help' for more information."
  exit status

/-- Complains about how the program is called, and ends it. -/
def misuse {α : Type} (status : Nat) (text : String) : Tool α := do
  complain text
  giveHelp status

/-- A text as programs quote it. -/
def quoted (text : Octets) : String := (Quoting.reported text).toText

/-- The name of a file in front of a colon. -/
def shown (path : Octets) : String := (Quoting.labelled path).toText

/-- Complains about a file. -/
def blameFile (status : Nat) (path : Octets) (cause : FileError) : Tool Unit :=
  blame status s!"{shown path}: {cause.wording}"

/-- Ends the program because it lacks an operand. -/
def lackOperand {α : Type} (status : Nat) : Tool α := misuse status "missing operand"

/-- Ends the program because an operand is one too many. -/
def extraOperand {α : Type} (status : Nat) (operand : Octets) : Tool α :=
  misuse status s!"extra operand {quoted operand}"

/-! ## Reading -/

/-- Lets others go on. -/
def breathe : Tool Unit := fun progress next machine =>
  .paused (fun _ => true) none (next (.ok ()) { progress with lines := 0 }) machine

/-- How many lines a program goes through before it lets others go on. -/
def maxLines : Nat := 200

/-- Lets others go on after it was called often enough. -/
def breatheAtTimes : Tool Unit := do
  modify fun progress => { progress with lines := progress.lines + 1 }
  if (← progress).lines > maxLines then breathe

def unread (number : Nat) : Tool Unread := do
  return ((← progress).unread.lookup number).getD {}

def setUnread (number : Nat) (unread : Unread) : Tool Unit :=
  modify fun progress =>
    { progress with
      unread := (number, unread) :: progress.unread.filter (·.1 != number) }

/-- Opens a file to read; the minus sign stands for the input. -/
def openInput (path : Octets) : Tool (Except FileError Nat) := do
  if path == ['-'] then
    match ← look (·.opening? 0) with
    | some _ => return .ok 0
    | none => return .error .badDescriptor
  else
    match ← act (Action.openFile path .input) with
    | .error cause => return .error cause
    | .ok opening =>
      let number ← look Action.freeNumber
      change (·.setDescriptor number opening)
      return .ok number

/-- Closes a file that was opened. -/
def closeInput (number : Nat) : Tool Unit := do
  if number != 0 then
    modify fun progress =>
      { progress with unread := progress.unread.filter (·.1 != number) }
    change (·.close number)

/-- The next octets; nothing at the end. -/
def block (number : Nat) : Tool (Except FileError Octets) := do
  let here ← unread number
  if !here.octets.isEmpty then
    setUnread number { here with octets := [] }
    return .ok here.octets
  else if here.ended then return .ok []
  else
    match ← act (Action.read number Action.blockSize) with
    | .error cause =>
      setUnread number { ended := true }
      return .error cause
    | .ok octets =>
      if octets.isEmpty then setUnread number { ended := true } else breathe
      return .ok octets

/-- Reads on until the text before a delimiter is complete; what was read is given last block
first. -/
def lineFrom (delimiter : Char) (number fuel : Nat) (found : List Octets) :
    Tool (Except FileError (Option (Octets × Bool))) :=
  match fuel with
  | 0 => return .ok none
  | fuel + 1 => do
    let whole (last : Octets) : Octets := if found.isEmpty then last
      else (last :: found).reverse.flatten
    match ← block number with
    | .error cause => return .error cause
    | .ok [] => return .ok (if found.isEmpty then none else some (whole [], false))
    | .ok octets =>
      let line := octets.takeWhile (· != delimiter)
      match octets.drop line.length with
      | [] => lineFrom delimiter number fuel (line :: found)
      | _ :: rest =>
        setUnread number { octets := rest }
        return .ok (some (whole line, true))

/-- The next line, and whether a delimiter is behind it; nothing at the end. -/
def line? (number : Nat) (delimiter : Char := '\n') :
    Tool (Except FileError (Option (Octets × Bool))) := do
  breatheAtTimes
  lineFrom delimiter number Action.maxBlocks []

/-- How many lines a program reads, at most. -/
def maxSteps : Nat := 1000000000

/-- Goes through the lines of an input, with a state, until a step says that it is the last. -/
def foldLines {σ : Type} (number : Nat) (delimiter : Char)
    (step : σ → Octets → Bool → Tool (σ × Bool)) (fuel : Nat) (state : σ) :
    Tool (Except FileError (σ × Bool)) :=
  match fuel with
  | 0 => return .ok (state, true)
  | fuel + 1 => do
    match ← line? number delimiter with
    | .error cause => return .error cause
    | .ok none => return .ok (state, true)
    | .ok (some (line, ended)) =>
      let (state, goesOn) ← step state line ended
      if goesOn then foldLines number delimiter step fuel state else return .ok (state, false)

/-- Leaves what was read and not looked at for the next one who reads, where that can be done. -/
def giveBack (number : Nat) : Tool Unit := do
  let here ← unread number
  setUnread number {}
  act (Action.goBack number here.octets.length)

/-- All that can be read under a number. -/
def rest (number : Nat) : Tool (Except FileError Octets) := do
  let here ← unread number
  setUnread number { ended := true }
  if here.ended then return .ok here.octets
  else return (← act (Action.readAll number)).map (here.octets ++ ·)

/-- The content of a file, or of the input. -/
def contents (path : Octets) : Tool (Except FileError Octets) := do
  match ← openInput path with
  | .error cause => return .error cause
  | .ok number =>
    let result ← rest number
    closeInput number
    return result

/-- The content of a file; complains if there is none. -/
def contents? (path : Octets) : Tool (Option Octets) := do
  match ← contents path with
  | .ok octets => return some octets
  | .error cause =>
    blameFile 1 path cause
    return none

/-- Writes a file in place of what is in it. -/
def writeFile (path octets : Octets) (mode : Machine.Mode := .output) :
    Tool (Except FileError Unit) := do
  match ← act (Action.withFile path mode (Action.write · octets)) with
  | .error cause => return .error cause
  | .ok result => return result

/-! ## Programs -/

/-- The program that work makes. -/
def toUtility (tool : List Octets → Tool Unit) (failure : Nat := 1) : Utility :=
  fun execute invocation next machine =>
    let work : Tool Unit := do
      let result ← attempt (tool invocation.arguments)
      match result with
      | .ok _ => flush
      | .error status =>
        setStatus status
        flush
    work { invocation, execute, failure }
      (fun result progress machine =>
        match result with
        | .ok _ => next (.status (progress.status % 256)) machine
        | .error status => next (.status (status % 256)) machine)
      machine

end Tool
end TaskRunner.Shell
