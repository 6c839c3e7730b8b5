import TaskRunner.Shell.Machine
/- # TaskRunner.Shell.Action -- what processes do

A process is a `Job`: it has ended, or waits for something and says how it goes on then, or has just
started another process.  Between two waits it has the machine for itself.  An `Action` is a piece of
a process: it is given what follows it. -/

namespace TaskRunner.Shell
set_option autoImplicit false

/-- A process that cannot go on by itself. -/
inductive Job where
  | ended (ending : Ending) (machine : Machine)
  /-- Goes on when the machine is as wanted, or when a moment has come. -/
  | paused (isReady : Machine → Bool) (wake : Option FileTime) (resume : Machine → Job)
      (machine : Machine)
  /-- Has started a process of a number. -/
  | forked (child : Nat) (start resume : Machine → Job) (machine : Machine)

instance : Inhabited Job := ⟨.ended (.status 0) { files := default }⟩

/-- A piece of a process. -/
def Action (α : Type) := (α → Machine → Job) → Machine → Job

namespace Action

instance : Monad Action where
  pure value := fun next machine => next value machine
  bind action f := fun next machine => action (fun value machine => f value next machine) machine

instance {α : Type} [Inhabited α] : Inhabited (Action α) := ⟨pure default⟩

/-- The process that an action makes. -/
def toJob (action : Action Ending) : Machine → Job := action Job.ended

/-- Ends the process. -/
def stop {α : Type} (ending : Ending) : Action α := fun _ machine => .ended ending machine

/-! ## The machine -/

/-- What an observation of the machine gives. -/
def look {α : Type} (observe : Machine → α) : Action α := fun next machine =>
  next (observe machine) machine

def change (f : Machine → Machine) : Action Unit := fun next machine => next () (f machine)

/-- A change of the machine that has a value. -/
def update {α : Type} (f : Machine → α × Machine) : Action α := fun next machine =>
  let (value, machine) := f machine
  next value machine

/-- Changes the files, unless that fails. -/
def changeFiles (f : FileSystem → Except FileError FileSystem) : Action (Option FileError) :=
  update fun machine =>
    match f machine.files with
    | .ok files => (none, { machine with files })
    | .error cause => (some cause, machine)

/-! ## Waiting -/

/-- Waits until the machine is as wanted. -/
def await (isReady : Machine → Bool) : Action Unit := fun next machine =>
  if isReady machine then next () machine else .paused isReady none (next ()) machine

/-- How long a command of the shell takes. -/
def stepTime : FileTime := 20000

/-- Lets the other processes go on. -/
def yield : Action Unit := fun next machine =>
  .paused (fun _ => true) none (next ())
    { machine with files := machine.files.wait stepTime }

/-- Sleeps for a number of nanoseconds. -/
def sleep (duration : Nat) : Action Unit := fun next machine =>
  .paused (fun _ => false) (some (machine.files.clock + duration)) (next ()) machine

/-- Waits until the machine is as wanted, but no longer than until a moment. -/
def awaitUntil (moment : FileTime) (isReady : Machine → Bool) : Action Unit := fun next machine =>
  if isReady machine then next () machine else .paused isReady (some moment) (next ()) machine

/-! ## Processes -/

/-- Starts a process that has something else open under some numbers. -/
def fork (streams : List (Nat × Nat)) (child : Action Ending) : Action Nat := fun next machine =>
  let number := machine.fresh
  let record := machine.self
  let kept := record.descriptors.filter fun (n, _) => !streams.any (·.1 == n)
  let record := { record with
    parent := machine.current, descriptors := streams ++ kept
    held := [], caught := [], pending := [] }
  .forked number child.toJob (next number)
    { machine with records := machine.records.insert number record, fresh := number + 1 }

/-- How a process ended, if it did. -/
def endingOf? (process : Nat) (machine : Machine) : Option Ending :=
  (machine.record? process).bind (·.ending)

/-- Waits until a process has ended. -/
def wait (process : Nat) : Action Ending := do
  await fun machine => !machine.isAlive process
  look fun machine => (endingOf? process machine).getD (.status 127)

/-- Sends a signal, and says whether there was a process to get it. -/
def kill (process signal : Nat) : Action Bool := fun next machine =>
  let (found, machine) := machine.send process signal
  match machine.self.ending with
  | some ending => .ended ending machine
  | none => next found machine

/-! ## Reading -/

/-- Reads what is there, `most` octets at most; nothing at the end. -/
def read (number most : Nat) : Action (Except FileError Octets) := fun next machine =>
  match machine.opening? number with
  | none => next (.error .badDescriptor) machine
  | some (opening, state) =>
    if !state.reads then next (.error .badDescriptor) machine
    else
      match state.channel with
      | .null | .output | .errors => next (.ok []) machine
      | .zero | .full => next (.ok (List.replicate (min most Pipe.unit) '\x00')) machine
      | .node node =>
        let (result, machine) := machine.readNode opening state.offset node most
        next result machine
      | .pipe pipe =>
        let take (machine : Machine) : Job :=
          let (octets, machine) := machine.takeFromPipe pipe most
          next (.ok octets) machine
        if machine.isReadable pipe then take machine
        else .paused (·.isReadable pipe) none take machine

/-- How much is read at once. -/
def blockSize : Nat := 65536

/-- How many blocks are read, at most. -/
def maxBlocks : Nat := 1000000

/-- Reads on to the end; what was read is given last block first. -/
def readBlocks (number : Nat) (fuel : Nat) (found : List Octets) :
    Action (Except FileError Octets) :=
  match fuel with
  | 0 => pure (.ok found.reverse.flatten)
  | fuel + 1 => do
    match ← read number blockSize with
    | .error cause => return .error cause
    | .ok [] => return .ok found.reverse.flatten
    | .ok octets => readBlocks number fuel (octets :: found)

/-- Reads to the end. -/
def readAll (number : Nat) : Action (Except FileError Octets) := readBlocks number maxBlocks []

/-- Goes back in a file by so many octets; a pipe has no way back. -/
def goBack (number count : Nat) : Action Unit := change fun machine =>
  match machine.opening? number with
  | some (opening, state) =>
    match state.channel with
    | .node _ => machine.moveTo opening (state.offset - count)
    | _ => machine
  | none => machine

/-- Leaves octets that were read for the next one who reads. -/
def leaveUnread (number : Nat) (octets : Octets) : Action Unit := do
  goBack number octets.length
  change fun machine =>
    match machine.opening? number with
    | some (_, { channel := .pipe pipe, .. }) => machine.returnToPipe pipe octets
    | _ => machine

/-! ## Writing -/

/-- Writes to a pipe, waiting for room where there is none. -/
def writePipe (pipe : Nat) (fuel : Nat) (octets : Octets) : Action (Except FileError Unit) :=
  match fuel with
  | 0 => pure (.ok ())
  | fuel + 1 =>
    if octets.isEmpty then pure (.ok ())
    else do
      await (·.isWritable pipe octets.length)
      let reader ← look (·.hasReader pipe)
      if !reader then
        let process ← look (·.current)
        let _ ← kill process Signal.pipe
        return .error .brokenPipe
      else
        let room ← look fun machine => Pipe.capacity - (machine.pipe pipe).size
        change (·.addToPipe pipe (octets.take room))
        writePipe pipe fuel (octets.drop room)

/-- Writes octets. -/
def write (number : Nat) (octets : Octets) : Action (Except FileError Unit) := fun next machine =>
  match machine.opening? number with
  | none => next (.error .badDescriptor) machine
  | some (opening, state) =>
    if !state.writes then next (.error .badDescriptor) machine
    else
      match state.channel with
      | .null | .zero => next (.ok ()) machine
      | .full => next (if octets.isEmpty then .ok () else .error .noSpace) machine
      | .output => next (.ok ()) (machine.print octets)
      | .errors => next (.ok ()) (machine.report octets)
      | .node node => next (.ok ()) (machine.writeNode opening state node octets)
      | .pipe pipe => writePipe pipe (octets.length + 1) octets next machine

/-- Writes to the errors of the process. -/
def report (octets : Octets) : Action Unit := do
  let _ ← write 2 octets
  return ()

/-- Writes a line to the errors of the process. -/
def complain (text : String) : Action Unit := report (Octets.ofText (text ++ "\n"))

/-! ## Files -/

/-- Opens a file. -/
def openFile (path : Octets) (mode : Machine.Mode) : Action (Except FileError Nat) :=
  update (·.openFile path mode)

/-- A number from ten on under which nothing is open. -/
def freeNumber (machine : Machine) : Nat :=
  let taken := machine.self.descriptors.map (·.1)
  ((List.range 1000).find? fun n => !taken.contains (n + 10)).getD 1000 + 10

/-- Does something with a file that is open for the time being. -/
def withFile {α : Type} (path : Octets) (mode : Machine.Mode) (body : Nat → Action α) :
    Action (Except FileError α) := do
  match ← openFile path mode with
  | .error cause => return .error cause
  | .ok opening =>
    let number ← look freeNumber
    change (·.setDescriptor number opening)
    let value ← body number
    change (·.close number)
    return .ok value

/-- The content of a file. -/
def readFile (path : Octets) : Action (Except FileError Octets) := do
  match ← withFile path .input readAll with
  | .error cause => return .error cause
  | .ok result => return result

end Action
end TaskRunner.Shell
