import TaskRunner.FileSystem
import TaskRunner.Shell.Signal
/- # TaskRunner.Shell.Machine -- what the processes of a machine share

All processes of a machine see one file system.  What a process has open is a number that leads to an
opening, which may be shared by several processes: it says where reading and writing goes on.  A pipe
keeps what was written to it until it is read; it is at its end when nobody is left who could write.

Operations act for the process whose turn it is, `current`. -/

namespace TaskRunner.Shell
set_option autoImplicit false

/-- How a process ended. -/
inductive Ending where
  | status (n : Nat)
  | signal (n : Nat)
  deriving DecidableEq, Repr, Inhabited

/-- The status by which a shell knows an ending. -/
def Ending.toStatus : Ending → Nat
  | status n => n
  | signal n => 128 + n

/-- Where octets go to, or come from. -/
inductive Channel where
  | null
  | zero
  | full
  /-- What the program prints. -/
  | output
  /-- What the program reports. -/
  | errors
  /-- The node of a number. -/
  | node (number : Nat)
  | pipe (number : Nat)
  deriving DecidableEq, Repr, Inhabited

/-- Something that is open. -/
structure Opening where
  channel : Channel
  /-- Where in a file reading and writing goes on. -/
  offset : Nat := 0
  reads : Bool := false
  writes : Bool := false
  /-- Whether all writing goes to the end of a file. -/
  appends : Bool := false
  deriving Inhabited

/-- What was written to a pipe and not yet read: the next octets, and what comes behind them, the
last first. -/
structure Pipe where
  front : Octets := []
  back : List Octets := []
  size : Nat := 0
  /-- The openings that read from the pipe, and those that write to it. -/
  readers : List Nat := []
  writers : List Nat := []
  deriving Inhabited

namespace Pipe

/-- How much a pipe holds. -/
def capacity : Nat := 65536

/-- How much is written to a pipe at once, or not at all. -/
def unit : Nat := 4096

def add (pipe : Pipe) (octets : Octets) : Pipe :=
  { pipe with back := octets :: pipe.back, size := pipe.size + octets.length }

/-- Takes octets out of a pipe, `most` at most. -/
def take (pipe : Pipe) (most : Nat) : Octets × Pipe :=
  let all := if pipe.back.isEmpty then pipe.front
    else pipe.front ++ pipe.back.reverse.flatten
  let taken := all.take most
  (taken, { pipe with front := all.drop most, back := [], size := pipe.size - taken.length })

end Pipe

/-- What a machine knows of a process. -/
structure Record where
  parent : Nat := 0
  /-- The directory that it works in. -/
  place : Location
  /-- What it has open, by number. -/
  descriptors : List (Nat × Nat) := []
  /-- What it had open under these numbers before, and will again. -/
  saved : List (List (Nat × Nat)) := []
  /-- What it keeps open without a number. -/
  held : List Nat := []
  /-- The permissions that it withholds from new files. -/
  mask : Nat := 0o022
  /-- The signals that it passes over. -/
  ignored : List Nat := []
  /-- The signals that it has arranged for. -/
  caught : List Nat := []
  /-- The signals of those that it got, in order. -/
  pending : List Nat := []
  ending : Option Ending := none
  deriving Inhabited

/-- Whether something is open to a process. -/
def Record.keeps (record : Record) (opening : Nat) : Bool :=
  record.descriptors.any (·.2 == opening) || record.held.contains opening ||
    record.saved.any fun table => table.any (·.2 == opening)

/-- A machine. -/
structure Machine where
  files : FileSystem
  /-- What was printed, the latest octet first. -/
  output : Octets := []
  /-- What was reported, the latest octet first. -/
  errors : Octets := []
  openings : Std.HashMap Nat Opening := {}
  pipes : Std.HashMap Nat Pipe := {}
  records : Std.HashMap Nat Record := {}
  /-- A number that no process, opening or pipe has. -/
  fresh : Nat := 4000
  /-- The process whose turn it is. -/
  current : Nat := 0

namespace Machine

/-- The number of the program itself, by which the commands know it that it starts. -/
def caller : Nat := 3999

/-! ## Records -/

def record? (machine : Machine) (process : Nat) : Option Record := machine.records[process]?

/-- The record of the process whose turn it is. -/
def self (machine : Machine) : Record := (machine.record? machine.current).getD { place := [] }

def modifyRecord (machine : Machine) (process : Nat) (f : Record → Record) : Machine :=
  { machine with records := machine.records.modify process f }

def modifySelf (machine : Machine) (f : Record → Record) : Machine :=
  machine.modifyRecord machine.current f

/-- The directory that the process works in. -/
def place (machine : Machine) : Location := machine.self.place

/-- Whether a process is there and has not ended. -/
def isAlive (machine : Machine) (process : Nat) : Bool :=
  (machine.record? process).any (·.ending.isNone)

/-- Notes how a process ended.  All that it had open is closed. -/
def finish (machine : Machine) (process : Nat) (ending : Ending) : Machine :=
  machine.modifyRecord process fun record =>
    { record with
      ending := some (record.ending.getD ending), descriptors := [], saved := [], held := [] }

/-- Sends a signal to a process; the flag says whether there is one to get it. -/
def send (machine : Machine) (process signal : Nat) : Bool × Machine :=
  match machine.record? process with
  | none => (false, machine)
  | some record =>
    let machine :=
      if record.ending.isSome || signal == 0 then machine
      else if record.ignored.contains signal && !Signal.isCertain signal then machine
      else if record.caught.contains signal && !Signal.isCertain signal then
        machine.modifyRecord process fun record =>
          { record with pending := record.pending ++ [signal] }
      else if Signal.isHarmless signal || Signal.stops signal then machine
      else machine.finish process (.signal signal)
    (true, machine)

/-! ## Descriptors -/

/-- The opening under a number, and the opening itself. -/
def opening? (machine : Machine) (number : Nat) : Option (Nat × Opening) := do
  let opening ← machine.self.descriptors.lookup number
  return (opening, ← machine.openings[opening]?)

/-- Puts an opening under a number. -/
def setDescriptor (machine : Machine) (number opening : Nat) : Machine :=
  machine.modifySelf fun record =>
    { record with
      descriptors := (number, opening) :: record.descriptors.filter (·.1 != number) }

def close (machine : Machine) (number : Nat) : Machine :=
  machine.modifySelf fun record =>
    { record with descriptors := record.descriptors.filter (·.1 != number) }

/-- Remembers what is open under some numbers. -/
def save (machine : Machine) (numbers : List Nat) : Machine :=
  machine.modifySelf fun record =>
    { record with
      saved := record.descriptors.filter (numbers.contains ·.1) :: record.saved }

/-- Opens again under some numbers what was open when that was remembered last. -/
def restore (machine : Machine) (numbers : List Nat) : Machine :=
  machine.modifySelf fun record =>
    match record.saved with
    | table :: rest =>
      { record with
        descriptors := table ++ record.descriptors.filter (!numbers.contains ·.1), saved := rest }
    | [] => record

/-- Forgets what was open when that was remembered last. -/
def forget (machine : Machine) : Machine :=
  machine.modifySelf fun record => { record with saved := record.saved.tail }

def hold (machine : Machine) (opening : Nat) : Machine :=
  machine.modifySelf fun record => { record with held := opening :: record.held }

def release (machine : Machine) (opening : Nat) : Machine :=
  machine.modifySelf fun record => { record with held := record.held.erase opening }

/-- Makes an opening. -/
def newOpening (machine : Machine) (opening : Opening) : Nat × Machine :=
  let number := machine.fresh
  let add (found : List Nat) (isEnd : Bool) : List Nat := if isEnd then number :: found else found
  let pipes := match opening.channel with
    | .pipe pipe => machine.pipes.modify pipe fun pipe =>
      { pipe with
        readers := add pipe.readers opening.reads, writers := add pipe.writers opening.writes }
    | _ => machine.pipes
  (number,
    { machine with
      openings := machine.openings.insert number opening, pipes, fresh := number + 1 })

/-- Makes a pipe, and gives the openings of its two ends: to read and to write. -/
def newPipe (machine : Machine) : (Nat × Nat) × Machine :=
  let pipe := machine.fresh
  let machine := { machine with pipes := machine.pipes.insert pipe {}, fresh := pipe + 1 }
  let (reader, machine) := machine.newOpening { channel := .pipe pipe, reads := true }
  let (writer, machine) := machine.newOpening { channel := .pipe pipe, writes := true }
  ((reader, writer), machine)

/-- Makes an opening from which a text can be read. -/
def newSource (machine : Machine) (text : Octets) : Nat × Machine :=
  let pipe := machine.fresh
  let machine := { machine with
    pipes := machine.pipes.insert pipe ({ : Pipe }.add text), fresh := pipe + 1 }
  machine.newOpening { channel := .pipe pipe, reads := true }

/-! ## Opening files -/

/-- What a file is opened for. -/
structure Mode where
  reads : Bool := false
  writes : Bool := false
  appends : Bool := false
  /-- Whether the file is emptied. -/
  empties : Bool := false
  /-- Whether the file is made if it is not there. -/
  creates : Bool := false
  /-- Whether it is a mistake that there is a file. -/
  exclusive : Bool := false

def Mode.input : Mode := { reads := true }
def Mode.output : Mode := { writes := true, empties := true, creates := true }
def Mode.append : Mode := { writes := true, appends := true, creates := true }
def Mode.both : Mode := { reads := true, writes := true, creates := true }

/-- The permissions of a new file or directory, of which the process withholds some. -/
def masked (machine : Machine) (mode : Nat) : Nat := mode &&& (0o777 ^^^ machine.self.mask)

/-- The number that a path names which leads to what the process has open. -/
def descriptorOf? (path : String) : Option Nat :=
  if path == "/dev/stdin" then some 0
  else if path == "/dev/stdout" then some 1
  else if path == "/dev/stderr" then some 2
  else if path.startsWith "/dev/fd/" then (path.drop 8).toNat?
  else if path.startsWith "/proc/self/fd/" then (path.drop 14).toNat?
  else none

/-- Opens once more what is open under a number. -/
def reopen (machine : Machine) (number : Nat) (mode : Mode) : Except FileError Nat × Machine :=
  match machine.opening? number with
  | none => (.error .notFound, machine)
  | some (_, opening) =>
    let again : Opening := match opening.channel with
      | .node node =>
        { channel := .node node, reads := mode.reads, writes := mode.writes,
          appends := mode.appends }
      | channel => { channel, reads := mode.reads, writes := mode.writes }
    let machine := match opening.channel with
      | .node node =>
        if mode.empties then { machine with files := machine.files.setBytes node .empty }
        else machine
      | _ => machine
    let (opening, machine) := machine.newOpening again
    (.ok opening, machine)

/-- Opens the file at a path. -/
def openFile (machine : Machine) (path : Octets) (mode : Mode) : Except FileError Nat × Machine :=
  let path := path.toText
  match descriptorOf? path with
  | some number => machine.reopen number mode
  | none =>
    match machine.files.resolve machine.place path with
    | .error cause => (.error cause, machine)
    | .ok found =>
      let open_ (machine : Machine) (channel : Channel) : Except FileError Nat × Machine :=
        let (opening, machine) := machine.newOpening
          { channel, reads := mode.reads, writes := mode.writes, appends := mode.appends }
        (.ok opening, machine)
      match machine.files.number? found.place, machine.files.node? found.place with
      | some number, some node =>
        match node.content with
        | .file _ =>
          if mode.exclusive then (.error .alreadyThere, machine)
          else if found.slash then (.error .notDirectory, machine)
          else if mode.empties then
            open_ { machine with files := machine.files.setBytes number .empty } (.node number)
          else open_ machine (.node number)
        | .directory =>
          if mode.writes then (.error .isDirectory, machine) else open_ machine (.node number)
        | .device .null => open_ machine .null
        | .device .zero => open_ machine .zero
        | .device .full => open_ machine .full
        | .device (.descriptor number) => machine.reopen number mode
        | .link _ => (.error .tooManyLinks, machine)
      | _, _ =>
        if !mode.creates then (.error .notFound, machine)
        else if found.slash then (.error .isDirectory, machine)
        else
          let files := machine.files
          let files := files.create found.place (.file .empty files.clock (machine.masked 0o666))
          match files.number? found.place with
          | some number => open_ { machine with files } (.node number)
          | none => (.error .notFound, machine)

/-! ## Pipes -/

/-- Whether a process that has not ended keeps one of some openings. -/
def isKept (machine : Machine) (openings : List Nat) : Bool :=
  machine.records.fold
    (fun found _ record => found || (record.ending.isNone && openings.any record.keeps)) false

def pipe (machine : Machine) (number : Nat) : Pipe := (machine.pipes[number]?).getD {}

def hasWriter (machine : Machine) (number : Nat) : Bool :=
  machine.isKept (machine.pipe number).writers

def hasReader (machine : Machine) (number : Nat) : Bool :=
  machine.isKept (machine.pipe number).readers

/-- Whether reading from a pipe need not wait. -/
def isReadable (machine : Machine) (number : Nat) : Bool :=
  (machine.pipe number).size != 0 || !machine.hasWriter number

/-- Whether writing so much to a pipe need not wait. -/
def isWritable (machine : Machine) (number size : Nat) : Bool :=
  (machine.pipe number).size + min size Pipe.unit ≤ Pipe.capacity || !machine.hasReader number

def takeFromPipe (machine : Machine) (number most : Nat) : Octets × Machine :=
  let (octets, pipe) := (machine.pipe number).take most
  (octets, { machine with pipes := machine.pipes.insert number pipe })

/-- Puts octets back in front of what a pipe holds. -/
def returnToPipe (machine : Machine) (number : Nat) (octets : Octets) : Machine :=
  { machine with pipes := machine.pipes.modify number fun pipe =>
    { pipe with front := octets ++ pipe.front, size := pipe.size + octets.length } }

def addToPipe (machine : Machine) (number : Nat) (octets : Octets) : Machine :=
  { machine with pipes := machine.pipes.modify number (·.add octets) }

/-! ## Reading and writing -/

def moveTo (machine : Machine) (opening offset : Nat) : Machine :=
  { machine with openings := machine.openings.modify opening fun o => { o with offset } }

/-- Reads from a file. -/
def readNode (machine : Machine) (opening : Nat) (offset node most : Nat) :
    Except FileError Octets × Machine :=
  match (machine.files.nodes[node]?).map Node.content with
  | some (.file bytes) =>
    let part := bytes.extract offset (offset + most)
    (.ok (Octets.ofBytes part), machine.moveTo opening (offset + part.size))
  | some .directory => (.error .isDirectory, machine)
  | _ => (.ok [], machine)

/-- The content of a file after octets were written over it from a place on. -/
def overwritten (bytes : ByteArray) (offset : Nat) (octets : Octets) : ByteArray :=
  if offset == bytes.size then
    octets.foldl (fun bytes c => bytes.push (UInt8.ofNat c.toNat)) bytes
  else
    let before := bytes.extract 0 offset
    let gap := ByteArray.mk (Array.replicate (offset - bytes.size) 0)
    before ++ gap ++ Octets.toBytes octets ++ bytes.extract (offset + octets.length) bytes.size

/-- Writes to a file; writing nothing does not stamp it. -/
def writeNode (machine : Machine) (opening : Nat) (state : Opening) (node : Nat)
    (octets : Octets) : Machine :=
  match (machine.files.nodes[node]?).bind Node.bytes? with
  | some bytes =>
    if octets.isEmpty then machine
    else
      let offset := if state.appends then bytes.size else state.offset
      { machine with files := machine.files.setBytes node (overwritten bytes offset octets) }.moveTo
        opening (offset + octets.length)
  | none => machine

/-- Prints. -/
def print (machine : Machine) (octets : Octets) : Machine :=
  { machine with output := octets.reverse ++ machine.output }

/-- Reports. -/
def report (machine : Machine) (octets : Octets) : Machine :=
  { machine with errors := octets.reverse ++ machine.errors }

end Machine
end TaskRunner.Shell
