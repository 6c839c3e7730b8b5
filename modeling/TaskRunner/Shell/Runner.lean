import TaskRunner.Shell.Expansion
import TaskRunner.Shell.Reader
/- # TaskRunner.Shell.Runner -- how commands reach the rest of the shell

Commands are made of other commands, and of scripts and programs that a shell reads or starts.  A
`Runner` says how those are carried out; everything that carries out one kind of command is given a
runner for what is inside of it.

A copy of a process carries out what stands in brackets, behind a pipe or inside a word.  It does not
share the process's arrangements for signals. -/

namespace TaskRunner.Shell
set_option autoImplicit false

/-- A program that is to be started: its path, the name by which it is called, what it is given, and
the variables that it sees. -/
structure Invocation where
  path : Octets
  name : Octets
  arguments : List Octets := []
  environment : List (Octets × Octets) := []
  deriving Inhabited

/-- Becomes another program, unless that cannot be. -/
abbrev Execute := Invocation → Action (Except FileError Ending)

/-- What is around a command. -/
structure Flags where
  /-- Whether a failure has been provided for. -/
  guarded : Bool := false
  /-- Whether the process does nothing behind it. -/
  final : Bool := false
  deriving Inhabited

namespace Flags

/-- The flags of a command behind which something is still done. -/
def inner (flags : Flags) : Flags := { flags with final := false }

end Flags

/-- How commands, scripts and programs are carried out. -/
structure Runner where
  run : Flags → Command → Work Unit
  script : Flags → Octets → Work Unit
  execute : Execute

namespace Work

/-! ## The end of a process -/

/-- Carries out what a process has arranged for a signal, or for its end. -/
def interrupt (runner : Runner) (text : Octets) : Work Unit := do
  let before ← process
  modify fun process => { process with interrupted := some before.status, command := [] }
  let result ← attempt (runner.script {} text)
  let after ← process
  modify fun process =>
    { process with
      interrupted := before.interrupted, command := before.command
      status := match result with
        | .error .process => after.interrupted.getD before.status
        | _ => before.status }
  resume result

/-- All that a process does. -/
def whole (runner : Runner) (work : Work Unit) : Work Unit := do
  let _ ← attempt work
  let process ← process
  match process.traps.lookup 0 with
  | none => return ()
  | some text =>
    modify fun process => { process with traps := process.traps.filter (·.1 != 0) }
    let _ ← attempt (interrupt runner text)
    return ()

/-- All that a process does, as an action. -/
def toEnding (runner : Runner) (work : Work Unit) (process : Process) : Action Ending := do
  let (_, process) ← (whole runner work).toAction process
  return .status (process.status % 256)

/-- Carries out what is arranged for the signals that have come. -/
def takeSignals (runner : Runner) (fuel : Nat) : Work Unit :=
  match fuel with
  | 0 => return ()
  | fuel + 1 => do
    match ← look (·.self.pending) with
    | [] => return ()
    | signal :: rest =>
      change (·.modifySelf fun record => { record with pending := rest })
      let process ← process
      match process.traps.lookup signal with
      | some text =>
        if !text.isEmpty then interrupt runner text
        takeSignals runner fuel
      | none => takeSignals runner fuel

/-- How many signals are taken at once, at most. -/
def maxSignals : Nat := 1000

/-! ## Copies -/

/-- A process as its copy begins. -/
def asCopy (process : Process) : Process :=
  { process with
    traps := process.traps.filter (·.2.isEmpty), jobs := [], interrupted := none }

/-- Starts a copy of the process that carries out work, with other openings under some numbers. -/
def fork (runner : Runner) (streams : List (Nat × Nat)) (work : Work Unit) : Work Nat := do
  let process ← process
  act (Action.fork streams (toEnding runner work (asCopy process)))

/-- Waits for a process that was started, and reports the signal that ended it. -/
def await (child : Nat) : Work Nat := do
  let ending ← act (Action.wait child)
  match ending with
  | .signal signal =>
    if signal != Signal.interrupt && signal != Signal.pipe && !(← process).isExtended then
      report (Signal.meaning signal)
  | .status _ => pure ()
  return ending.toStatus

/-- Waits for processes that were started, and gives their statuses. -/
def awaitAll (children : List Nat) : Work (List Nat) := children.mapM await

/-- Carries out work in a copy of the process and waits for it. -/
def inCopy (runner : Runner) (work : Work Unit) : Work Unit := do
  let child ← fork runner [] work
  setStatus (← await child)

end Work

namespace Runner

/-! ## Commands in words -/

/-- The file that a command reads and does nothing else with. -/
def onlyReads? (command : Command) : Option Word :=
  match command with
  | .simple _ [] [] [.mk 0 _ .input target] _ => some target
  | .sequence [.simple _ [] [] [.mk 0 _ .input target] _] => some target
  | _ => none

/-- What work prints when a copy of the process carries it out; the status is kept. -/
def outputOf (runner : Runner) (work : Work Unit) : Work Octets := do
  let (reader, writer) ← Work.act (Action.update Machine.newPipe)
  let child ← Work.fork runner [(1, writer)] work
  let number ← Work.look Action.freeNumber
  Work.change (·.setDescriptor number reader)
  let text ← Work.act (Action.readAll number)
  Work.change (·.close number)
  let status ← Work.await child
  Work.modify fun process => { process with status, substituted := some status }
  return text.toOption.getD []

/-- The path of what is open under a number. -/
def numberPath (number : Nat) : Octets := "/dev/fd/".toList ++ Octets.ofNat number

/-- Starts a command whose output is read, or whose input is written, under a path. -/
def pathTo (runner : Runner) (reads : Bool) (command : Command) : Work Octets := do
  let (reader, writer) ← Work.act (Action.update Machine.newPipe)
  let stream := if reads then (1, writer) else (0, reader)
  let child ← Work.fork runner [stream] (runner.run { final := true } command)
  let number ← Work.look fun machine =>
    let taken := machine.self.descriptors.map (·.1)
    63 - (((List.range 50).find? fun n => !taken.contains (63 - n)).getD 0)
  Work.change (·.setDescriptor number (if reads then reader else writer))
  Work.modify fun process => { process with background := some child }
  return numberPath number

/-- How the commands in a word are carried out. -/
def substitution (runner : Runner) : Substitution where
  output command := do
    let process ← Work.process
    match if process.isExtended then onlyReads? command else none with
    | some _ => outputOf runner do
      let readsFile : Command := match command with
        | .simple line assignments _ redirects declared =>
          .simple line assignments [Word.ofOctets "cat".toList] redirects declared
        | .sequence [.simple line assignments _ redirects declared] =>
          .simple line assignments [Word.ofOctets "cat".toList] redirects declared
        | command => command
      runner.run { final := true } readsFile
    | none => outputOf runner (runner.run { final := true } command)
  path := pathTo runner

/-! ## Scripts -/

/-- Reports a mistake in a script, which is not carried out any further. -/
def refuseScript (text : Octets) (mistake : Mistake) : Work Unit := do
  let process ← Work.process
  if process.isExtended then
    let name := process.source.getD process.name.toText
    let origin := if process.origin.isEmpty then "" else s!"{process.origin}: "
    let isEnd := match mistake.fault with
      | .unexpected .nothing _ => true
      | _ => false
    let line := if isEnd then text.countP (· == '\n') + (if text.getLast? == some '\n' then 1 else 2)
      else mistake.line
    let lead := s!"{name}: {origin}{process.lineLabel line}"
    Work.report (lead ++ mistake.fault.extendedMessage)
    match mistake.fault with
    | .unexpected .nothing _ => pure ()
    | .unexpected _ _ =>
      let source := ((Octets.splitAt '\n' text)[line - 1]?).getD []
      Work.report s!"{lead}\x60{Octets.toText source}'"
    | _ => pure ()
    Work.setStatus 2
    Work.leave .mistake
  else
    Work.modify fun process => { process with line := mistake.line }
    Work.fail 2 s!"Syntax error: {mistake.fault.message}"

/-- Carries out a source line by line.  In the extended dialect a mistake puts an end to its line
alone.  Where a source is the input of the process, the commands of a line find there what is behind
the line, and what they leave of it is what comes next. -/
def runSource (runner : Runner) (flags : Flags) (isInput : Bool) (text : Octets) (fuel : Nat)
    (source : Source) : Work Unit :=
  match fuel with
  | 0 => return ()
  | fuel + 1 => do
    let process ← Work.process
    let replaces := !process.isExtended || process.has "expand_aliases"
    let source := { source with aliases := if replaces then process.aliases else {} }
    match source.nextLine? with
    | .error mistake => refuseScript text mistake
    | .ok none => return ()
    | .ok (some (command, after)) =>
      if isInput then Work.act (Action.leaveUnread 0 after.rest)
      if !process.has "noexec" then
        match ← Work.attempt
          (runner.run { flags with final := flags.final && after.rest.isEmpty } command) with
        | .error .mistake => if !process.isExtended then Work.leave .mistake
        | result => Work.resume result
      let rest ← if isInput then do pure ((← Work.act (Action.readAll 0)).toOption.getD [])
        else pure after.rest
      runSource runner flags isInput text fuel { after with rest }

/-- Carries out a text; one that has no commands succeeds. -/
def runText (runner : Runner) (flags : Flags) (text : Octets) : Work Unit := do
  let process ← Work.process
  let source : Source := { rest := text, dialect := process.dialect }
  if source.lines.rest.isEmpty then Work.setStatus 0
  else runSource runner flags false text (text.length + 1) source

/-- Carries out what the process finds in its input. -/
def runInput (runner : Runner) : Work Unit := do
  let text := (← Work.act (Action.readAll 0)).toOption.getD []
  let process ← Work.process
  if process.isExtended then
    runSource runner {} true text (text.length + 1) { rest := text, dialect := process.dialect }
  else runText runner {} (text.filter (· != '\x00'))

end Runner
end TaskRunner.Shell
