import TaskRunner.Shell.Builtin.Basic
import TaskRunner.Shell.Program
/- # TaskRunner.Shell.Builtin.Control -- commands that say how to go on

Loops, functions and the shell are left, scripts are read, and arguments are moved up. -/

namespace TaskRunner.Shell.Builtin
set_option autoImplicit false

/-- Leaves loops, as many as an argument says but no more than there are. -/
def leaveLoops (escape : Nat → Escape) (arguments : List Octets) : Work Unit := do
  let process ← Work.process
  if process.isExtended && process.loops == 0 then
    Work.complain "only meaningful in a \x60for', \x60while', or \x60until' loop"
    succeed
  else
    let count ← match arguments with
      | [] => pure 1
      | text :: _ =>
        match Octets.natural? text with
        | some (n + 1) => pure (n + 1)
        | _ =>
          if process.isExtended then Work.fail 1 s!"{text.toText}: loop count out of range"
          else Work.fail 2 s!"Illegal number: {text.toText}"
    succeed
    let count := min count process.loops
    if count == 0 then return () else Work.leave (escape count)

/-- The status that is meant where none is given. -/
def presentStatus (process : Process) : Nat := process.interrupted.getD process.status

def exit (arguments : List Octets) : Work Unit := do
  let process ← Work.process
  match arguments with
  | [] =>
    Work.setStatus (presentStatus process)
    Work.leave .process
  | text :: more =>
    if process.isExtended then
      match Octets.integer? text with
      | none =>
        Work.complain s!"{text.toText}: numeric argument required"
        Work.setStatus 2
        Work.leave .process
      | some n =>
        if !more.isEmpty then
          Work.complain "too many arguments"
          Work.setStatus 1
          Work.leave .process
        else
          let status := (n % 256).toNat
          Work.modify fun process =>
            { process with status, interrupted := process.interrupted.map fun _ => status }
          Work.leave .process
    else
      let n ← number text
      let status := n % 256
      Work.modify fun process =>
        { process with status, interrupted := process.interrupted.map fun _ => status }
      Work.leave .process

/-- Leaves a function, or a script that is read. -/
def goBack (arguments : List Octets) : Work Unit := do
  let process ← Work.process
  if process.isExtended && process.calls.isEmpty && process.scripts == 0 then
    Work.complain "can only \x60return' from a function or sourced script"
    Work.setStatus 2
  else
    let status ← match arguments with
      | [] => pure process.status
      | text :: _ =>
        if process.isExtended then
          match Octets.integer? text with
          | some n => pure (n % 256).toNat
          | none =>
            Work.complain s!"{text.toText}: numeric argument required"
            pure 2
        else number text
    Work.setStatus status
    Work.leave .function

def shift (arguments : List Octets) : Work Unit := do
  let count ← match arguments with
    | [] => pure 1
    | text :: _ => number text
  let process ← Work.process
  if count ≤ process.arguments.length then
    Work.modify fun process => { process with arguments := process.arguments.drop count }
    succeed
  else if process.isExtended then Work.setStatus 1
  else Work.fail 2 "can't shift that many"

/-- Carries out its arguments as a script. -/
def eval (runner : Runner) (flags : Flags) (arguments : List Octets) : Work Unit := do
  let arguments := if arguments.head? == some ['-', '-'] then arguments.tail else arguments
  let line := (← Work.process).line
  let restore (before after : Process) : Process :=
    { after with
      nesting := before.nesting, origin := before.origin
      line := if before.isExtended then line else after.line }
  Work.restoring restore do
    Work.modify fun process =>
      { process with nesting := process.nesting + 1, origin := "eval" }
    runner.script flags.inner (Octets.join [' '] arguments)

/-- The path of a script that a name stands for. -/
def scriptPath (name : Octets) : Work (Option Octets) := do
  let process ← Work.process
  if name.contains '/' then return some name
  else
    let directories := (process.bindings.text? "PATH".toList).getD Program.defaultPath
    let own := if process.isExtended then [name] else []
    Work.look fun machine =>
      (Program.candidates directories name ++ own).find? fun path =>
        machine.files.isFile machine.place path.toText

/-- Carries out a script in the shell itself. -/
def source (runner : Runner) (flags : Flags) (arguments : List Octets) : Work Unit := do
  let process ← Work.process
  let arguments := if arguments.head? == some ['-', '-'] then arguments.tail else arguments
  match arguments with
  | [] =>
    if process.isExtended then
      Work.complain "filename argument required"
      Work.report s!"{Octets.toText process.command}: usage: . filename [arguments]"
      Work.setStatus 2
    else succeed
  | name :: given =>
    let missing (path : Octets) (cause : FileError) : Work Unit := do
      if process.isExtended then
        Work.modify fun process => { process with command := [] }
        failing 1 s!"{path.toText}: {cause.wording}"
      else Work.fail 2 s!"cannot open {path.toText}: No such file"
    match ← scriptPath name with
    | none =>
      if process.isExtended then missing name .notFound
      else Work.fail 2 s!"{name.toText}: not found"
    | some path =>
      match ← Work.act (Action.readFile path) with
      | .error cause => missing path cause
      | .ok text =>
        let restore (before after : Process) : Process :=
          { after with
            scripts := before.scripts, source := before.source, command := before.command
            origin := before.origin
            arguments := if process.isExtended && !given.isEmpty then before.arguments
              else after.arguments }
        Work.restoring restore do
          Work.modify fun process =>
            { process with
              scripts := process.scripts + 1, origin := ""
              source := if process.isExtended then some (Octets.toText path) else process.source
              command := if process.isExtended then [] else path
              arguments := if process.isExtended && !given.isEmpty then given
                else process.arguments }
          match ← Work.attempt (runner.script (if process.isExtended then flags.inner else {}) text) with
          | .error .function => return ()
          | result => Work.resume result

end TaskRunner.Shell.Builtin
