import TaskRunner.Shell.Program
/- # TaskRunner.Shell.Call -- programs and functions

A program is carried out by a process of its own, which the shell waits for; where nothing is left for
the shell to do it becomes the program itself.  A function is carried out by the shell, with
arguments and variables that it has for the time being. -/

namespace TaskRunner.Shell.Call
set_option autoImplicit false

/-! ## Programs -/

/-- The variables that a process leaves to a program, by name. -/
def environment (process : Process) : List (Octets × Octets) :=
  process.bindings.environment.mergeSort fun a b => Octets.isOrdered a.1 b.1

/-- The status of a program that cannot be started. -/
def causeStatus (isExtended : Bool) : FileError → Nat
  | .notFound | .tooManyLinks | .nameTooLong => 127
  | .notDirectory => if isExtended then 126 else 127
  | _ => 126

/-- Why a program cannot be started, in the words of the plain dialect. -/
def plainCause : FileError → String
  | .notFound | .notDirectory => "not found"
  | cause => cause.wording

/-- Reports that a program cannot be started. -/
def refuse (name path : Octets) (cause : FileError) : Work Unit := do
  let process ← Work.process
  if process.isExtended then
    let image ← Work.look fun machine =>
      (Program.content machine path).toOption.map Image.ofBytes
    let isDirectory ← Work.look fun machine =>
      machine.files.isDirectory machine.place path.toText
    let wording := match image, cause with
      | some (.script _ _), .notFound => "cannot execute: required file not found"
      | _, .badFormat => s!"cannot execute binary file: {cause.wording}"
      | _, .denied => if isDirectory then FileError.isDirectory.wording else cause.wording
      | _, cause => cause.wording
    let shown := if process.command.isEmpty then path else name
    Work.complain s!"{shown.toText}: {wording}"
  else Work.complain s!"{name.toText}: {plainCause cause}"
  Work.setStatus (causeStatus process.isExtended cause)

/-- Becomes the program at a path; what cannot be becomes the end of the process. -/
def become (runner : Runner) (path name : Octets) (arguments : List Octets) : Work Unit := do
  let process ← Work.process
  Work.change (·.modifySelf fun record =>
    { record with caught := [], pending := [], saved := [], held := [] })
  let environment := environment process
  let start (path name : Octets) (arguments : List Octets) : Work (Except FileError Ending) :=
    Work.act (runner.execute { path, name, arguments, environment })
  let finish (result : Except FileError Ending) : Work Unit := do
    match result with
    | .ok ending => Work.act (Action.stop ending)
    | .error cause =>
      refuse name path cause
      Work.modify fun process => { process with traps := [] }
      Work.leave .process
  match ← start path name arguments with
  | .error .badFormat =>
    let isText ← Work.look fun machine =>
      match (Program.content machine path).map Image.ofBytes with
      | .ok .text => true
      | _ => false
    if isText then
      let shell := if process.isExtended then "/bin/bash".toList else "/bin/sh".toList
      finish (← start shell shell (path :: arguments))
    else finish (.error .badFormat)
  | result => finish result

/-- Starts a program and waits for it. -/
def startProgram (runner : Runner) (flags : Flags) (path name : Octets) (arguments : List Octets) :
    Work Unit := do
  let process ← Work.process
  if flags.final && process.traps.isEmpty then become runner path name arguments
  else
    Work.setStatus (← Work.await (← Work.fork runner [] (become runner path name arguments)))

/-- Finds a program by its name; the causes are those for which there is none. -/
def findProgram (name : Octets) (standard : Bool) : Work (Except FileError Octets) := do
  let process ← Work.process
  let directories := if standard then Program.defaultPath
    else (process.bindings.text? "PATH".toList).getD Program.defaultPath
  if name.isEmpty then return .error (if process.isExtended then .notFound else .denied)
  else
    let result ← Work.look fun machine => Program.find machine directories name
    match result with
    | .ok path =>
      if !name.contains '/' && !process.found.contains name then
        Work.modify fun process => { process with found := name :: process.found }
      return .ok path
    | .error cause => return .error cause

/-- Carries out the program of a name. -/
def program (runner : Runner) (flags : Flags) (standard : Bool) (name : Octets)
    (arguments : List Octets) : Work Unit := do
  match ← findProgram name standard with
  | .ok path => startProgram runner flags path name arguments
  | .error cause =>
    let process ← Work.process
    if process.isExtended then
      let directories := (process.bindings.text? "PATH".toList).getD []
      -- A file that may not be executed is named by its path.
      let denied ← Work.look fun machine =>
        (Program.candidates directories name).find? fun path =>
          machine.files.isFile machine.place path.toText
      match denied with
      | some path =>
        Work.complain s!"{path.toText}: {FileError.denied.wording}"
        Work.setStatus 126
      | none =>
        let isLookedUp := !directories.isEmpty || name.isEmpty
        let wording := if isLookedUp then "command not found" else FileError.notFound.wording
        Work.complain s!"{name.toText}: {wording}"
        Work.setStatus 127
    else
      Work.complain s!"{name.toText}: {plainCause cause}"
      Work.setStatus 127

/-- Becomes the program of a name, as a command of the shell. -/
def replace (runner : Runner) (calledAs : Option Octets) (name : Octets) (arguments : List Octets) :
    Work Unit := do
  match ← findProgram name false with
  | .ok path => become runner path (calledAs.getD name) arguments
  | .error cause =>
    let process ← Work.process
    if process.isExtended then Work.complain s!"{name.toText}: not found"
    else Work.complain s!"{name.toText}: {plainCause cause}"
    Work.setStatus (causeStatus process.isExtended cause)
    Work.leave .process

/-! ## Functions -/

/-- How deep functions may call one another before there is no room left. -/
def maxCalls : Nat := 12000

/-- Carries out a function. -/
def function (runner : Runner) (flags : Flags) (name : Octets) (body : Command)
    (arguments : List Octets) : Work Unit := do
  let process ← Work.process
  if process.calls.length ≥ maxCalls then Work.act (Action.stop (.signal Signal.segmentation))
  else
    let restore (before after : Process) : Process :=
      let values := after.shadowed.getD []
      { after.restore values with
        arguments := before.arguments, shadowed := before.shadowed, calls := before.calls
        loops := before.loops }
    Work.restoring restore do
      Work.modify fun process =>
        { process with arguments, shadowed := some [], calls := name :: process.calls, loops := 0 }
      match ← Work.attempt (runner.run { flags with final := false } body) with
      | .error .function => return ()
      | result => Work.resume result

end TaskRunner.Shell.Call
