import TaskRunner.Shell.Execution
import TaskRunner.Shell.Startup
import TaskRunner.Shell.Utility
/- # TaskRunner.Shell.Interpreter -- programs, shells and commands together

A shell carries out commands, commands start programs, and a program may be a shell.  This is the knot
of the three: a `Runner` that carries out everything, as deep as it is nested.  The files of the
machine's programs are put into its directories here as well.

One program is none of the machine's: the one that has started the commands.  A command finds its file
where the machine keeps the processes, and what it does when it is called is given from outside. -/

namespace TaskRunner.Shell.Interpreter
set_option autoImplicit false

/-- The shells by name. -/
def dialect? (name : String) : Option Dialect :=
  match name with
  | "sh" | "dash" => some .plain
  | "bash" => some .extended
  | _ => none

/-- How many scripts may be the readers of one another. -/
def maxReaders : Nat := 5

/-- The program that has started the commands. -/
def callerName : String := "run"

/-- What that program does, given its arguments. -/
abbrev Caller := List Octets → Action Ending

/-- Whether the machine has a program of a name. -/
def isProgram (name : String) : Bool :=
  (dialect? name).isSome || (Utility.ofName? name).isSome || name == callerName

/-- The program that is started for a file, and how it is called then: a script is an argument of
its reader. -/
def resolve (machine : Machine) (readers : Nat) (invocation : Invocation) :
    Except FileError (String × Invocation) := do
  match Image.ofBytes (← Program.content machine invocation.path) with
  | .program name => if isProgram name then return (name, invocation) else .error .badFormat
  | .script reader argument =>
    match readers with
    | 0 => .error .tooManyLinks
    | readers + 1 =>
      if reader.isEmpty then .error .badFormat
      else
        let arguments := argument.toList ++ invocation.path :: invocation.arguments
        resolve machine readers { invocation with path := reader, name := reader, arguments }
  | .text | .other => .error .badFormat

/-- Carries out a program. -/
def program (caller : Caller) (runner : Runner) (name : String) (invocation : Invocation) :
    Action Ending :=
  match dialect? name, Utility.ofName? name with
  | some dialect, _ => Startup.run runner dialect invocation
  | none, some utility => utility runner.execute invocation
  | none, none =>
    if name == callerName then caller invocation.arguments else pure (.status 127)

/-- Becomes the program of a file. -/
def execute (caller : Caller) (runner : Runner) (invocation : Invocation) :
    Action (Except FileError Ending) := do
  match ← Action.look fun machine => resolve machine maxReaders invocation with
  | .error cause => return .error cause
  | .ok (name, invocation) => return .ok (← program caller runner name invocation)

/-- How deep commands, scripts and programs may be nested in one another. -/
def maxDepth : Nat := 1000000

/-- Carries out what is nested so deep at most. -/
def runner (caller : Caller) : Nat → Runner
  | 0 => {
    run := fun _ _ => Work.leave .process
    script := fun _ _ => Work.leave .process
    execute := fun _ => pure (.error .argumentsTooLong) }
  | depth + 1 => {
    run := fun flags command => Execution.run (runner caller depth) flags command
    script := fun flags text => Runner.runText (runner caller depth) flags text
    execute := fun invocation => execute caller (runner caller depth) invocation }

/-- What is started for a name: its program, or what reads its text. -/
def resolveName (machine : Machine) (environment : List (Octets × Octets)) (name : Octets)
    (arguments : List Octets) : Except FileError (String × Invocation) := do
  let directories := (Program.setting? environment "PATH").getD Program.defaultPath
  if name.isEmpty then .error .notFound
  else
    let path ← Program.find machine directories name
    match resolve machine maxReaders { path, name, arguments, environment } with
    | .error .badFormat =>
      let shell := "/bin/sh".toList
      resolve machine maxReaders
        { path := shell, name := shell, arguments := path :: arguments, environment }
    | result => result

/-- Carries out a program with nothing around it. -/
def start (caller : Caller) (name : String) (invocation : Invocation) : Action Ending :=
  program caller (runner caller maxDepth) name invocation

/-! ## The files of a machine -/

/-- The directory of the programs. -/
def directory : Location := ["usr", "bin"]

/-- Where the file is of the program that has started the commands. -/
def callerPlace : Location := ["proc", toString Machine.caller, "exe"]

/-- The files that a machine has to begin with. -/
def install (files : FileSystem) : FileSystem :=
  let clock := files.clock
  let make (files : FileSystem) (path : String) : FileSystem :=
    (files.makeDirectories [] path).toOption.getD files
  let files := ["/dev", "/root", "/tmp", "/usr/bin", "/usr/sbin", "/usr/local/bin",
    "/usr/local/sbin", "/etc", "/var", "/home", "/opt",
    "/" ++ "/".intercalate callerPlace.dropLast].foldl make files
  let names := ["sh", "dash", "bash"] ++ Utility.table.map (·.1)
  let files := names.foldl
    (fun (files : FileSystem) name =>
      files.put (directory ++ [name])
        (.file (Image.ofProgram name) clock 0o755))
    files
  let files := files.put callerPlace (.file (Image.ofProgram callerName) clock 0o755)
  let devices : List (String × Device) := [("null", .null), ("zero", .zero), ("full", .full),
    ("stdin", .descriptor 0), ("stdout", .descriptor 1), ("stderr", .descriptor 2)]
  let files := devices.foldl
    (fun (files : FileSystem) (name, device) => files.put ["dev", name] (.device device clock)) files
  [("bin", "usr/bin"), ("sbin", "usr/sbin")].foldl
    (fun (files : FileSystem) (name, target) => files.put [name] (.link target clock)) files

end TaskRunner.Shell.Interpreter
