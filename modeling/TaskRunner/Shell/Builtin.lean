import TaskRunner.Shell.Builtin.Control
import TaskRunner.Shell.Builtin.Directory
import TaskRunner.Shell.Builtin.Lookup
import TaskRunner.Shell.Builtin.Output
import TaskRunner.Shell.Builtin.Processes
import TaskRunner.Shell.Builtin.Reading
import TaskRunner.Shell.Builtin.Variables
import TaskRunner.Shell.Call
/- # TaskRunner.Shell.Builtin -- the commands of the shell by name

Both dialects have most commands in common.  The commands `command` and `builtin`, which carry out
others, are not among them: they are part of how a simple command is read. -/

namespace TaskRunner.Shell.Builtin
set_option autoImplicit false

/-- A command that is given its arguments alone. -/
def usual (run : List Octets → Work Unit) : Builtin := { run := fun _ _ => run }

/-- A special command that is given its arguments alone. -/
def distinguished (run : List Octets → Work Unit) : Builtin := { special := true, run := fun _ _ => run }

/-- The commands whose arguments may be assignments. -/
def declaring (run : List Octets → Work Unit) : Builtin :=
  { special := true, declares := true, run := fun _ _ => run }

/-- Becomes another program. -/
def exec (runner : Runner) (arguments : List Octets) : Work Unit := do
  let process ← Work.process
  let (found, words) ← if process.isExtended then options "cla:" "exec [-cl] [-a name] [command [argument ...]] [redirection ...]" arguments
    else pure ([], if arguments.head? == some ['-', '-'] then arguments.tail else arguments)
  match words with
  | [] => succeed
  | name :: rest => Call.replace runner (found.lookup 'a') name rest

/-- The commands of both dialects, but for those that ask what names stand for. -/
def common? (name : String) : Option Builtin :=
  match name with
  | ":" => some (distinguished fun _ => succeed)
  | "." => some { special := true, run := source }
  | "break" => some (distinguished (leaveLoops .loops))
  | "continue" => some (distinguished (leaveLoops .round))
  | "eval" => some { special := true, run := eval }
  | "exec" => some { special := true, run := fun runner _ => exec runner }
  | "exit" => some (distinguished exit)
  | "export" => some (declaring exportVariables)
  | "readonly" => some (declaring fixVariables)
  | "local" => some (declaring declareLocal)
  | "return" => some (distinguished goBack)
  | "set" => some (distinguished set)
  | "shift" => some (distinguished shift)
  | "times" => some (distinguished fun _ => times)
  | "trap" => some (distinguished trap)
  | "unset" => some (distinguished unset)
  | "[" => some (usual (test true))
  | "alias" => some { declares := true, run := fun _ _ => setAliases }
  | "bg" | "fg" => some (usual fun _ => moveJob)
  | "cd" => some (usual changeDirectory)
  | "echo" => some (usual echo)
  | "false" => some (usual fun _ => Work.setStatus 1)
  | "getopts" => some (usual readOption)
  | "hash" => some (usual rememberPrograms)
  | "jobs" => some (usual listJobs)
  | "kill" => some (usual kill)
  | "printf" => some (usual printf)
  | "pwd" => some (usual printDirectory)
  | "read" => some (usual read)
  | "test" => some (usual (test false))
  | "true" => some (usual fun _ => succeed)
  | "ulimit" => some (usual limit)
  | "umask" => some (usual setMask)
  | "unalias" => some (usual unsetAliases)
  | "wait" => some (usual wait)
  | _ => none

/-- The commands of the extended dialect alone. -/
def extended? (name : String) : Option Builtin :=
  match name with
  | "source" => some { run := source }
  | "declare" | "typeset" =>
    some { declares := true, run := fun _ _ => declareExtended false }
  | "let" => some (usual calculate)
  | "mapfile" | "readarray" => some (usual readArray)
  | "shopt" => some (usual setShellOptions)
  | "dirs" => some (usual fun _ => listDirectories)
  | "pushd" => some (usual pushDirectory)
  | "popd" => some (usual fun _ => popDirectory)
  | "disown" | "enable" | "bind" | "complete" | "compgen" | "suspend" | "history" | "logout" =>
    some (usual fun _ => succeed)
  | _ => none

/-- The command of a name, but for those that ask what names stand for. -/
def basic? (dialect : Dialect) (name : String) : Option Builtin :=
  match common? name with
  | some builtin =>
    if dialect == .extended then some { builtin with special := false } else some builtin
  | none =>
    if dialect == .extended then extended? name
    else if name == "chdir" then some (usual changeDirectory)
    else none

/-- Whether a name is that of a command of the shell, and if so whether of a special one. -/
def isSpecial (dialect : Dialect) (name : Octets) : Option Bool :=
  if name == "command".toList || name == "type".toList then some false
  else if dialect == .extended && name == "builtin".toList then some false
  else (basic? dialect (Octets.toText name)).map (·.special)

/-- The command of a name. -/
def ofName? (dialect : Dialect) (name : Octets) : Option Builtin :=
  if name == "type".toList then some (usual (typeOf (isSpecial dialect)))
  else basic? dialect (Octets.toText name)

end TaskRunner.Shell.Builtin
