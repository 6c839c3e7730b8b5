import TaskRunner.Shell.Program
/- # TaskRunner.Shell.Startup -- a shell as a program

A shell is a program that reads commands from an argument, from a file or from its input and carries
them out.  It sees the variables that it was given and some of its own; the words behind its name set
options, and what is left of them are its arguments. -/

namespace TaskRunner.Shell.Startup
set_option autoImplicit false

/-! ## Variables -/

def isNameStart (c : Char) : Bool := c.isAlpha || c == '_'

/-- Whether a text is a name of a variable. -/
def isName : Octets → Bool
  | [] => false
  | c :: rest => isNameStart c && rest.all fun c => isNameStart c || c.isDigit

/-- The path of a location. -/
def pathOf (place : Location) : Octets := Octets.ofText ("/" ++ "/".intercalate place)

/-- The path by which the working directory is known: the one that the environment names, if it
leads there. -/
def directory (environment : List (Octets × Octets)) (machine : Machine) : Octets :=
  let known := (Program.setting? environment "PWD").filter fun path =>
    path.head? == some '/' &&
      (machine.files.find machine.place (Octets.toText path)).toOption.any (·.1 == machine.place)
  known.getD (pathOf machine.place)

/-- The version of the extended dialect. -/
def version : String := "5.2.21(1)-release"

/-- The variables that a shell of its own has, unless it is given them. -/
def defaults : Dialect → List (String × Octets)
  | .plain => [("PATH", Program.defaultPath), ("PS1", "# ".toList)]
  | .extended => [("PATH", Program.defaultPath), ("SHELL", "/bin/bash".toList),
    ("TERM", "dumb".toList), ("HOSTNAME", "localhost".toList)]

/-- The variables that a shell has whatever it is given. -/
def fixed (machine : Machine) : Dialect → List (String × Octets)
  | .plain => [("IFS", " \t\n".toList), ("OPTIND", "1".toList), ("PS2", "> ".toList),
    ("PPID", Octets.ofNat machine.self.parent)]
  | .extended => [("IFS", " \t\n".toList), ("OPTIND", "1".toList), ("OPTERR", "1".toList),
    ("PPID", Octets.ofNat machine.self.parent), ("UID", "0".toList), ("EUID", "0".toList),
    ("BASH", "/usr/bin/bash".toList), ("BASH_VERSION", version.toList),
    ("HOSTTYPE", "x86_64".toList), ("OSTYPE", "linux-gnu".toList),
    ("MACHTYPE", "x86_64-pc-linux-gnu".toList)]

/-- The depth of shells, of which this one is one more. -/
def level (environment : List (Octets × Octets)) : Nat :=
  (((Program.setting? environment "SHLVL").bind Octets.natural?).getD 0) + 1

/-- The variables with which a shell starts. -/
def bindings (dialect : Dialect) (environment : List (Octets × Octets)) (machine : Machine) :
    Variables :=
  let given := environment.filter fun (name, _) => dialect == .extended || isName name
  let imported : Variables := given.foldl
    (fun bindings (name, value) =>
      bindings.insert name { value := some (.scalar value), exported := true })
    {}
  let missing := (defaults dialect ++ [("PS4", "+ ".toList)]).filter fun (name, _) =>
    !imported.contains name.toList
  let found := (missing ++ fixed machine dialect).foldl
    (fun (bindings : Variables) (name, value) => bindings.set name.toList value) imported
  let found : Variables := found.insert "PWD".toList
    { value := some (.scalar (directory environment machine)), exported := true }
  if dialect == .plain then found
  else
    let versions := ["5", "2", "21", "1", "release", "x86_64-pc-linux-gnu"]
    let found : Variables := found.setValue "BASH_VERSINFO".toList
      (.indexed (versions.mapIdx fun i text => (i, text.toList)))
    found.insert "SHLVL".toList
      { value := some (.scalar (Octets.ofNat (level environment))), exported := true }

/-- A shell as it starts. -/
def initial (dialect : Dialect) (invocation : Invocation) (machine : Machine) : Process where
  dialect
  bindings := bindings dialect invocation.environment machine
  name := invocation.name
  number := machine.current
  options := Setting.initial dialect
  line := 0
  directory := directory invocation.environment machine
  started := machine.files.clock

/-! ## Mistakes -/

def usage : String := "\n".intercalate [
  "Usage:\tbash [GNU long option] [option] ...",
  "\tbash [GNU long option] [option] script-file ...",
  "GNU long options:",
  "\t--debug", "\t--debugger", "\t--dump-po-strings", "\t--dump-strings", "\t--help",
  "\t--init-file", "\t--login", "\t--noediting", "\t--noprofile", "\t--norc", "\t--posix",
  "\t--pretty-print", "\t--rcfile", "\t--restricted", "\t--verbose", "\t--version",
  "Shell options:",
  "\t-ilrsD or -c command or -O shopt_option\t\t(invocation only)",
  "\t-abefhkmnptuvxBCEHPT or -o option"]

/-- Reports something before any command, and ends with a status. -/
def refuse (process : Process) (status : Nat) (text : String) : Action Ending := do
  let place := if process.isExtended then "" else "0: "
  Action.complain s!"{process.name.toText}: {place}{text}"
  return .status status

/-- Refuses an option. -/
def refuseOption (process : Process) (refusal : Setting.Refusal) : Action Ending := do
  if !process.isExtended then refuse process 2 refusal.message
  else
    match refusal with
    | .word _ _ => refuse process 2 s!"{process.name.toText}: {refusal.extendedMessage}"
    | _ =>
      let _ ← refuse process 2 refusal.extendedMessage
      Action.complain usage
      return .status 2

/-! ## Commands -/

/-- Carries out the commands of a file. -/
def runFile (runner : Runner) (process : Process) (path : Octets) : Action Ending := do
  let name := Octets.toText path
  let bytes ← Action.readFile path
  let isDirectory ← Action.look fun machine => machine.files.isDirectory machine.place name
  if process.isExtended then
    match bytes with
    | .error .isDirectory => refuseFile s!"{name}: {FileError.isDirectory.wording}" 126
    | .error cause =>
      refuse process (if cause == .notFound then 127 else 126) s!"{name}: {cause.wording}"
    | .ok text =>
      match Image.ofBytes (Octets.toBytes text) with
      | .other | .program _ => refuseFile s!"{name}: cannot execute binary file" 126
      | _ =>
        let process := { process with name := path, source := some name }
        Work.toEnding runner (Runner.runText runner {} text) process
  else
    match bytes with
    | .error cause =>
      if isDirectory then return .status 0
      else
        let wording := if cause == .notFound || cause == .notDirectory then "No such file"
          else cause.wording
        refuse process 2 s!"cannot open {name}: {wording}"
    | .ok text =>
      let text := text.filter (· != '\x00')
      Work.toEnding runner (Runner.runText runner {} text) { process with name := path }
where
  refuseFile (text : String) (status : Nat) : Action Ending := do
    Action.complain s!"{path.toText}: {text}"
    return .status status

/-- Carries out the commands of an argument. -/
def runArgument (runner : Runner) (process : Process) (text : Octets) (rest : List Octets) :
    Action Ending :=
  let process := { process with
    origin := "-c", name := rest.head?.getD process.name, arguments := rest.tail }
  let process := if process.isExtended then
      let process := process.setOption "command" true
      { process with
        bindings := process.bindings.set "BASH_EXECUTION_STRING".toList text }
    else process
  Work.toEnding runner (Runner.runText runner { final := true } text) process

/-- Carries out what a shell is asked for. -/
def run (runner : Runner) (dialect : Dialect) (invocation : Invocation) : Action Ending := do
  let process ← Action.look (initial dialect invocation)
  let words := invocation.arguments
  match Setting.read true (words.length + 1) { process, rest := words } with
  | .error refusal => refuseOption process refusal
  | .ok given =>
    let process := given.process
    given.listed.forM fun isTable => do
      let text := if isTable then Setting.table process else Setting.commands process
      let _ ← Action.write 1 (Octets.ofText text)
    if process.has "version" then
      let _ ← Action.write 1 (Octets.ofText
        s!"GNU bash, version {version} (x86_64-pc-linux-gnu)\n")
      return .status 0
    else
      match given.isScript, given.rest with
      | true, [] =>
        refuse process 2
          (if process.isExtended then "-c: option requires an argument" else "-c requires an argument")
      | true, text :: rest => runArgument runner process text rest
      | false, rest =>
        match if process.has "stdin" then none else rest.head? with
        | some path => runFile runner { process with arguments := rest.tail } path
        | none =>
          Work.toEnding runner (Runner.runInput runner)
            { process.setOption "stdin" true with arguments := rest }

end TaskRunner.Shell.Startup
