import TaskRunner.Application
import TaskRunner.CommandLine.Arguments
/- # TaskRunner.CommandLine.Invocation -- one call of the program

A call of the program takes a command line to an exit status, in surroundings that it may change.  The
status is zero for success, one where a target failed, and two for a mistake that was found before
anything ran.

An invocation is a call on a machine with its processes.  The commands that it starts can call the
program again, on the same machine. -/

namespace TaskRunner.CommandLine
set_option autoImplicit false

open Shell (Action Octets Site)

def programName : String := "run"

def versionText : String := programName ++ " 0.1.0\n"

/-- The text that describes the command line. -/
def helpText : String := "\n".intercalate [
  "Dependency-resolving task runner",
  "",
  "Usage: run [OPTIONS] [TARGET|NAME=VALUE]...",
  "",
  "Arguments:",
  "  [TARGET|NAME=VALUE]...  Targets to run, and NAME=VALUE variable overrides",
  "",
  "Options:",
  "  -f, --file <FILE>  Runfile path (default: Runfile.yml in the current directory)",
  "  -n, --dry-run      Print the commands that would run without running them",
  "  -j, --jobs <JOBS>  Maximum number of targets running at once [default: 1]",
  "  -k, --keep-going   After a failure, keep running targets that do not depend on it",
  "      --check        Set CHECK=--check so recipes verify instead of regenerating",
  "  -l, --list         List targets and exit",
  "      --record       Save a run record under .runfile/runs",
  "      --last         Print the latest run record and exit",
  "  -q, --quiet        Do not echo commands",
  "  -v, --verbose...   More log output (-v info, -vv debug)",
  "  -h, --help         Print help",
  "  -V, --version      Print version",
  ""]

namespace Refusal

/-- What is wrong with a command line, in words. -/
def message : Refusal → String
  | unknownOption => "there is no such option"
  | missingValue => "an option lacks its value"
  | badNumber => "the number of jobs is malformed"
  | conflict => "options are repeated or exclude one another"
  | unwantedValue => "an option takes no value"
  | help => helpText
  | version => versionText

end Refusal

namespace Arguments

/-- The request that a command line makes for targets. -/
def request (arguments : Arguments) (targets : List String) : Request where
  targets
  dryRun := arguments.has .dryRun
  jobs := arguments.jobs.getD 1
  keepGoing := arguments.has .keepGoing
  echo := !arguments.has .quiet
  record := arguments.has .record

end Arguments

/-- What is reported of a problem: the phase that found it, or its cause down to the detail. -/
def problemText : Problem → String
  | .config e =>
    (if e.isPlanning then "planning failed: " else "configuration error: ") ++ e.message
  | problem =>
    match problem.detail? with
    | some detail => problem.message ++ ": " ++ detail
    | none => problem.message

/-- The directory whose latest record is shown for a Runfile at a path. -/
def recordRoot (path : String) : String := (Path.parent? path).getD "."

section Call

variable {World : Type} (surroundings : Surroundings World)

/-- Reports a text, as a line behind the name of the program. -/
def report (text : String) (world : World) : World :=
  surroundings.warn (programName ++ ": " ++ text ++ "\n") world

/-- Gives up because of a problem. -/
def giveUp (problem : Problem) (world : World) : Nat × World :=
  (configStatus, report surroundings (problemText problem) world)

/-- Loads the project of a path and lists it or carries out what is asked of it. -/
def carryOut (arguments : Arguments) (path : String) (targets : List String)
    (overrides : List Override) (world : World) : Nat × World :=
  match Project.load (surroundings.files world) (surroundings.directory world) path overrides with
  | .error problem => giveUp surroundings problem world
  | .ok project =>
    if arguments.has .list then (0, surroundings.say project.describe world)
    else
      let (result, world) := project.serve surroundings (arguments.request targets) world
      match result with
      | .error e => giveUp surroundings (.config e) world
      | .ok outcome =>
        (outcome.exitStatus, outcome.failures.foldl
          (fun world failure => report surroundings failure.message world) world)

/-- Does what arguments ask for. -/
def perform (arguments : Arguments) (world : World) : Nat × World :=
  let files := surroundings.files world
  let directory := surroundings.directory world
  let path : Except Problem String := match arguments.file with
    | some path => .ok path
    | none => Project.discover files directory "."
  match path with
  | .error problem => giveUp surroundings problem world
  | .ok path =>
    if arguments.has .last then
      match Session.loadLatest files directory (recordRoot path) with
      | .error problem => giveUp surroundings problem world
      | .ok session => (0, surroundings.say session.summary world)
    else
      match arguments.split with
      | .error e => giveUp surroundings (.config e) world
      | .ok (targets, overrides) => carryOut surroundings arguments path targets overrides world

/-- Calls the program. -/
def call (line : List String) (world : World) : Nat × World :=
  match Arguments.parse line with
  | .ok arguments => perform surroundings arguments world
  | .error .help => (0, surroundings.say helpText world)
  | .error .version => (0, surroundings.say versionText world)
  | .error refusal =>
    (configStatus, surroundings.warn ("error: " ++ refusal.message ++ "\n") world)

end Call

/-! ## Calls by commands -/

/-- A call of the program as what a process does.  The process has the machine for itself until the
call is over, and what was printed and reported goes then where its own output and errors go. -/
def asCommand (call : List String → Workplace → Nat × Workplace) : Shell.Interpreter.Caller :=
  fun line => do
    let outside ← Action.look id
    let isFull := (outside.opening? 1).any fun (_, opening) => opening.channel == .full
    let site : Site := { machine := { outside with output := [], errors := [] } }
    let (status, workplace) := call (line.map Octets.toText) {
      site, directory := outside.place, output := if isFull then .full else .output }
    let inside := workplace.machine
    Action.change fun _ => { inside with
      output := outside.output, errors := outside.errors, current := outside.current }
    let _ ← Action.write 1 inside.output.reverse
    let _ ← Action.write 2 inside.errors.reverse
    return .status status

/-- How deep calls may be nested in one another. -/
def maxDepth : Nat := 1000000

/-- Calls the program at a workplace, where its commands may call it again, nested so deep at most. -/
def callAt (depth : Nat) (line : List String) (workplace : Workplace) : Nat × Workplace :=
  match depth with
  | 0 => call Workplace.surroundings line workplace
  | depth + 1 =>
    call Workplace.surroundings line { workplace with caller := asCommand (callAt depth) }

/-- Calls the program on a machine, in a directory. -/
def invoke (line : List String) (site : Site) (directory : Location) : Nat × Site :=
  let (status, workplace) := callAt maxDepth line { site, directory }
  (status, workplace.site)

end TaskRunner.CommandLine
