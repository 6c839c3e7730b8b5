import TaskRunner.Shell.Interpreter
import TaskRunner.Shell.Site
import TaskRunner.Surroundings
/- # TaskRunner.Workplace -- a machine on which plans are run

A workplace is the host of runs: it has a machine, with its files and processes, and starts each
command through the shell of the project in the project's directory.  Whoever waits for a command lets
all processes go on, those too that earlier commands have left behind.

What is printed goes where the output of the commands goes.  If nothing more can be written there, a
recipe crashes that prints a command. -/

namespace TaskRunner
set_option autoImplicit false

open Shell (Machine Octets Site)

/-- A command that was started. -/
inductive Activity where
  /-- It could not be started. -/
  | refused (failure : LineFailure)
  | process (number : Nat)

/-- A machine with the commands that run on it. -/
structure Workplace where
  site : Site
  /-- The directory that relative paths start from. -/
  directory : Location
  /-- The path of the directory that commands run in. -/
  root : String := "."
  shell : List String := []
  /-- What the program does when a command calls it. -/
  caller : Shell.Interpreter.Caller := fun _ => pure (.status 127)
  /-- Where the output of the commands goes. -/
  output : Shell.Channel := .output
  /-- The command of each target that has one. -/
  activities : List (String × Activity) := []

namespace Workplace

def machine (workplace : Workplace) : Machine := workplace.site.machine

def files (workplace : Workplace) : FileSystem := workplace.machine.files

/-- The workplace with another machine. -/
def withMachine (workplace : Workplace) (machine : Machine) : Workplace :=
  { workplace with site := { workplace.site with machine } }

/-- The workplace with other files. -/
def withFiles (workplace : Workplace) (files : FileSystem) : Workplace :=
  workplace.withMachine { workplace.machine with files }

/-- What an ending says about a line. -/
def failureOf : Shell.Ending → Option LineFailure
  | .status 0 => none
  | .status n => some (.exit n)
  | .signal _ => some .signal

/-! ## Starting commands -/

/-- The number of bytes from which on an argument is too long. -/
def maxArgumentSize : Nat := 131072

/-- The program of the shell and its arguments in front of a command. -/
def program (shell : List String) : String × List String :=
  match shell with
  | [] => (defaultProgram, defaultArguments)
  | name :: arguments => (name, arguments)
where
  defaultProgram : String := "sh"
  defaultArguments : List String := ["-c"]

/-- The variables that a command sees. -/
def environment : List (Octets × Octets) := [
  ("HOME".toList, "/root".toList), ("PATH".toList, Shell.Program.defaultPath)]

/-- What starting a command comes to: the directory that it works in and what is carried out. -/
def spawn (workplace : Workplace) (command : String) :
    Except FileError (Location × Shell.Action Shell.Ending) := do
  let (name, arguments) := program workplace.shell
  let arguments := arguments ++ [command]
  if (name :: workplace.root :: arguments).any fun text => text.toList.contains '\x00' then
    .error .nullInArgument
  else
    let (place, node) ← workplace.files.find workplace.directory workplace.root
    if !node.isDirectory then .error .notDirectory
    else
      -- A process in that directory finds the program.
      let (process, site) := workplace.site.start place workplace.output (pure (.status 0))
      let machine := { site.machine with current := process }
      let (name, invocation) ← Shell.Interpreter.resolveName machine environment
        (Octets.ofText name) (arguments.map Octets.ofText)
      if arguments.any fun text => text.utf8ByteSize ≥ maxArgumentSize then
        .error .argumentsTooLong
      else return (place, Shell.Interpreter.start workplace.caller name invocation)

/-- Notes the command of a target. -/
def note (workplace : Workplace) (target : String) (activity : Activity) : Workplace :=
  { workplace with
    activities := (target, activity) :: workplace.activities.filter (·.1 != target) }

/-- Starts a command of a target. -/
def start (target command : String) (workplace : Workplace) : Workplace :=
  match workplace.spawn command with
  | .ok (place, action) =>
    let (process, site) := workplace.site.start place workplace.output action
    { workplace with site }.note target (.process process)
  | .error cause => workplace.note target (.refused (.spawn cause.message))

/-! ## Letting processes go on -/

/-- Whether the command of a target is over. -/
def isOver (activities : List (String × Activity)) (machine : Machine) (target : String) : Bool :=
  match activities.lookup target with
  | some (.process process) => !machine.isAlive process
  | _ => true

/-- Lets processes go on until the command of one of some targets is over, and says which. -/
def untilOver (workplace : Workplace) (targets : List String) : Option String × Workplace :=
  let isOver (machine : Machine) (target : String) : Bool :=
    isOver workplace.activities machine target
  let site := workplace.site.run (fun machine => targets.any (isOver machine)) Site.maxTurns
  (targets.find? (isOver site.machine), { workplace with site })

/-- Waits until the command of a target is over. -/
def await (target : String) (workplace : Workplace) : Option LineFailure × Workplace :=
  let (_, workplace) := workplace.untilOver [target]
  match workplace.activities.lookup target with
  | some (.refused failure) => (some failure, workplace)
  | some (.process process) =>
    match Shell.Action.endingOf? process workplace.machine with
    | some ending => (failureOf ending, workplace)
    | none => (some .signal, workplace)
  | none => (some .signal, workplace)

/-- A recipe that can go on without waiting goes first; then the coordinator, if it has something to
do; then the recipe whose command is over first. -/
def choose (scanning : Bool) (flights : List Flight) (workplace : Workplace) :
    Option Nat × Workplace :=
  let isReady (flight : Flight) : Bool :=
    match flight.progress with
    | .ready _ _ _ => true
    | _ => false
  match flights.findIdx? isReady with
  | some i => (some i, workplace)
  | none =>
    if scanning then (none, workplace)
    else
      match flights.findIdx? (·.progress.isFinished) with
      | some i => (some i, workplace)
      | none =>
        let (target, workplace) := workplace.untilOver (flights.map (·.target))
        (target.bind fun target => flights.findIdx? (·.target == target), workplace)

/-- Prints a text. -/
def say (text : String) (workplace : Workplace) : Workplace :=
  workplace.withMachine (workplace.machine.print (Octets.ofText text))

/-- Prints a line. -/
def print (line : String) (workplace : Workplace) : Workplace := workplace.say (line ++ "\n")

/-- What is said of a recipe that cannot print, but for the number of its task. -/
def crashText : String :=
  "task panicked with message \"failed printing to stdout: No space left on device (os error 28)\""

/-- Prints a command for a recipe. -/
def echo (command : String) (workplace : Workplace) : Option String × Workplace :=
  if workplace.output == .full then (some crashText, workplace)
  else (none, workplace.print command)

/-- Writes a text to the errors. -/
def warn (text : String) (workplace : Workplace) : Workplace :=
  workplace.withMachine (workplace.machine.report (Octets.ofText text))

/-- The present time. -/
def now (workplace : Workplace) : Timestamp := .ofFileTime workplace.files.clock

/-- Lets a moment pass, and runs commands in another directory and through another shell then. -/
def enter (root : String) (shell : List String) (workplace : Workplace) : Workplace :=
  { workplace.withFiles (workplace.files.wait (FileSystem.tick * 1000)) with root, shell }

/-- The workplace as the host of runs. -/
def host : Host Workplace where
  times workplace := workplace.files.times workplace.directory workplace.root
  print := print
  echo := echo
  start := start
  await := await
  choose := choose

/-- The workplace as what the program is called in. -/
def surroundings : Surroundings Workplace where
  toHost := host
  files := files
  setFiles files workplace := workplace.withFiles files
  directory := directory
  enter := enter
  now := now
  say := say
  warn := warn

end Workplace
end TaskRunner
