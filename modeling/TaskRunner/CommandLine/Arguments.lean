import TaskRunner.CommandLine.Switch
import TaskRunner.Override
import TaskRunner.Project
/- # TaskRunner.CommandLine.Arguments -- what a command line asks for

A command line is read from left to right.  An argument that starts with two dashes is an option by
name, perhaps with a value behind an equals sign; one that starts with a single dash holds the
letters of options, the last of which may have its value right behind it.  Otherwise the value of an
option is the next argument, unless that looks like an option itself.  Two dashes alone end the
options.  All else are targets and overrides.

An option is used up when the next one begins or the command line ends, and only then is its value
looked at.  The reading stops at the first refusal, and at once where help or the version is asked
for. -/

namespace TaskRunner.CommandLine
set_option autoImplicit false

/-- Why a command line is not carried out. -/
inductive Refusal where
  | unknownOption
  /-- An option lacks its value, or has an empty one where it must not. -/
  | missingValue
  | badNumber
  /-- An option is repeated, or given together with one that excludes it. -/
  | conflict
  /-- A value is given to an option that takes none. -/
  | unwantedValue
  | help
  | version
  deriving DecidableEq, Repr, Inhabited

/-- What a command line asks for. -/
structure Arguments where
  /-- Targets and overrides. -/
  operands : List String := []
  file : Option String := none
  jobs : Option Nat := none
  flags : List Flag := []
  verbosity : Nat := 0
  deriving Repr, Inhabited

namespace Arguments

def has (arguments : Arguments) (flag : Flag) : Bool := arguments.flags.contains flag

/-! ## Values -/

/-- The greatest number of jobs. -/
def maxJobs : Nat := 0xFFFFFFFF

/-- The number of jobs that a text asks for: decimal digits, perhaps behind a plus sign, for a number
from one on. -/
def jobs? (text : String) : Option Nat :=
  let digits := match text.toList with
    | '+' :: rest => rest
    | rest => rest
  let n := digits.foldl (fun n c => n * 10 + (c.toNat - '0'.toNat)) 0
  if !digits.isEmpty && digits.all Char.isDigit && 1 ≤ n && n ≤ maxJobs then some n else none

/-- Gives a setting its value. -/
def set (arguments : Arguments) (setting : Setting) (value : Option String) :
    Except Refusal Arguments :=
  match setting, value with
  | _, none => .error .missingValue
  | .file, some path =>
    if arguments.file.isSome then .error .conflict
    else if path.isEmpty then .error .missingValue
    else .ok { arguments with file := some path }
  | .jobs, some text =>
    if arguments.jobs.isSome then .error .conflict
    else
      match jobs? text with
      | some n => .ok { arguments with jobs := some n }
      | none => .error .badNumber

/-! ## Reading -/

/-- The arguments read so far, and the setting whose value is still to come or to be used. -/
structure Reading where
  arguments : Arguments := {}
  pending : Option (Setting × Option String) := none

namespace Reading

/-- Uses up the pending setting. -/
def settle (reading : Reading) : Except Refusal Reading :=
  match reading.pending with
  | none => .ok reading
  | some (setting, value) =>
    (reading.arguments.set setting value).map fun arguments => { arguments }

/-- The highest count of an option. -/
def maxCount : Nat := 255

/-- Takes an option that comes without a value. -/
def takePlain (reading : Reading) (switch : Switch) : Except Refusal Reading := do
  let reading ← reading.settle
  let arguments := reading.arguments
  match switch with
  | .flag flag =>
    if arguments.has flag then throw .conflict
    else return { arguments := { arguments with flags := flag :: arguments.flags } }
  | .verbose =>
    return { arguments := { arguments with verbosity := min maxCount (arguments.verbosity + 1) } }
  | .help => throw .help
  | .version => throw .version
  | .setting setting => return { arguments, pending := some (setting, none) }

/-- Takes a setting with the value that stands in the same argument. -/
def takeAttached (reading : Reading) (setting : Setting) (value : String) :
    Except Refusal Reading := do
  let reading ← reading.settle
  return { arguments := ← reading.arguments.set setting (some value) }

/-- Takes an option by name, with the value behind its equals sign if there is one. -/
def takeName (reading : Reading) (name : String) (value : Option String) :
    Except Refusal Reading :=
  match Switch.ofName? name, value with
  | none, _ => .error .unknownOption
  | some (.setting setting), some value => reading.takeAttached setting value
  | some _, some _ => .error .unwantedValue
  | some switch, none => reading.takePlain switch

/-- Takes options by their letters. -/
def takeLetters (reading : Reading) : List Char → Except Refusal Reading
  | [] => .ok reading
  | letter :: rest =>
    match Switch.ofLetter? letter with
    | none => .error .unknownOption
    | some (.setting setting) =>
      match rest with
      | [] => reading.takePlain (.setting setting)
      | '=' :: value => reading.takeAttached setting (String.ofList value)
      | value => reading.takeAttached setting (String.ofList value)
    | some switch =>
      match reading.takePlain switch with
      | .ok reading => takeLetters reading rest
      | .error refusal => .error refusal

/-- Takes an operand. -/
def takeOperand (reading : Reading) (text : String) : Except Refusal Reading := do
  let reading ← reading.settle
  return { arguments :=
    { reading.arguments with operands := reading.arguments.operands ++ [text] } }

/-- Takes an argument that is no option: the value of a setting that waits for one, or an operand. -/
def takeText (reading : Reading) (text : String) : Except Refusal Reading :=
  match reading.pending with
  | some (setting, none) => .ok { reading with pending := some (setting, some text) }
  | _ => reading.takeOperand text

/-- Takes an argument other than two dashes alone. -/
def take (reading : Reading) (argument : String) : Except Refusal Reading :=
  match argument.toList with
  | '-' :: '-' :: chars =>
    let value := match chars.dropWhile (· != '=') with
      | _ :: value => some (String.ofList value)
      | [] => none
    reading.takeName (String.ofList (chars.takeWhile (· != '='))) value
  | '-' :: letter :: letters => reading.takeLetters (letter :: letters)
  | _ => reading.takeText argument

end Reading

/-- Reads arguments; behind two dashes alone all of them are operands. -/
def read (reading : Reading) : List String → Except Refusal Reading
  | [] => reading.settle
  | "--" :: rest => rest.foldlM Reading.takeOperand reading >>= Reading.settle
  | argument :: rest =>
    match reading.take argument with
    | .ok reading => read reading rest
    | .error refusal => .error refusal

/-- What a command line asks for.  The latest record is not shown together with a list or a dry
run. -/
def parse (line : List String) : Except Refusal Arguments := do
  let arguments := (← read {} line).arguments
  if arguments.has .last && (arguments.has .list || arguments.has .dryRun) then throw .conflict
  else return arguments

/-! ## Use -/

/-- The targets and the overrides among the operands.  An operand with an equals sign is an
override; asking for a check adds one more. -/
def split (arguments : Arguments) : Except ConfigError (List String × List Override) := do
  let isOverride (operand : String) : Bool := operand.toList.contains '='
  let overrides ← (arguments.operands.filter isOverride).mapM Override.parse
  let check := if arguments.has .check then [⟨checkVariable, "--check"⟩] else []
  return (arguments.operands.filter (!isOverride ·), overrides ++ check)

/-- The least level of importance at which messages are logged. -/
def logLevel (arguments : Arguments) : String :=
  match arguments.verbosity with
  | 0 => "warn"
  | 1 => "info"
  | _ => "debug"

end Arguments
end TaskRunner.CommandLine
