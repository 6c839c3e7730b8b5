import TaskRunner.Shell.Runner
/- # TaskRunner.Shell.Builtin.Basic -- commands of the shell itself

A builtin is carried out by the shell and not by another program, so it can change the shell.  Some of
them are special: in the plain dialect a mistake in one of these ends the shell, and variables that
are assigned in front of it keep their values. -/

namespace TaskRunner.Shell
set_option autoImplicit false

/-- A command of the shell itself. -/
structure Builtin where
  special : Bool := false
  /-- Whether its arguments may be assignments, which are expanded like those in front of a command. -/
  declares : Bool := false
  run : Runner → Flags → List Octets → Work Unit

namespace Builtin

def succeed : Work Unit := Work.setStatus 0

/-- Reports a failure, which gives the command a status. -/
def failing (status : Nat) (text : String) : Work Unit := do
  Work.complain text
  Work.setStatus status

/-- The status of a condition. -/
def answer (holds : Bool) : Work Unit := Work.setStatus (if holds then 0 else 1)

/-- Prints a text; failing to do so is a failure of the command. -/
def printOut (text : Octets) : Work Unit := do
  match ← Work.act (Action.write 1 text) with
  | .ok _ => succeed
  | .error cause =>
    let process ← Work.process
    if process.isExtended then failing 1 s!"write error: {cause.wording}"
    else failing 1 s!"{process.command.toText}: I/O error"

/-- An option with the argument that belongs to it. -/
abbrev Given := Char × Octets

/-- Refuses an option. -/
def refuseOption {α : Type} (c : Char) (usage : String) : Work α := do
  let process ← Work.process
  if process.isExtended then
    Work.complain s!"-{c}: invalid option"
    Work.report s!"{Octets.toText process.command}: usage: {usage}"
    Work.setStatus 2
    Work.leave .mistake
  else Work.fail 2 s!"Illegal option -{c}"

/-- Reads the letters of an option word; those in `withArgument` take what follows as an argument. -/
def readLetters (accepted : List Char) (withArgument : List Char) (usage : String) :
    Octets → List Octets → Work (List Given × List Octets)
  | [], rest => return ([], rest)
  | c :: letters, rest => do
    if withArgument.contains c then
      match letters, rest with
      | [], [] =>
        let process ← Work.process
        if process.isExtended then
          Work.complain s!"-{c}: option requires an argument"
          Work.report s!"{Octets.toText process.command}: usage: {usage}"
          Work.setStatus 2
          Work.leave .mistake
        else Work.fail 2 s!"No arg for -{c} option"
      | [], argument :: rest => return ([(c, argument)], rest)
      | letters, rest => return ([(c, letters)], rest)
    else if accepted.contains c then
      let (more, rest) ← readLetters accepted withArgument usage letters rest
      return ((c, []) :: more, rest)
    else refuseOption c usage

/-- Reads the options in front of arguments, and what is left. -/
def readOptions (accepted withArgument : List Char) (usage : String) (fuel : Nat)
    (arguments : List Octets) : Work (List Given × List Octets) :=
  match fuel, arguments with
  | 0, rest => return ([], rest)
  | _ + 1, ['-', '-'] :: rest => return ([], rest)
  | fuel + 1, ('-' :: c :: letters) :: rest => do
    let (found, rest) ← readLetters accepted withArgument usage (c :: letters) rest
    let (more, rest) ← readOptions accepted withArgument usage fuel rest
    return (found ++ more, rest)
  | _, rest => return ([], rest)

/-- The options of a command and its other arguments: letters that a colon follows take an
argument. -/
def options (letters : String) (usage : String) (arguments : List Octets) :
    Work (List Given × List Octets) :=
  let signs := letters.toList
  let withArgument := ((signs.zip (signs.drop 1)).filter (·.2 == ':')).map (·.1)
  readOptions (signs.filter (· != ':')) withArgument usage (arguments.length + 1) arguments

def hasOption (found : List Given) (c : Char) : Bool := found.any (·.1 == c)

/-- A number that is not negative. -/
def number (text : Octets) : Work Nat := do
  match Octets.natural? text with
  | some n => return n
  | none =>
    if (← Work.process).isExtended then
      Work.fail 1 s!"{text.toText}: numeric argument required"
    else Work.fail 2 s!"Illegal number: {text.toText}"

/-- An assignment in an argument: the name and the value, if there is one. -/
def assignment? (word : Octets) : Octets × Option Octets :=
  match Octets.cut? '=' word with
  | some (name, value) => (name, some value)
  | none => (word, none)

end Builtin
end TaskRunner.Shell
