/- # TaskRunner.CommandLine.Switch -- the options of the program

An option has a long name, and most have a short one of a single letter.  Flags take no value; two
options take one; the rest are counted or end the reading of the command line at once. -/

namespace TaskRunner.CommandLine
set_option autoImplicit false

/-- An option that is either given or not. -/
inductive Flag where
  | dryRun
  | keepGoing
  | check
  | list
  | record
  | last
  | quiet
  deriving DecidableEq, Repr

/-- An option that takes a value. -/
inductive Setting where
  | file
  | jobs
  deriving DecidableEq, Repr

/-- An option of the program. -/
inductive Switch where
  | flag (flag : Flag)
  | setting (setting : Setting)
  | verbose
  | help
  | version
  deriving DecidableEq, Repr

/-- The names of an option and what it is. -/
structure SwitchEntry where
  letter : Option Char
  name : String
  switch : Switch

namespace Switch

/-- Every option. -/
def table : List SwitchEntry := [
  ⟨some 'f', "file", .setting .file⟩,
  ⟨some 'n', "dry-run", .flag .dryRun⟩,
  ⟨some 'j', "jobs", .setting .jobs⟩,
  ⟨some 'k', "keep-going", .flag .keepGoing⟩,
  ⟨none, "check", .flag .check⟩,
  ⟨some 'l', "list", .flag .list⟩,
  ⟨none, "record", .flag .record⟩,
  ⟨none, "last", .flag .last⟩,
  ⟨some 'q', "quiet", .flag .quiet⟩,
  ⟨some 'v', "verbose", .verbose⟩,
  ⟨some 'h', "help", .help⟩,
  ⟨some 'V', "version", .version⟩]

/-- The option that a letter stands for. -/
def ofLetter? (letter : Char) : Option Switch :=
  (table.find? (·.letter == some letter)).map (·.switch)

/-- The option of a name; names are not shortened. -/
def ofName? (name : String) : Option Switch :=
  (table.find? (·.name == name)).map (·.switch)

end Switch
end TaskRunner.CommandLine
