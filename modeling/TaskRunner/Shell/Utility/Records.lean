import TaskRunner.Shell.Records.Execution
/- # TaskRunner.Shell.Utility.Records -- the program that carries out scripts for records

The script is the first operand, or is read from files; the other operands are the files with the
records and values for variables. -/

namespace TaskRunner.Shell.Utility
set_option autoImplicit false

/-- What the options say, the latest first. -/
structure Said where
  scripts : List Octets := []
  assignments : List Octets := []
  separator : Option Octets := none
  operands : List Octets := []

def Said.add (said : Said) (letter : Char) (value : Octets) : Said :=
  match letter with
  | 'F' => { said with separator := some value }
  | 'v' => { said with assignments := value :: said.assignments }
  | _ => { said with scripts := value :: said.scripts }

open Records in
/-- Carries out a script for the records of files. -/
def awk (arguments : List Octets) : Tool Unit := do
  let found ← words (arguments.length + 1) {} arguments
  let (texts, operands) ← match found.scripts, found.operands with
    | [], [] => do
      Tool.report "Usage: mawk [Options] [Program] [file ...]"
      Tool.exit 2
    | [], text :: rest => pure ([text], rest)
    | files, rest => do
      let texts ← files.reverse.mapM fun file => do
        match ← Tool.contents file with
        | .ok text => return text
        | .error cause =>
          Tool.complain s!"cannot open \"{file.toText}\" ({cause.wording})"
          Tool.exit 2
      pure (texts, rest)
  match Records.Script.ofText (Octets.join ['\n'] texts) with
  | .error fault =>
    Tool.complain s!"line {fault.line}: {fault.problem}"
    Tool.exit 2
  | .ok script =>
    let name := (← Tool.progress).invocation.name
    let environment := (← Tool.progress).invocation.environment
    let run : Run Unit := do
      for (name, text) in [("FS", " "), ("OFS", " "), ("ORS", "\n"), ("RS", "\n"),
          ("SUBSEP", "\x1c"), ("CONVFMT", "%.6g"), ("OFMT", "%.6g"), ("FILENAME", "")] do
        setSetting name (.text text.toList)
      for (name, n) in [("NR", 0.0), ("FNR", 0.0), ("RSTART", 0.0), ("RLENGTH", -1.0)] do
        setSetting name (.number n)
      let operandTable ← arrayOf "ARGV"
      let words := name :: operands
      for n in List.range words.length do
        setElement operandTable (Octets.ofNat n) (.read ((words[n]?).getD []))
      setSetting "ARGC" (.ofNat words.length)
      let settings ← arrayOf "ENVIRON"
      for (name, value) in environment do setElement settings name (.read value)
      match found.separator with
      | some text => assign "FS" text
      | none => pure ()
      for word in found.assignments.reverse do
        match operandAssignment? word with
        | some (name, value) => assign name value
        | none => refuse s!"improper assignment: -v {word.toText}"
      carryOutScript
    let start : RunState := {
      script, between := Array.replicate script.rules.size false }
    let (_, state) ← (do
      let _ ← run.run
      closeAll.run : StateT RunState Tool (Except Leap Unit)).run start
    Tool.exit state.status
where
  /-- Reads the options. -/
  words (fuel : Nat) (found : Said) (rest : List Octets) : Tool Said := do
    match fuel, rest with
    | 0, _ => return found
    | _, [] => return found
    | fuel + 1, word :: rest =>
      match word with
      | ['-', '-'] => return { found with operands := rest }
      | '-' :: letter :: more =>
        if "Fvf".toList.contains letter then
          match more, rest with
          | [], [] =>
            Tool.complain s!"option requires an argument -- {letter}"
            Tool.exit 2
          | [], value :: rest => words fuel (found.add letter value) rest
          | value, rest => words fuel (found.add letter value) rest
        else
          Tool.complain s!"not an option: {word.toText}"
          Tool.exit 2
      | _ => return { found with operands := word :: rest }

end TaskRunner.Shell.Utility
