import TaskRunner.Shell.Process
/- # TaskRunner.Shell.Setting -- the options of a shell

An option has a name and mostly a letter.  Options are set by the words behind the name of a shell
and by a command; a minus sign sets them and a plus sign takes them back. -/

namespace TaskRunner.Shell.Setting
set_option autoImplicit false

/-- The options of the plain dialect, in the order in which they are listed. -/
def plain : List (String × Option Char) := [
  ("errexit", some 'e'), ("noglob", some 'f'), ("ignoreeof", some 'I'), ("interactive", some 'i'),
  ("monitor", some 'm'), ("noexec", some 'n'), ("stdin", some 's'), ("xtrace", some 'x'),
  ("verbose", some 'v'), ("vi", some 'V'), ("emacs", some 'E'), ("noclobber", some 'C'),
  ("allexport", some 'a'), ("notify", some 'b'), ("nounset", some 'u'), ("privileged", some 'p'),
  ("nolog", none), ("debug", none)]

/-- The options of the extended dialect, in the order in which they are listed. -/
def extended : List (String × Option Char) := [
  ("allexport", some 'a'), ("braceexpand", some 'B'), ("emacs", none), ("errexit", some 'e'),
  ("errtrace", some 'E'), ("functrace", some 'T'), ("hashall", some 'h'), ("histexpand", some 'H'),
  ("history", none), ("ignoreeof", none), ("interactive-comments", none), ("keyword", some 'k'),
  ("monitor", some 'm'), ("noclobber", some 'C'), ("noexec", some 'n'), ("noglob", some 'f'),
  ("nolog", none), ("notify", some 'b'), ("nounset", some 'u'), ("onecmd", some 't'),
  ("physical", some 'P'), ("pipefail", none), ("posix", none), ("privileged", some 'p'),
  ("verbose", some 'v'), ("vi", none), ("xtrace", some 'x')]

def ofDialect : Dialect → List (String × Option Char)
  | .plain => plain
  | .extended => extended

/-- The options that are set when a shell starts. -/
def initial : Dialect → List String
  | .plain => []
  | .extended => ["braceexpand", "hashall", "interactive-comments"]

def ofLetter? (dialect : Dialect) (c : Char) : Option String :=
  ((ofDialect dialect).find? fun entry => entry.2 == some c).map (·.1)

/-- The letters of the options that are set. -/
def letters (process : Process) : Octets :=
  let known := (ofDialect process.dialect).filter fun entry => process.has entry.1
  let found := known.filterMap (·.2)
  if process.isExtended then
    let lower := found.filter Char.isLower
    Octets.sorted (lower.map fun c => [c]) |>.flatten |> (· ++ found.filter Char.isUpper) |>
      (· ++ (if process.has "command" then ['c'] else [])) |>
      (· ++ (if process.has "stdin" then ['s'] else []))
  else found

def isName (dialect : Dialect) (name : Octets) : Bool :=
  (ofDialect dialect).any fun entry => entry.1.toList == name

/-- A table of the options of a process. -/
def table (process : Process) : String :=
  let width := if process.isExtended then 15 else 16
  let line (name : String) : String :=
    let shown := Octets.toText (Octets.padEnd width name.toList)
    let shown := if process.isExtended then shown ++ "\t" else shown
    shown ++ (if process.has name then "on" else "off") ++ "\n"
  let title := if process.isExtended then "" else "Current option settings\n"
  title ++ String.join ((ofDialect process.dialect).map fun entry => line entry.1)

/-- Commands that set the options of a process. -/
def commands (process : Process) : String :=
  String.join ((ofDialect process.dialect).map fun entry =>
    let sign := if process.has entry.1 then '-' else '+'
    s!"set {sign}o {entry.1}\n")

/-- What words in front of arguments say. -/
structure Given where
  process : Process
  /-- Whether the first argument is a script. -/
  isScript : Bool := false
  /-- The signs of options that were given no name. -/
  listed : List Bool := []
  /-- Whether a word says that what follows are arguments, even if there are none. -/
  ends : Bool := false
  rest : List Octets

/-- Why a word is no option. -/
inductive Refusal where
  | letter (sign c : Char)
  | word (sign : Char) (name : Octets)
  /-- A word behind two minus signs. -/
  | long (name : Octets)

/-- The options with two minus signs that a shell of the extended dialect may be started with. -/
def longNames : List String := [
  "debug", "debugger", "dump-po-strings", "dump-strings", "help", "login", "noediting", "noprofile",
  "norc", "posix", "pretty-print", "restricted", "verbose", "version"]

/-- Reads the letters of a word; those that are only known when a shell starts are `c`, and letters
that have no effect here. -/
def readLetters (starts : Bool) (sign : Char) (given : Given) :
    Octets → Except Refusal Given
  | [] => .ok given
  | c :: letters =>
    let isSet := sign == '-'
    if c == 'o' || (c == 'O' && starts && given.process.isExtended) then
      match given.rest with
      | [] => readLetters starts sign { given with listed := given.listed ++ [isSet] } letters
      | name :: rest =>
        if c == 'O' || isName given.process.dialect name then
          let process := given.process.setOption (Octets.toText name) isSet
          readLetters starts sign { given with process, rest } letters
        else .error (.word sign name)
    else if starts && c == 'c' then readLetters starts sign { given with isScript := true } letters
    else if starts && c == 's' then
      let process := given.process.setOption "stdin" isSet
      readLetters starts sign { given with process } letters
    else if starts && (c == 'l' || ("irD".toList.contains c && given.process.isExtended)) then
      readLetters starts sign given letters
    else
      match ofLetter? given.process.dialect c with
      | some name =>
        let process := given.process.setOption name isSet
        readLetters starts sign { given with process } letters
      | none => .error (.letter sign c)

/-- Reads the options in front of arguments. -/
def read (starts : Bool) (fuel : Nat) (given : Given) : Except Refusal Given :=
  match fuel, given.rest with
  | fuel + 1, word :: rest =>
    match word with
    | ['-'] =>
      let process := if starts then given.process
        else (given.process.setOption "xtrace" false).setOption "verbose" false
      .ok { given with process, rest }
    | ['-', '-'] => .ok { given with rest, ends := true }
    | '-' :: '-' :: name =>
      if !starts || !given.process.isExtended then .error (.letter '-' '-')
      else if longNames.any (·.toList == name) then
        let process := given.process.setOption (Octets.toText name) true
        read starts fuel { given with process, rest }
      else if name == "rcfile".toList || name == "init-file".toList then
        read starts fuel { given with rest := rest.tail }
      else .error (.long name)
    | sign :: letters =>
      if sign == '-' || (sign == '+' && !letters.isEmpty) then
        match readLetters starts sign { given with rest } letters with
        | .error refusal => .error refusal
        | .ok given => read starts fuel given
      else if sign == '+' && !given.process.isExtended then read starts fuel { given with rest }
      else .ok given
    | [] => .ok given
  | _, _ => .ok given

namespace Refusal

/-- A refusal in the words of the plain dialect. -/
def message : Refusal → String
  | letter sign c => s!"Illegal option {sign}{c}"
  | word sign name => s!"Illegal option {sign}o {name.toText}"
  | long _ => "Illegal option --"

/-- A refusal in the words of the extended dialect. -/
def extendedMessage : Refusal → String
  | letter sign c => s!"{sign}{c}: invalid option"
  | word _ name => s!"{name.toText}: invalid option name"
  | long name => s!"--{name.toText}: invalid option"

end Refusal
end TaskRunner.Shell.Setting
