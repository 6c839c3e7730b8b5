import TaskRunner.Shell.Tool
/- # TaskRunner.Shell.Tool.Options -- the options of programs

The words behind the name of a program are options and operands, in any order unless the program says
otherwise.  An option is a letter behind a minus sign, and several letters may share one; or it is a
word behind two minus signs, of which the first letters are enough where no other option has them.
An option may take an argument: the rest of its word, or the next word.

The options of a program are described by lines such as `n lines=`: all names of one option, the first
of which is the one it is known by, and an equals sign where it takes an argument.  A tilde stands there
if it need not have one, and a question mark if only its words may have one. -/

namespace TaskRunner.Shell.Options
set_option autoImplicit false

/-- What an option takes. -/
inductive Taking where
  | nothing
  | argument
  /-- An argument, but only in the same word. -/
  | attached
  /-- An argument behind an equals sign. -/
  | assigned
  deriving DecidableEq, Repr

/-- An option that a program has. -/
structure Known where
  names : List String
  taking : Taking

/-- The name by which an option is known. -/
def Known.key (known : Known) : String := known.names.headD ""

/-- An option as it is described. -/
def Known.ofText (text : String) : Known :=
  let ending := text.toList.getLast?
  let taking : Taking := if ending == some '=' then .argument
    else if ending == some '~' then .attached
    else if ending == some '?' then .assigned else .nothing
  let names := if taking == .nothing then text.toList else text.toList.dropLast
  { names := (Octets.splitAt ' ' names).map String.ofList, taking }

/-- An option with its argument. -/
abbrev Given := String × Octets

/-- Why words are no options. -/
inductive Refusal where
  | letter (c : Char)
  | word (text : Octets)
  | noArgument (c : Char)
  | noWordArgument (name : String)
  | unwanted (name : String)
  | ambiguous (text : Octets) (names : List String)

/-- A refusal in words. -/
def Refusal.message : Refusal → String
  | letter c => s!"invalid option -- '{c}'"
  | word text => s!"unrecognized option '--{text.toText}'"
  | noArgument c => s!"option requires an argument -- '{c}'"
  | noWordArgument name => s!"option '--{name}' requires an argument"
  | unwanted name => s!"option '--{name}' doesn't allow an argument"
  | ambiguous text names =>
    let shown := " ".intercalate (names.map fun name => s!"'--{name}'")
    s!"option '--{text.toText}' is ambiguous; possibilities: {shown}"

/-- The long names of options with their options. -/
def longNames (known : List Known) : List (String × Known) :=
  known.flatMap fun option =>
    (option.names.filter fun name => name.length > 1).map fun name => (name, option)

/-- Reads a word behind two minus signs. -/
def readWord (known : List Known) (text : Octets) (rest : List Octets) :
    Except Refusal (Given × List Octets) :=
  let name := text.takeWhile (· != '=')
  let attached? : Option Octets :=
    if name.length < text.length then some (text.drop (name.length + 1)) else none
  let names := longNames known
  let fitting := names.filter fun (other, _) => name.isPrefixOf other.toList
  let found : Except Refusal (String × Known) :=
    match names.find? fun (other, _) => other.toList == name with
    | some entry => .ok entry
    | none =>
      match fitting with
      | [] => .error (.word text)
      | entry :: others =>
        if others.all fun other => other.2.key == entry.2.key then .ok entry
        else .error (.ambiguous text (fitting.map (·.1)))
  match found with
  | .error refusal => .error refusal
  | .ok (full, option) =>
    match option.taking, attached?, rest with
    | .nothing, some _, _ => .error (.unwanted full)
    | .nothing, none, _ | .attached, none, _ | .assigned, none, _ => .ok ((option.key, []), rest)
    | _, some argument, _ => .ok ((option.key, argument), rest)
    | .argument, none, argument :: rest => .ok ((option.key, argument), rest)
    | .argument, none, [] => .error (.noWordArgument full)

/-- Reads letters behind a minus sign. -/
def readLetters (known : List Known) (rest : List Octets) :
    Octets → Except Refusal (List Given × List Octets)
  | [] => .ok ([], rest)
  | c :: letters =>
    match known.find? fun option => option.names.contains (String.singleton c) with
    | none => .error (.letter c)
    | some option =>
      match option.taking, letters, rest with
      | .nothing, _, _ | .assigned, _, _ => do
        let (found, rest) ← readLetters known rest letters
        return ((option.key, []) :: found, rest)
      | .argument, [], [] => .error (.noArgument c)
      | .argument, [], argument :: rest => .ok ([(option.key, argument)], rest)
      | _, letters, _ => .ok ([(option.key, letters)], rest)

/-- Reads options and operands; `stops` says whether an operand puts an end to the options. -/
def readAll (known : List Known) (stops : Bool) (fuel : Nat) (words : List Octets) :
    Except Refusal (List Given × List Octets) :=
  match fuel, words with
  | 0, rest => .ok ([], rest)
  | _, [] => .ok ([], [])
  | fuel + 1, word :: rest =>
    match word with
    | ['-', '-'] => .ok ([], rest)
    | '-' :: '-' :: text => do
      let (found, rest) ← readWord known text rest
      let (more, operands) ← readAll known stops fuel rest
      return (found :: more, operands)
    | '-' :: c :: letters => do
      let (found, rest) ← readLetters known rest (c :: letters)
      let (more, operands) ← readAll known stops fuel rest
      return (found ++ more, operands)
    | word =>
      if stops then .ok ([], word :: rest)
      else do
        let (found, operands) ← readAll known stops fuel rest
        return (found, word :: operands)

/-- Reads the options that some lines describe. -/
def read (known : List String) (stops : Bool) (words : List Octets) :
    Except Refusal (List Given × List Octets) :=
  readAll (known.map .ofText) stops (words.length + 1) words

/-- Options and operands. -/
structure Found where
  given : List Given := []
  operands : List Octets := []

namespace Found

def has (found : Found) (key : String) : Bool := found.given.any (·.1 == key)

/-- The argument of an option, the last where it is given more than once. -/
def value? (found : Found) (key : String) : Option Octets :=
  (found.given.reverse.lookup key)

/-- The arguments of an option. -/
def values (found : Found) (key : String) : List Octets :=
  found.given.filterMap fun (other, value) => if other == key then some value else none

/-- The one of some options that is given last. -/
def last? (found : Found) (keys : List String) : Option Given :=
  found.given.reverse.find? fun entry => keys.contains entry.1

end Found

/-- Reads the options of a program, which ends with a status if they are wrong. -/
def ofWords (known : List String) (words : List Octets) (status : Nat := 1)
    (stops : Bool := false) (usage : Option String := none) : Tool Found := do
  match read known stops words with
  | .ok (given, operands) => return { given, operands }
  | .error refusal =>
    Tool.complain refusal.message
    match usage with
    | some text => Tool.report text
    | none => pure ()
    Tool.giveHelp status

end TaskRunner.Shell.Options
