import TaskRunner.Shell.Builtin.Basic
import TaskRunner.Shell.Setting
/- # TaskRunner.Shell.Builtin.Variables -- commands on variables and options

Variables are marked, listed and taken away; the options and the arguments of the shell are set, and
options are read out of arguments one by one. -/

namespace TaskRunner.Shell.Builtin
set_option autoImplicit false

/-! ## Marks -/

/-- The names of the variables with a property, in increasing order. -/
def namesWhere (bindings : Variables) (holds : Variable → Bool) : List Octets :=
  Octets.sorted (bindings.fold (fun names name entry =>
    if holds entry then name :: names else names) [])

/-- The value of a variable, in the form in which a shell reads it back. -/
def shown (name : Octets) (value : Octets) : Octets := name ++ '=' :: Quoting.single value

/-- The elements of an array, in the form in which a shell reads them back. -/
def shownElements (value : Value) : Octets :=
  match value with
  | .scalar text => Quoting.double text
  | .indexed items =>
    '(' :: Octets.join [' '] (items.map fun (n, text) =>
      '[' :: Octets.ofNat n ++ "]=".toList ++ Quoting.double text) ++ [')']
  | .keyed items =>
    '(' :: items.flatMap (fun (key, text) =>
      '[' :: Quoting.whereNeeded key ++ "]=".toList ++ Quoting.double text ++ [' ']) ++ [')']

/-- The letters of the marks of a variable. -/
def markLetters (entry : Variable) : Octets :=
  let kind := match entry.value with
    | some (.indexed _) => ['a']
    | some (.keyed _) => ['A']
    | _ => []
  let letters := kind ++ (if entry.integer then ['i'] else []) ++
    (if entry.reference then ['n'] else []) ++ (if entry.readOnly then ['r'] else []) ++
    (if entry.exported then ['x'] else []) ++ (if entry.lower then ['l'] else []) ++
    (if entry.upper then ['u'] else [])
  if letters.isEmpty then ['-'] else letters

/-- A variable as the command that declares it. -/
def declaration (name : Octets) (entry : Variable) : Octets :=
  let value := match entry.value with
    | some (.indexed []) | none => []
    | some value => '=' :: shownElements value
  "declare -".toList ++ markLetters entry ++ ' ' :: name ++ value ++ ['\n']

/-- The lines that list variables for a command. -/
def listing (process : Process) (command : String) (holds : Variable → Bool) : Octets :=
  (namesWhere process.bindings holds).flatMap fun name =>
    let entry := process.bindings.find name
    if process.isExtended then declaration name entry
    else
      command.toList ++ ' ' :: (match process.bindings.text? name with
        | some value => shown name value
        | none => name) ++ ['\n']

/-- Refuses a name. -/
def refuseName (word name : Octets) : Work Unit := do
  if (← Work.process).isExtended then
    failing 1 s!"\x60{word.toText}': not a valid identifier"
  else Work.fail 2 s!"{name.toText}: bad variable name"

/-- Marks variables, and gives them the values that stand behind their names. -/
def markEach (mark : Variable → Variable) (words : List Octets) : Work Unit := do
  succeed
  words.forM fun word => do
    let (name, value) := assignment? word
    let appends := value.isSome && name.getLast? == some '+'
    let isExtended := (← Work.process).isExtended
    let name := if appends && isExtended then name.dropLast else name
    if !isName name then refuseName word name
    else
      match value with
      | some value =>
        let before := (← Work.process).bindings.text name
        Work.assign name (if appends && isExtended then before ++ value else value)
      | none => pure ()
      Work.modify fun process =>
        { process with bindings := process.bindings.insert name (mark (process.bindings.find name)) }

def exportVariables (arguments : List Octets) : Work Unit := do
  let process ← Work.process
  let letters := if process.isExtended then "fnp" else "p"
  let (found, words) ← options letters "export [-fn] [name[=value] ...] or export -p" arguments
  if words.isEmpty then printOut (listing process "export" (·.exported))
  else if hasOption found 'n' then markEach (fun entry => { entry with exported := false }) words
  else markEach (fun entry => { entry with exported := true }) words

def fixVariables (arguments : List Octets) : Work Unit := do
  let process ← Work.process
  let letters := if process.isExtended then "aAfp" else "p"
  let (_, words) ←
    options letters "readonly [-aAf] [name[=value] ...] or readonly -p" arguments
  if words.isEmpty then printOut (listing process "readonly" (·.readOnly))
  else markEach (fun entry => { entry with readOnly := true }) words

/-! ## Variables of functions -/

/-- Remembers the state of a variable outside of the present function. -/
def shadow (name : Octets) : Work Unit := Work.modify fun process =>
  match process.shadowed with
  | none => process
  | some values =>
    if values.any (·.1 == name) then process
    else { process with shadowed := some ((name, process.bindings[name]?) :: values) }

/-- Makes variables those of the present function; they keep their values unless they get others. -/
def localPlain (arguments : List Octets) : Work Unit := do
  let process ← Work.process
  if process.shadowed.isNone then Work.fail 2 "not in a function"
  succeed
  arguments.forM fun word => do
    let (name, value) := assignment? word
    if word == ['-'] then pure ()
    else if !isName name then refuseName word name
    else
      shadow name
      match value with
      | some value => Work.assign name value
      | none => pure ()

/-- The marks that options of a declaration set. -/
def withMarks (found : List (Bool × Char)) (entry : Variable) : Variable :=
  found.foldl
    (fun entry (isSet, c) =>
      match c with
      | 'r' => { entry with readOnly := entry.readOnly || isSet }
      | 'x' => { entry with exported := isSet }
      | 'i' => { entry with integer := isSet }
      | 'u' => { entry with upper := isSet, lower := entry.lower && !isSet }
      | 'l' => { entry with lower := isSet, upper := entry.upper && !isSet }
      | 'n' => { entry with reference := isSet }
      | 'a' =>
        match entry.value with
        | some (.indexed _) => entry
        | some (.scalar text) => { entry with value := some (.indexed [(0, text)]) }
        | _ => { entry with value := some (.indexed []) }
      | 'A' =>
        match entry.value with
        | some (.keyed _) => entry
        | _ => { entry with value := some (.keyed []) }
      | _ => entry)
    entry

/-- Reads options with either sign. -/
def signedOptions (accepted : List Char) (fuel : Nat) (arguments : List Octets) :
    Work (List (Bool × Char) × List Octets) :=
  match fuel, arguments with
  | _ + 1, ['-', '-'] :: rest => return ([], rest)
  | fuel + 1, (sign :: c :: letters) :: rest => do
    if sign == '-' || sign == '+' then
      let letters := c :: letters
      match letters.find? fun c => !accepted.contains c with
      | some c => refuseOption c "declare [-aAfFgiIlnrtux] [name[=value] ...] or declare -p [-aAfFilnrtux] [name ...]"
      | none =>
        let (more, rest) ← signedOptions accepted fuel rest
        return (letters.map (sign == '-', ·) ++ more, rest)
    else return ([], (sign :: c :: letters) :: rest)
  | _, rest => return ([], rest)

/-- Declares variables of the extended dialect. -/
def declareExtended (isLocal : Bool) (arguments : List Octets) : Work Unit := do
  let process ← Work.process
  let (found, words) ←
    signedOptions "aAfFgiIlnrtuxp".toList (arguments.length + 1) arguments
  let has (c : Char) : Bool := found.contains (true, c)
  if isLocal && process.shadowed.isNone then failing 1 "can only be used in a function"
  else if has 'f' || has 'F' then
    let names := if words.isEmpty then
        Octets.sorted (process.functions.fold (fun names name _ => name :: names) [])
      else words
    let known := names.filter (process.functions.contains ·)
    let lines := known.flatMap fun name =>
      (if words.isEmpty then "declare -f ".toList else []) ++ name ++ ['\n']
    printOut lines
    answer (known.length == names.length)
  else if has 'p' || (words.isEmpty && found.isEmpty) then
    if words.isEmpty then
      printOut (listing process "declare" fun entry => entry.value.isSome)
    else
      succeed
      words.forM fun name => do
        match process.bindings[name]? with
        | some entry =>
          let _ ← Work.print (declaration name entry)
        | none => failing 1 s!"{name.toText}: not found"
  else
    succeed
    words.forM fun word => do
      let (name, value) := assignment? word
      let appends := value.isSome && name.getLast? == some '+'
      let name := if appends then name.dropLast else name
      let index := (name.drop ((name.takeWhile (· != '[')).length + 1)).dropLast
      let base := name.takeWhile (· != '[')
      if !isName base then failing 1 s!"\x60{word.toText}': not a valid identifier"
      else
        if process.shadowed.isSome && !has 'g' then
          let wasShadowed := (process.shadowed.getD []).any (·.1 == base)
          shadow base
          if !wasShadowed then
            Work.modify fun process =>
              { process with bindings := process.bindings.insert base {} }
        let entry := (← Work.process).bindings.find base
        if entry.readOnly && value.isSome then
          failing 1 s!"{Octets.toText base}: readonly variable"
        else
          let isFixed := has 'r'
          Work.modify fun process =>
            { process with
              bindings := process.bindings.insert base
                { withMarks (found.filter (·.2 != 'r')) entry with readOnly := entry.readOnly } }
          match value with
          | none => pure ()
          | some value =>
            if base.length < name.length then Work.assignElement base index value
            else
              let before := (← Work.process).bindings.text base
              Work.assign base (if appends then before ++ value else value)
          if isFixed then
            Work.modify fun process =>
              { process with
                bindings := process.bindings.insert base
                  { process.bindings.find base with readOnly := true } }

def declareLocal (arguments : List Octets) : Work Unit := do
  if (← Work.process).isExtended then declareExtended true arguments else localPlain arguments

/-- Calculates expressions; the status says whether the last one is not zero. -/
def calculate (arguments : List Octets) : Work Unit := do
  if arguments.isEmpty then failing 1 "expression expected"
  else
    let last ← arguments.foldlM (fun _ text => Work.calculate text) 0
    answer (last != 0)

/-! ## Taking variables away -/

/-- Takes a variable or an element away; the flag says whether that was allowed. -/
def forget (word : Octets) : Work Unit := do
  let process ← Work.process
  let base := word.takeWhile (· != '[')
  let hasIndex := process.isExtended && base.length < word.length && word.getLast? == some ']'
  let name := if hasIndex then base else word
  if !isName name then
    if process.isExtended then failing 1 s!"\x60{word.toText}': not a valid identifier"
    else refuseName word name
  else if (process.bindings.find name).readOnly then
    if process.isExtended then failing 1 s!"{Octets.toText name}: cannot unset: readonly variable"
    else Work.refuse name
  else if hasIndex then
    let index ← Work.indexOf name ((word.drop (base.length + 1)).dropLast)
    Work.modify fun process =>
      { process with bindings := process.bindings.eraseElement name index }
  else
    let name := process.bindings.target name
    Work.modify fun process => { process with bindings := process.bindings.erase name }

def unset (arguments : List Octets) : Work Unit := do
  let process ← Work.process
  let letters := if process.isExtended then "fvn" else "fv"
  let (found, words) ← options letters "unset [-f] [-v] [-n] [name ...]" arguments
  succeed
  words.forM fun word => do
    let process ← Work.process
    let isFunction := hasOption found 'f' ||
      (process.isExtended && !hasOption found 'v' && !process.bindings.contains word &&
        process.functions.contains word)
    if isFunction then
      Work.modify fun process => { process with functions := process.functions.erase word }
    else forget word

/-! ## Options and arguments of the shell -/

/-- All variables with their values. -/
def allVariables (process : Process) : Octets :=
  (namesWhere process.bindings fun entry => entry.value.isSome).flatMap fun name =>
    let entry := process.bindings.find name
    if process.isExtended then
      match entry.value with
      | some (.scalar text) => name ++ '=' :: Quoting.whereNeeded text ++ ['\n']
      | some value => name ++ '=' :: shownElements value ++ ['\n']
      | none => []
    else shown name (process.bindings.text name) ++ ['\n']

def set (arguments : List Octets) : Work Unit := do
  let process ← Work.process
  if arguments.isEmpty then printOut (allVariables process)
  else
    match Setting.read false (arguments.length + 1) { process, rest := arguments } with
    | .error refusal =>
      if process.isExtended then
        Work.complain refusal.extendedMessage
        match refusal with
        | .letter _ _ =>
          Work.report "set: usage: set [-abefhkmnptuvxBCEHPT] [-o option-name] [--] [-] [arg ...]"
        | _ => pure ()
        Work.setStatus 2
      else Work.fail 2 refusal.message
    | .ok given =>
      Work.modify fun _ => given.process
      succeed
      given.listed.forM fun isSet =>
        printOut (Octets.ofText
          (if isSet then Setting.table given.process else Setting.commands given.process))
      if given.ends || !given.rest.isEmpty then
        Work.modify fun process => { process with arguments := given.rest }

/-- Options of the extended dialect alone. -/
def shellOptions : List String := ["autocd", "cdspell", "checkhash", "checkwinsize", "cmdhist",
  "compat31", "compat32", "complete_fullquote", "direxpand", "dirspell", "dotglob", "execfail",
  "expand_aliases", "extdebug", "extglob", "extquote", "failglob", "force_fignore", "globasciiranges",
  "globskipdots", "globstar", "gnu_errfmt", "histappend", "histreedit", "histverify", "hostcomplete",
  "huponexit", "inherit_errexit", "interactive_comments", "lastpipe", "lithist",
  "localvar_inherit", "localvar_unset", "login_shell", "mailwarn", "no_empty_cmd_completion",
  "nocaseglob", "nocasematch", "noexpand_translation", "nullglob", "patsub_replacement", "progcomp",
  "progcomp_alias", "promptvars", "restricted_shell", "shift_verbose", "sourcepath",
  "varredir_close", "xpg_echo"]

def setShellOptions (arguments : List Octets) : Work Unit := do
  let (found, names) ← options "pqsuo" "shopt [-pqsu] [-o] [optname ...]" arguments
  let quiet := hasOption found 'q'
  succeed
  let isKnown (name : Octets) : Bool :=
    shellOptions.any (·.toList == name) ||
      (hasOption found 'o' && Setting.isName .extended name)
  let all := if names.isEmpty then shellOptions.map String.toList else names
  all.forM fun name => do
    let process ← Work.process
    if !isKnown name then failing 1 s!"{Octets.toText name}: invalid shell option name"
    else if hasOption found 's' || hasOption found 'u' then
      if !names.isEmpty then
        Work.modify fun process => process.setOption (Octets.toText name) (hasOption found 's')
    else
      let isSet := process.has (Octets.toText name)
      if !names.isEmpty && !isSet then Work.setStatus 1
      if !quiet then
        let line := if hasOption found 'p' then
            (if isSet then "shopt -s " else "shopt -u ") ++ Octets.toText name
          else Octets.toText (Octets.padEnd 15 name) ++ "\t" ++ (if isSet then "on" else "off")
        let _ ← Work.print (Octets.ofText (line ++ "\n"))

/-! ## Options of a script -/

/-- What is read from an option word. -/
structure NextOption where
  letter : Char := '?'
  /-- The argument of the option; nothing where there is none to be set. -/
  argument : Option Octets := none
  next : Nat
  offset : Nat := 0
  report : Option String := none
  isDone : Bool := false

/-- Reads the next option out of arguments: `place` is the number of the word to look at next, and
`offset` says how much of the present word has been read, zero if there is none. -/
def nextOption (process : Process) (letters : Octets) (arguments : List Octets) (place offset : Nat) :
    NextOption :=
  let silent := letters.head? == some ':'
  -- The number of the present word; it is counted as read at once in the plain dialect.
  let present := if process.isExtended then place else place - 1
  let word (n : Nat) : Octets := if n == 0 then [] else (arguments[n - 1]?).getD []
  let inside := if offset == 0 then [] else (word present).drop offset
  let (text, number) : Octets × Nat :=
    if !inside.isEmpty then (inside, present)
    else
      match word place with
      | '-' :: text => (text, place)
      | _ => ([], place)
  match text with
  | [] => { next := place, isDone := true }
  | ['-'] => { next := if inside.isEmpty then place + 1 else place, isDone := true }
  | c :: rest =>
    let offset := if rest.isEmpty then 0 else (word number).length - rest.length
    let next := if rest.isEmpty || !process.isExtended then number + 1 else number
    let refusal (plain extended : String) : Option String :=
      if silent then none
      else some (if process.isExtended then s!"{process.name.toText}: {extended} -- {c}" else plain)
    let accepted := (letters.zip (letters.drop 1 ++ ['x'])).find? fun entry =>
      entry.1 == c && c != ':'
    match accepted with
    | none =>
      { argument := if silent then some [c] else none, next, offset
        report := refusal s!"Illegal option -{c}" "illegal option" }
    | some (_, behind) =>
      if behind != ':' then
        { letter := c, argument := if process.isExtended then none else some [], next, offset }
      else if !rest.isEmpty then { letter := c, argument := some rest, next := number + 1 }
      else
        match arguments[number]? with
        | some argument => { letter := c, argument := some argument, next := number + 2 }
        | none =>
          { letter := if silent then ':' else '?', argument := if silent then some [c] else none
            next := number + 1
            report := refusal s!"No arg for -{c} option" "option requires an argument" }

def readOption (arguments : List Octets) : Work Unit := do
  let process ← Work.process
  let arguments := if arguments.head? == some ['-', '-'] then arguments.tail else arguments
  match arguments with
  | letters :: name :: given =>
    let words := if given.isEmpty then process.arguments else given
    let place := (Octets.natural? (process.get "OPTIND")).getD 1
    let found := nextOption process letters words (max place 1) process.optionOffset
    match found.report with
    | some text => Work.report text
    | none => pure ()
    match found.argument with
    | some argument => Work.modify (·.set "OPTARG".toList argument)
    | none =>
      Work.modify fun process => { process with bindings := process.bindings.erase "OPTARG".toList }
    Work.modify (·.set "OPTIND".toList (Octets.ofNat found.next))
    Work.modify fun process => { process with optionOffset := found.offset }
    Work.assign name [found.letter]
    Work.setStatus (if found.isDone then 1 else 0)
  | _ =>
    if process.isExtended then
      Work.report "getopts: usage: getopts optstring name [arg ...]"
      Work.setStatus 2
    else Work.fail 2 "Usage: getopts optstring var [arg]"

end TaskRunner.Shell.Builtin
