import TaskRunner.Shell.Builtin.Basic
import TaskRunner.Shell.Program
/- # TaskRunner.Shell.Builtin.Lookup -- what names stand for

A name at the start of a command is a reserved word, a text that stands in its place, a function, a
command of the shell, or a program, in this order. -/

namespace TaskRunner.Shell.Builtin
set_option autoImplicit false

/-! ## Aliases -/

/-- How many places the listing of aliases has. -/
def aliasPlaces : Nat := 39

/-- The place of an alias in the listing. -/
def aliasPlace (name : Octets) : Nat :=
  name.foldl (fun n c => n + c.toNat) (((name.head?.map Char.toNat).getD 0) * 16) % aliasPlaces

/-- An alias as a command or an assignment. -/
def shownAlias (process : Process) (name text : Octets) : Octets :=
  if process.isExtended then "alias ".toList ++ name ++ '=' :: Quoting.singleEscaped text ++ ['\n']
  else name ++ '=' :: Quoting.single text ++ ['\n']

def setAliases (arguments : List Octets) : Work Unit := do
  let process ← Work.process
  let words := if arguments.head? == some ['-', 'p'] then arguments.tail else arguments
  if words.isEmpty then
    let all := process.aliases.toList.mergeSort fun a b =>
      let isBefore := Octets.isOrdered a.1 b.1
      if process.isExtended then isBefore
      else aliasPlace a.1 < aliasPlace b.1 || (aliasPlace a.1 == aliasPlace b.1 && isBefore)
    printOut (all.flatMap fun (name, text) => shownAlias process name text)
  else
    succeed
    words.forM fun word => do
      match word with
      | [] => pure ()
      | c :: rest =>
        match Octets.cut? '=' rest with
        | some (more, text) =>
          Work.modify fun process =>
            { process with aliases := process.aliases.insert (c :: more) text }
        | none =>
          match (← Work.process).aliases[word]? with
          | some text =>
            let _ ← Work.print (shownAlias process word text)
          | none =>
            if process.isExtended then failing 1 s!"{Octets.toText word}: not found"
            else
              Work.report s!"alias: {Octets.toText word} not found"
              Work.setStatus 1

def unsetAliases (arguments : List Octets) : Work Unit := do
  let (found, words) ← options "a" "unalias [-a] name [name ...]" arguments
  succeed
  if hasOption found 'a' then Work.modify fun process => { process with aliases := {} }
  else
    words.forM fun word => do
      let process ← Work.process
      if process.aliases.contains word then
        Work.modify fun process => { process with aliases := process.aliases.erase word }
      else if process.isExtended then failing 1 s!"{word.toText}: not found"
      else
        Work.report s!"unalias: {word.toText} not found"
        Work.setStatus 1

/-! ## Programs -/

/-- The path of the program that a name stands for in a process. -/
def programPath (name : Octets) : Work (Except FileError Octets) := do
  let process ← Work.process
  let directories := (process.bindings.text? "PATH".toList).getD Program.defaultPath
  Work.look fun machine => Program.find machine directories name

def rememberPrograms (arguments : List Octets) : Work Unit := do
  let process ← Work.process
  let (found, words) ← options (if process.isExtended then "lrtdp:" else "rv") "hash [-lr] [-p pathname] [-dt] [name ...]"
    arguments
  succeed
  if hasOption found 'r' then Work.modify fun process => { process with found := [] }
  else if words.isEmpty then
    if process.isExtended then
      if process.found.isEmpty then printOut "hash: hash table empty\n".toList
    else
      process.found.reverse.forM fun name => do
        match ← programPath name with
        | .ok path =>
          let _ ← Work.print (path ++ ['\n'])
        | .error _ => pure ()
  else
    words.forM fun word => do
      match ← programPath word with
      | .ok _ =>
        Work.modify fun process =>
          { process with found := if process.found.contains word then process.found
            else word :: process.found }
      | .error _ => failing 1 s!"{word.toText}: not found"

/-! ## What names stand for -/

/-- How a name is described. -/
inductive Manner where
  /-- As it would be written. -/
  | brief
  | full
  /-- By its kind alone. -/
  | kind
  /-- By the path of the program alone. -/
  | path
  deriving DecidableEq

def isReserved (process : Process) (name : Octets) : Bool :=
  Source.reserved.any (·.toList == name) ||
    (process.isExtended &&
      ["[[", "]]", "function", "select", "time", "coproc"].any (·.toList == name))

/-- Says what a name stands for; `isSpecial` knows the commands of the shell. -/
def describe (isSpecial : Octets → Option Bool) (manner : Manner) (name : Octets) : Work Unit := do
  let process ← Work.process
  let tell (brief full kind : String) : Work Unit := do
    let text := match manner with
      | .brief => brief
      | .full => s!"{name.toText} is {full}"
      | .kind => kind
      | .path => ""
    if manner != .path then printOut (Octets.ofText (text ++ "\n")) else succeed
  let shown := name.toText
  if isReserved process name then tell shown "a shell keyword" "keyword"
  else
    match process.aliases[name]? with
    | some text =>
      let brief := if process.isExtended then (shownAlias process name text).dropLast
        else "alias ".toList ++ (shownAlias process name text).dropLast
      let full := if process.isExtended then s!"aliased to \x60{text.toText}'"
        else s!"an alias for {text.toText}"
      tell (Octets.toText brief) full "alias"
    | none =>
      if process.functions.contains name then
        tell shown (if process.isExtended then "a function" else "a shell function") "function"
      else
        match isSpecial name with
        | some special =>
          tell shown (if special && !process.isExtended then "a special shell builtin"
            else "a shell builtin") "builtin"
        | none =>
          let path ← if name.contains '/' then do
              let isThere ← Work.look fun machine =>
                if process.isExtended then (Program.content machine name).toOption.isSome
                else machine.files.doesExist machine.place name.toText
              pure (if isThere then Except.ok name else .error FileError.notFound)
            else programPath name
          match path with
          | .ok path =>
            let text := path.toText
            let wasFound := process.found.contains name && !process.isExtended &&
              !name.contains '/'
            if !name.contains '/' then
              Work.modify fun process =>
                { process with found := if process.found.contains name then process.found
                  else name :: process.found }
            if manner == .path then printOut (path ++ ['\n'])
            else tell text (if wasFound then s!"a tracked alias for {text}" else text) "file"
          | .error _ =>
            match manner with
            | .brief | .kind | .path => Work.setStatus (if process.isExtended then 1 else 127)
            | .full =>
              if process.isExtended then failing 1 s!"{shown}: not found"
              else
                let _ ← Work.print (Octets.ofText s!"{shown}: not found\n")
                Work.setStatus 127

/-- Says what names stand for, one after the other; the status is that of a failure. -/
def describeEach (isSpecial : Octets → Option Bool) (manner : Manner) (names : List Octets) :
    Work Unit := do
  let status ← names.foldlM
    (fun status name => do
      describe isSpecial manner name
      let now := (← Work.process).status
      return if now != 0 then now else status)
    0
  Work.setStatus status

def typeOf (isSpecial : Octets → Option Bool) (arguments : List Octets) : Work Unit := do
  let process ← Work.process
  let (found, names) ← if process.isExtended then options "afptP" "type [-afptP] name [name ...]" arguments
    else pure ([], arguments)
  let manner : Manner := if hasOption found 't' then .kind
    else if hasOption found 'p' || hasOption found 'P' then .path else .full
  describeEach isSpecial manner names

end TaskRunner.Shell.Builtin
