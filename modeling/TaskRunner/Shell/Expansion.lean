import TaskRunner.Shell.Expansion.Braces
import TaskRunner.Shell.Pattern
import TaskRunner.Shell.Process
import TaskRunner.Shell.Quoting
import TaskRunner.Shell.Setting
/- # TaskRunner.Shell.Expansion -- from words to arguments

A word is expanded in three steps: its parameters, commands and expressions are replaced by their
values; what came from them and was not quoted is split at separators; and a word with an unquoted
sign of patterns becomes the names of the files that it matches, if there are any.  A word may become
several arguments or none. -/

namespace TaskRunner.Shell
set_option autoImplicit false

/-- A piece of an expanded word. -/
inductive Piece where
  /-- An octet, whether it was quoted, and whether the word may be split at it. -/
  | octet (c : Char) (quoted split : Bool)
  /-- The end of one argument and the beginning of the next. -/
  | gap
  /-- Something that makes an argument even if it is empty. -/
  | presence
  deriving DecidableEq, Repr

/-- How the commands in a word are carried out. -/
structure Substitution where
  /-- What a command prints. -/
  output : Command → Work Octets
  /-- The path of a pipe to a command, which reads from it or writes to it. -/
  path : (reads : Bool) → Command → Work Octets

namespace Expansion

/-! ## Parameters -/

/-- The octets at which words are split. -/
def separators (process : Process) : Octets :=
  (process.bindings.text? "IFS".toList).getD [' ', '\t', '\n']

/-- Texts joined by the first separator. -/
def joined (process : Process) (texts : List Octets) : Octets :=
  Octets.join ((separators process).take 1) texts

/-- What a parameter stands for. -/
inductive Found where
  | one (value : Option Octets)
  /-- Several texts; the flag says whether they are joined where they are quoted. -/
  | many (values : List Octets) (joins : Bool)

/-- The value of a variable that changes by itself. -/
def changing? (name : String) : Option (Work Octets) :=
  match name with
  | "LINENO" => some do
    let process ← Work.process
    return Octets.ofNat process.line
  | "RANDOM" => some do
    let process ← Work.process
    let next := (process.random * 1103515245 + 12345) % 2147483648
    Work.modify fun process => { process with random := next }
    return Octets.ofNat (next / 65536 % 32768)
  | "SECONDS" => some do
    let clock ← Work.look (·.files.clock)
    let process ← Work.process
    return Octets.ofInt ((clock - process.started) / 1000000000)
  | "EPOCHSECONDS" => some do
    let clock ← Work.look (·.files.clock)
    return Octets.ofInt (clock / 1000000000)
  | "BASHPID" => some do
    let current ← Work.look (·.current)
    return Octets.ofNat current
  | "FUNCNAME" => some do
    let process ← Work.process
    return process.calls.head?.getD []
  | _ => none

/-- What a name stands for. -/
def lookUp (name : Octets) : Work Found := do
  let process ← Work.process
  let known (value : Octets) : Work Found := return .one (some value)
  match name with
  | ['@'] => return .many process.arguments false
  | ['*'] => return .many process.arguments true
  | ['#'] => known (Octets.ofNat process.arguments.length)
  | ['?'] => known (Octets.ofNat process.status)
  | ['$'] => known (Octets.ofNat process.number)
  | ['!'] => return .one (process.background.map Octets.ofNat)
  | ['-'] => known (Setting.letters process)
  | ['0'] => known process.name
  | name =>
    match Octets.natural? name with
    | some n => return .one process.arguments[n - 1]?
    | none =>
      let target := process.bindings.target name
      match process.bindings.text? target with
      | some value => known value
      | none =>
        match if process.isExtended then changing? target.toText else none with
        | some value => return .one (some (← value))
        | none => return .one none

/-- What an element of an array stands for, or all of them. -/
def lookUpElement (name index : Octets) : Work Found := do
  let process ← Work.process
  let bindings := process.bindings
  let name := bindings.target name
  let all := (((bindings.find name).value).map Value.texts).getD []
  let all := if all.isEmpty && name == "FUNCNAME".toList then process.calls else all
  match index with
  | ['@'] => return .many all false
  | ['*'] => return .many all true
  | index => return .one (bindings.element? name (← Work.indexOf name index))

/-- The pieces of a value. -/
def ofValue (quoted : Bool) (value : Octets) : List Piece :=
  let octets := value.map fun c => Piece.octet c quoted (!quoted)
  if quoted then .presence :: octets else octets

/-- The pieces of several values. -/
def ofValues (quoted : Bool) (values : List Octets) : List Piece :=
  [Piece.gap].intercalate (values.map (ofValue quoted))

/-! ## Pieces as texts -/

/-- The octets of pieces, quoted or not. -/
def marked (pieces : List Piece) : List Marked :=
  pieces.filterMap fun
    | .octet c quoted _ => some (c, quoted)
    | .gap => some (' ', false)
    | .presence => none

def plain (pieces : List Piece) : Octets := (marked pieces).map (·.1)

/-- What came before a piece that is looked at to split a word. -/
inductive Before where
  /-- Nothing, or a separator that is complete. -/
  | nothing
  /-- A field, and blanks behind it that may belong to a separator. -/
  | blanks

/-- The fields into which pieces are split. -/
structure Split where
  done : List (List Marked) := []
  /-- The field that is not complete, its last octet first. -/
  current : Option (List Marked) := none
  before : Before := .nothing

/-- Completes the current field, if there is one. -/
def Split.close (state : Split) (before : Before) : Split :=
  match state.current with
  | some field => { done := field.reverse :: state.done, before }
  | none => state

/-- Takes one more piece.  A separator is an octet that is no blank, with blanks around it, or blanks
alone. -/
def Split.add (separators : Octets) (state : Split) : Piece → Split
  | .gap => { state.close .nothing with before := .nothing }
  | .presence => { state with current := some (state.current.getD []) }
  | .octet c quoted split =>
    if split && separators.contains c then
      if Octets.isBlank c then state.close .blanks
      else
        match state.current, state.before with
        | some field, _ => { done := field.reverse :: state.done }
        | none, .blanks => { state with before := .nothing }
        | none, .nothing => { state with done := [] :: state.done }
    else { state with current := some ((c, quoted) :: state.current.getD []) }

/-- The fields of pieces, in order. -/
def fields (separators : Octets) (pieces : List Piece) : List (List Marked) :=
  ((pieces.foldl (Split.add separators) {}).close .nothing).done.reverse

/-- A text without the line feeds at its end, and without octets that no variable can hold. -/
def printed (octets : Octets) : Octets :=
  ((octets.filter (· != '\x00')).reverse.dropWhile (· == '\n')).reverse

/-! ## Operations on values -/

/-- Whether a value counts as set. -/
def isSet (alsoEmpty : Bool) : Found → Bool
  | .one none => false
  | .one (some value) => !(alsoEmpty && value.isEmpty)
  | .many values _ => !values.isEmpty && !(alsoEmpty && values.all (·.isEmpty))

/-- A value with its letters in the other case, all of them or the first. -/
def recased (upper every : Bool) (pattern : List Atom) (value : Octets) : Octets :=
  let change (c : Char) : Char :=
    if pattern.isEmpty || Pattern.covers pattern [c] then
      if upper then c.toUpper else c.toLower
    else c
  if every then value.map change
  else
    match value with
    | c :: rest => change c :: rest
    | [] => []

/-- A value in another form. -/
def transformed (letter : Char) (value : Octets) : Octets :=
  match letter with
  | 'Q' => Quoting.always value
  | 'U' => value.map Char.toUpper
  | 'L' => value.map Char.toLower
  | 'u' =>
    match value with
    | c :: rest => c.toUpper :: rest
    | [] => []
  | _ => value

/-- The items from a place on, which is counted from the end if it is negative; up to a length, or up
to a place counted from the end. -/
def sliced {α : Type} (items : List α) (offset : Int) (length : Option Int) : List α :=
  let size : Int := items.length
  let start := if offset < 0 then size + offset else offset
  if start < 0 then []
  else
    let rest := items.drop start.toNat
    match length with
    | none => rest
    | some n =>
      if n < 0 then rest.take (size - start + n).toNat else rest.take n.toNat

/-- What a match is replaced by: a sign that is not quoted stands for the match. -/
def replacementFor (replacement : List Marked) (found : Octets) : Octets :=
  replacement.flatMap fun (c, quoted) => if c == '&' && !quoted then found else [c]

/-- How a word is expanded: into fields, or into one text; and whether its own text is split. -/
structure Mode where
  fields : Bool
  loose : Bool := false

variable (substitution : Substitution) (expand : Mode → Word → Work (List Piece))

/-- The pieces of what a parameter stands for. -/
def ofFound (mode : Mode) (quoted : Bool) (found : Found) : Work (List Piece) := do
  let process ← Work.process
  match found with
  | .one value => return ofValue quoted (value.getD [])
  | .many values joins =>
    if mode.fields then
      if quoted && joins then return ofValue true (joined process values)
      else return ofValues quoted values
    else if joins || !process.isExtended then return ofValue quoted (joined process values)
    else return ofValue quoted (Octets.join [' '] values)

/-- A change of each value that a parameter stands for. -/
def mapFound (f : Octets → Octets) : Found → Found
  | .one value => .one (value.map f)
  | .many values joins => .many (values.map f) joins

/-- The text of a word. -/
def textOf (word : Word) : Work Octets := do return plain (← expand { fields := false } word)

/-- The pattern that a word writes. -/
def patternOf (word : Word) : Work (List Atom) := do
  let process ← Work.process
  return Pattern.ofMarked process.isExtended (marked (← expand { fields := false } word))

/-- Gives up because a parameter is unset. -/
def unset {α : Type} (name : Octets) (message : String) : Work α := do
  let process ← Work.process
  Work.complain s!"{name.toText}: {message}"
  Work.setStatus (if process.isExtended then 127 else 2)
  Work.leave (if process.isExtended then .process else .mistake)

/-- What a parameter stands for, and its name. -/
def subjectOf (subject : Subject) : Work (Octets × Found) := do
  match subject with
  | .mk name indirect index =>
    let found ← if index.isEmpty then lookUp name
      else lookUpElement name (← textOf expand index)
    if indirect then
      match found with
      | .one (some other) =>
        let name := other.takeWhile (· != '[')
        let index := (other.drop (name.length + 1)).dropLast
        return (other, ← if index.isEmpty then lookUp name else lookUpElement name index)
      | _ => return (name, .one none)
    else return (name, found)

/-- Stores the value that an unset parameter is given. -/
def assignDefault (subject : Subject) (value : Octets) : Work Unit := do
  match subject with
  | .mk name indirect index =>
    let process ← Work.process
    let name := if indirect then process.bindings.text name else name
    if !isName name then
      Work.abort (if process.isExtended then s!"${name.toText}: cannot assign in this way"
        else s!"{name.toText}: bad variable name")
    else if index.isEmpty then Work.assign name value
    else Work.assignElement name (← textOf expand index) value

/-- The length of what a parameter stands for, or how many values that is. -/
def lengthOf (found : Found) : Work Nat := do
  match found with
  | .one value => return (value.getD []).length
  | .many values _ =>
    let process ← Work.process
    return if process.isExtended then values.length else (joined process values).length

/-- A part of what a parameter stands for. -/
def sliceOf (name : Octets) (found : Found) (offset : Int) (length : Option Int) : Work Found := do
  match found with
  | .one value => return .one (value.map fun text => sliced text offset length)
  | .many values joins =>
    let process ← Work.process
    if name == ['@'] || name == ['*'] then
      return .many (sliced (process.name :: values) offset length) joins
    else return .many (sliced values offset length) joins

/-- A value with matches replaced. -/
def replaced (place : ReplacePlace) (pattern : List Atom) (replacement : List Marked)
    (value : Octets) : Octets :=
  let fill := replacementFor replacement
  match place with
  | .first => Pattern.replace pattern false fill (value.length + 1) value
  | .every => Pattern.replace pattern true fill (value.length + 1) value
  | .start =>
    match Pattern.longestStart? pattern value with
    | some n => fill (value.take n) ++ value.drop n
    | none => value
  | .finish =>
    match (List.range (value.length + 1)).find? fun n => Pattern.covers pattern (value.drop n) with
    | some n => value.take n ++ fill (value.drop n)
    | none => value

/-- The pieces of a parameter with an operation. -/
def parameter (mode : Mode) (quoted : Bool) (subject : Subject) (operation : Operation) :
    Work (List Piece) := do
  let inner : Mode := { mode with loose := mode.fields && !quoted }
  let (name, found) ← subjectOf expand subject
  let show_ := ofFound mode quoted
  let process ← Work.process
  let isMissing := match found with
    | .one none => process.has "nounset"
    | _ => false
  let check : Work Unit := do
    if isMissing then
      let shown := if process.isExtended && name.all Char.isDigit then '$' :: name else name
      unset shown (if process.isExtended then "unbound variable" else "parameter not set")
  match operation with
  | .plain =>
    check
    show_ found
  | .length =>
    check
    return ofValue quoted (Octets.ofNat (← lengthOf found))
  | .default alsoEmpty word =>
    if isSet alsoEmpty found then show_ found else expand inner word
  | .assign alsoEmpty word =>
    if isSet alsoEmpty found then show_ found
    else
      let value ← textOf expand word
      assignDefault expand subject value
      return ofValue quoted value
  | .demand alsoEmpty word =>
    if isSet alsoEmpty found then show_ found
    else
      let message := (← textOf expand word).toText
      unset name (if !message.isEmpty then message
        else if alsoEmpty then "parameter null or not set"
        else "parameter not set")
  | .alternative alsoEmpty word =>
    if isSet alsoEmpty found then expand inner word
    else return if quoted then [.presence] else []
  | .drop fromEnd longest word =>
    check
    let pattern ← patternOf expand word
    let drop := if fromEnd then Pattern.dropEnd longest pattern else Pattern.dropStart longest pattern
    show_ (mapFound drop found)
  | .slice offset bounded length =>
    check
    let start ← Work.calculate (← textOf expand offset)
    let size ← if bounded then do
        pure (some (← Work.calculate (← textOf expand length)))
      else pure none
    show_ (← sliceOf name found start size)
  | .replace place pattern replacement =>
    check
    let pattern ← patternOf expand pattern
    let replacement := marked (← expand { fields := false } replacement)
    show_ (mapFound (replaced place pattern replacement) found)
  | .recase upper every pattern =>
    check
    let pattern ← patternOf expand pattern
    show_ (mapFound (recased upper every pattern) found)
  | .transform letter =>
    check
    show_ (mapFound (transformed letter) found)
  | .keys =>
    let keys := (((process.bindings.find name).value).map Value.keys).getD []
    let joins := match subject with
      | .mk _ _ [.text _ ['*']] => true
      | _ => false
    show_ (.many keys joins)
  | .names =>
    let found := process.bindings.fold
      (fun names other entry =>
        if name.isPrefixOf other && entry.value.isSome then other :: names else names)
      []
    let joins := match subject with
      | .mk _ joins _ => joins
    show_ (.many (Octets.sorted found) joins)

/-- The pieces of a part. -/
def partWith (mode : Mode) (part : Part) : Work (List Piece) := do
  match part with
  | .text quoted octets =>
    let octets := octets.map fun c => Piece.octet c quoted (mode.loose && !quoted)
    return if quoted then Piece.presence :: octets else octets
  | .parameter quoted subject operation => parameter expand mode quoted subject operation
  | .command quoted body => return ofValue quoted (printed (← substitution.output body))
  | .arithmetic quoted expression =>
    let n ← Work.calculate (← textOf expand expression)
    return ofValue quoted (Octets.ofInt n)
  | .process reads body => return ofValue true (← substitution.path reads body)
  | .malformed =>
    Work.abort (if (← Work.process).isExtended then "bad substitution" else "Bad substitution")

/-- The pieces of parts, one behind the other. -/
def collect (one : Part → Work (List Piece)) (word : Word) : Work (List Piece) := do
  let found ← word.foldlM (fun found part => do return (← one part) :: found) []
  return found.reverse.flatten

/-- The pieces of a part whose words are nested so deep at most. -/
def part (depth : Nat) (mode : Mode) (one : Part) : Work (List Piece) :=
  match depth with
  | 0 => Work.abort "Bad substitution"
  | depth + 1 =>
    partWith substitution (fun mode word => collect (part depth mode) word) mode one

/-! ## Tildes -/

/-- The directory that a tilde with a name behind it stands for. -/
def home? (process : Process) (name : Octets) : Option Octets :=
  match name with
  | [] =>
    match process.bindings.text? "HOME".toList with
    | some home => some home
    | none => if process.isExtended then some "/root".toList else none
  | ['+'] => if process.isExtended then process.bindings.text? "PWD".toList else none
  | ['-'] => if process.isExtended then process.bindings.text? "OLDPWD".toList else none
  | name => if name == "root".toList then some "/root".toList else none

/-- A word with the tilde at its start replaced.  In a value that is assigned a tilde behind a colon
counts too. -/
def withHome (process : Process) (assigned : Bool) (word : Word) : Word :=
  match word with
  | .text false ('~' :: rest) :: others =>
    let isEnd (c : Char) : Bool := c == '/' || (assigned && c == ':')
    let name := rest.takeWhile fun c => !isEnd c
    if name.length == rest.length && !others.isEmpty then word
    else
      match home? process name with
      | some home => .text true home :: .text false (rest.drop name.length) :: others
      | none => word
  | word => word

/-- A value that is assigned, with its tildes replaced. -/
def withHomes (process : Process) (word : Word) : Word :=
  let hasTilde := word.any fun
    | .text false octets => octets.contains '~'
    | _ => false
  if !hasTilde then word
  else
    match withHome process true word with
    | first :: .text false rest :: others =>
      let pieces := Octets.splitAt ':' rest
      let changed := pieces.zipIdx.flatMap fun (piece, i) =>
        if i == 0 then [Part.text false piece]
        else .text false [':'] :: withHome process true [.text false piece]
      first :: changed ++ others
    | [.text false rest] =>
      let pieces := Octets.splitAt ':' rest
      pieces.zipIdx.flatMap fun (piece, i) =>
        if i == 0 then [Part.text false piece]
        else .text false [':'] :: withHome process true [.text false piece]
    | word => word

/-! ## Words -/

/-- How deep words are nested, at most. -/
def maxDepth : Nat := 100000

/-- The pieces of a word. -/
def pieces (mode : Mode) (word : Word) : Work (List Piece) := do
  match word with
  | [.text _ _] => collect (part substitution 1 mode) (withHome (← Work.process) false word)
  | _ => collect (part substitution maxDepth mode) (withHome (← Work.process) false word)

/-- The text of a word that stays one argument. -/
def single (word : Word) : Work Octets := do
  return plain (← pieces substitution { fields := false } word)

/-- The text of a value that is assigned. -/
def assigned (word : Word) : Work Octets := do
  let word := withHomes (← Work.process) word
  return plain (← collect (part substitution maxDepth { fields := false }) word)

/-- The pattern that a word writes. -/
def pattern (word : Word) : Work (List Atom) := do
  let process ← Work.process
  return Pattern.ofMarked process.isExtended
    (marked (← pieces substitution { fields := false } word))

/-- How a process matches the names of files. -/
def rules (process : Process) : Pattern.Rules where
  extended := process.isExtended
  dots := process.has "dotglob"
  dotNames := !process.isExtended
  deep := process.has "globstar"
  fold := process.has "nocaseglob"

/-- The arguments that a field becomes. -/
def ofField (process : Process) (machine : Machine) (field : List Marked) : List Octets :=
  let literal := field.map (·.1)
  if process.has "noglob" || !Pattern.isPattern process.isExtended field then [literal]
  else
    match Pattern.paths (rules process) machine.files machine.place field with
    | [] => if process.has "nullglob" then [] else [literal]
    | found => found

/-- The arguments that a word becomes. -/
def arguments (word : Word) : Work (List Octets) := do
  let process ← Work.process
  let words := if process.isExtended then Braces.words word else [word]
  let found ← words.mapM fun word => do
    let pieces ← pieces substitution { fields := true } word
    let process ← Work.process
    let fields := fields (separators process) pieces
    Work.look fun machine => fields.flatMap (ofField process machine)
  return found.flatten

/-- The arguments that words become. -/
def allArguments (words : List Word) : Work (List Octets) := do
  let found ← words.mapM (arguments substitution)
  return found.flatten

end Expansion
end TaskRunner.Shell
