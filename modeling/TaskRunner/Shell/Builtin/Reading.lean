import TaskRunner.Shell.Builtin.Basic
/- # TaskRunner.Shell.Builtin.Reading -- reading lines into variables

A line is read octet by octet, so that what is behind it is left for others to read.  It is split at
separators into as many fields as there are variables; the last one takes all that is left. -/

namespace TaskRunner.Shell.Builtin
set_option autoImplicit false

/-- How a line is read. -/
structure LineRules where
  number : Nat := 0
  /-- Whether a backslash stands for itself. -/
  raw : Bool := false
  finish : Char := '\n'
  /-- How many octets are read at most. -/
  most : Option Nat := none
  /-- Whether the line goes on behind its last octet, until there are enough. -/
  exact : Bool := false

/-- A line that was read: its octets, the last first, and whether it was complete. -/
structure ReadLine where
  octets : List Marked
  complete : Bool

/-- Reads a line; `escaped` says whether a backslash stands in front of the next octet. -/
def readLine (rules : LineRules) (fuel : Nat) (escaped : Bool) (count : Nat) (read : List Marked) :
    Action ReadLine :=
  match fuel with
  | 0 => return { octets := read, complete := false }
  | fuel + 1 => do
    if rules.most == some count then return { octets := read, complete := true }
    else
      match ← Action.read rules.number 1 with
      | .ok (c :: _) =>
        if escaped then
          if c == '\n' then readLine rules fuel false count read
          else readLine rules fuel false (count + 1) ((c, true) :: read)
        else if c == rules.finish && !rules.exact then return { octets := read, complete := true }
        else if c == '\x00' then readLine rules fuel false count read
        else if c == '\\' && !rules.raw then readLine rules fuel true count read
        else readLine rules fuel false (count + 1) ((c, false) :: read)
      | _ => return { octets := read, complete := false }

/-- The longest line that is read. -/
def maxLine : Nat := 100000000

/-- The state of splitting a line into at most a number of fields. -/
structure Fields where
  /-- How many fields there may still be. -/
  left : Nat
  done : List Octets := []
  /-- The octets of the present field, the last first. -/
  current : Octets := []
  /-- Whether the separator in front was a blank, and more of it may follow. -/
  behindBlank : Bool := false
  /-- The length to which the last field is cut if nothing else follows. -/
  cut : Option Nat := none

/-- Takes one more octet of a line. -/
def Fields.add (separators : Octets) (state : Fields) (octet : Marked) : Fields :=
  let (c, quoted) := octet
  let separates := !quoted && separators.contains c
  let isBlank := separates && Octets.isBlank c
  let push (state : Fields) : Fields := { state with current := c :: state.current }
  if state.left == 0 then
    if isBlank then push { state with cut := some (state.cut.getD state.current.length) }
    else
      let cut := if separates && state.behindBlank then state.cut else none
      push { state with cut, behindBlank := false }
  else if state.behindBlank && isBlank then state
  else if state.behindBlank && separates then { state with behindBlank := false }
  else if separates then
    if state.current.isEmpty && isBlank && !state.behindBlank then state
    else if state.left == 1 then
      push { state with left := 0, cut := some state.current.length, behindBlank := isBlank }
    else
      { state with
        left := state.left - 1, done := state.current.reverse :: state.done
        current := [], behindBlank := isBlank }
  else push { state with behindBlank := false }

/-- The fields of a line, at most so many. -/
def lineFields (separators : Octets) (most : Nat) (line : List Marked) : List Octets :=
  let state := line.foldl (Fields.add separators) { left := most }
  let last := match state.cut with
    | some n => state.current.reverse.take n
    | none => state.current.reverse
  (if last.isEmpty then state.done else last :: state.done).reverse

/-- Gives variables the fields of a line, and no text where there are no more. -/
def assignFields : List Octets → List Octets → Work Unit
  | [], _ => return ()
  | name :: names, fields => do
    Work.assign name (fields.head?.getD [])
    assignFields names fields.tail

/-- Gives an array the fields of a line. -/
def assignArray (name : Octets) (fields : List Octets) : Work Unit := do
  let items := fields.zipIdx.map fun (field, i) => (i, field)
  Work.modify fun process =>
    { process with bindings := process.bindings.setValue name (.indexed items) }

def readUsage : String := "read [-ers] [-a array] [-d delim] [-i text] [-n nchars] [-N nchars] [-p prompt] [-t timeout] [-u fd] [name ...]"

def read (arguments : List Octets) : Work Unit := do
  let process ← Work.process
  let letters := if process.isExtended then "ra:d:i:n:N:p:t:u:es" else "p:r"
  let (found, names) ← options letters readUsage arguments
  let value (c : Char) : Option Octets := found.lookup c
  if !process.isExtended && names.isEmpty then Work.fail 2 "arg count"
  let invalid := names.find? fun name => !isName (name.takeWhile (· != '['))
  match invalid with
  | some name =>
    if process.isExtended then failing 1 s!"\x60{name.toText}': not a valid identifier"
    else Work.fail 2 s!"{name.toText}: bad variable name"
  | none =>
    let most := ((value 'n') <|> (value 'N')).bind Octets.natural?
    let number := ((value 'u').bind Octets.natural?).getD 0
    let rules : LineRules := {
      number, raw := hasOption found 'r', most, exact := (value 'N').isSome
      finish := match value 'd' with
        | some (c :: _) => c
        | some [] => '\x00'
        | none => '\n' }
    if (← Work.look (·.opening? number)).isNone then
      if process.isExtended && hasOption found 'u' then
        failing 1 s!"{number}: invalid file descriptor: {FileError.badDescriptor.wording}"
      else
        assignFields names []
        Work.setStatus 1
    else
      let line ← Work.act (readLine rules maxLine false 0 [])
      let octets := line.octets.reverse
      let separators := Expansion.separators process
      match value 'a' with
      | some array => assignArray array (lineFields separators (octets.length + 1) octets)
      | none =>
        if names.isEmpty then Work.assign "REPLY".toList (octets.map (·.1))
        else if rules.exact then assignFields names [octets.map (·.1)]
        else assignFields names (lineFields separators names.length octets)
      answer line.complete

/-- Puts the lines of the input into an array. -/
def readArray (arguments : List Octets) : Work Unit := do
  let (found, names) ← options "d:n:O:s:tu:C:c:"
    "mapfile [-d delim] [-n count] [-O origin] [-s count] [-t] [-u fd] [-C callback] [-c quantum] [array]"
    arguments
  let value (c : Char) : Option Octets := found.lookup c
  let count (c : Char) : Option Nat := (value c).bind Octets.natural?
  let finish := match value 'd' with
    | some (c :: _) => c
    | some [] => '\x00'
    | none => '\n'
  match ← Work.act (Action.readAll ((count 'u').getD 0)) with
  | .error cause => failing 1 cause.wording
  | .ok text =>
    let pieces := Octets.splitAt finish text
    let last := pieces.getLast?.getD []
    let lines := pieces.dropLast.map (fun line => if hasOption found 't' then line else line ++ [finish])
      ++ (if last.isEmpty then [] else [last])
    let lines := lines.drop ((count 's').getD 0)
    let lines := match count 'n' with
      | some (n + 1) => lines.take (n + 1)
      | _ => lines
    let name := names.head?.getD "MAPFILE".toList
    match count 'O' with
    | none => assignArray name lines
    | some origin =>
      Work.modify fun process =>
        { process with
          bindings := lines.zipIdx.foldl
            (fun bindings (line, i) => bindings.setElement name (Octets.ofNat (origin + i)) line)
            process.bindings }
    succeed

end TaskRunner.Shell.Builtin
