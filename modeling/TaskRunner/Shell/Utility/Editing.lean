import TaskRunner.Shell.Editing
import TaskRunner.Shell.Utility.Files
import TaskRunner.Shell.Utility.Lines
/- # TaskRunner.Shell.Utility.Editing -- the program that edits lines

For each line of its input the program carries out a script, and then writes what the line has become.
The edits of the script may read more lines, keep lines for later, and write files.  Files can also be
edited in place: then what is written becomes their content. -/

namespace TaskRunner.Shell.Utility
set_option autoImplicit false

open Editing (Edit Step Searched LineMark Insertion Replacement Script)

/-- How lines are read and written. -/
structure EditRule where
  silent : Bool := false
  /-- Whether every file begins with a first line. -/
  separate : Bool := false
  /-- What is put behind the names of files that are edited in place, to keep what was in them. -/
  inPlace : Option Octets := none
  delimiter : Char := '\n'
  width : Nat := 70

/-- Whether the lines between two marks are going by, and up to which line if that is known. -/
inductive RangeState where
  | outside
  | inside (last : Option Nat)
  deriving Inhabited

/-- What is written behind a line. -/
inductive Appended where
  | text (octets : Octets)
  | file (path : Octets)

/-- A file that the script writes. -/
structure EditTarget where
  path : Octets
  number : Nat
  /-- Whether the last line in it lacks its end. -/
  unended : Bool := false

/-- Where the editing has come to. -/
structure EditState where
  rule : EditRule
  /-- Files that are still to be read. -/
  files : List Octets
  /-- The number and the name of the file that is read. -/
  input : Option Nat := none
  name : Octets := ['-']
  /-- The next line, if it has been read. -/
  ahead : Option (Octets × Bool) := none
  atEnd : Bool := false
  text : Octets := []
  /-- Whether the line had an end. -/
  ended : Bool := true
  kept : Octets := []
  keptEnded : Bool := true
  line : Nat := 0
  replaced : Bool := false
  /-- What is written behind the line, the latest first. -/
  queue : List Appended := []
  ranges : Array RangeState
  last : Option Searched := none
  /-- Whether the last line that was written lacks its end. -/
  unended : Bool := false
  targets : List EditTarget := []
  /-- The lines of files that are read line by line. -/
  sources : List (Octets × List Octets) := []
  /-- What becomes of the file that is edited in place, the last part first. -/
  edited : List Octets := []

abbrev Edits := StateT EditState Tool

/-- How the steps for one line end. -/
inductive CycleEnd where
  | usual
  /-- Nothing is written. -/
  | quiet
  /-- Nothing is written, and no line is read before the steps begin again. -/
  | again
  | quit (status : Nat) (prints : Bool)

namespace Edits

/-- Ends the program with a complaint. -/
def refuse {α : Type} (status : Nat) (text : String) : Edits α := do
  Tool.reportAhead s!"sed: {text}"
  (Tool.exit status : Tool α)

/-! ## Writing -/

/-- Writes octets to the output, or to what becomes of a file. -/
def emit (octets : Octets) : Edits Unit := do
  if (← get).rule.inPlace.isSome then
    modify fun state => { state with edited := octets :: state.edited }
  else Tool.put octets

/-- Gives the last line that was written its end. -/
def complete : Edits Unit := do
  if (← get).unended then
    modify fun state => { state with unended := false }
    emit ['\n']

/-- Writes a line that ends as the one that was read. -/
def putLine (octets : Octets) : Edits Unit := do
  complete
  let state ← get
  if state.ended then emit (octets ++ [state.rule.delimiter])
  else
    emit octets
    set { ← get with unended := true }

/-- Writes lines that are complete. -/
def putText (octets : Octets) : Edits Unit := do
  complete
  emit octets

/-- Writes a line to a file of the script. -/
def putTo (path octets : Octets) : Edits Unit := do
  let state ← get
  if path == "/dev/stdout".toList then
    if state.rule.inPlace.isNone then putLine octets
    else Tool.put (octets ++ if state.ended then [state.rule.delimiter] else [])
  else
    match state.targets.find? (·.path == path) with
    | none => return ()
    | some target =>
      let text := (if target.unended then ['\n'] else []) ++ octets ++
        (if state.ended then [state.rule.delimiter] else [])
      let _ ← Tool.act (Action.write target.number text)
      set { state with
        targets := state.targets.map fun (one : EditTarget) =>
          if one.path == path then { one with unended := !state.ended } else one }

/-- Writes what is to be written behind the line. -/
def putAppended : Edits Unit := do
  let queue := (← get).queue.reverse
  modify fun state => { state with queue := [] }
  for one in queue do
    complete
    match one with
    | .text octets => emit octets
    | .file path =>
      let path := if path == "/dev/stdin".toList then ['-'] else path
      match ← Tool.contents path with
      | .ok octets => emit octets
      | .error _ => pure ()

/-! ## Reading -/

/-- Puts what has become of a file in its place. -/
def replaceFile (suffix : Octets) : Edits Unit := do
  let state ← get
  let content := Octets.toBytes state.edited.reverse.flatten
  set { state with edited := [], unended := false }
  match ← nodeAt state.name, ← nodeAt state.name false with
  | .ok (_, node), .ok (place, _) =>
    let base := lastName state.name
    let backup := if suffix.contains '*' then suffix.flatMap fun c => if c == '*' then base else [c]
      else base ++ suffix
    changeFiles fun files =>
      let cleared := if suffix.isEmpty then files.removeTree place
        else files.rename place (place.dropLast ++ [Octets.toText backup])
      cleared.create place (Node.file content cleared.clock node.mode)
  | _, _ => return ()

/-- Opens the next file; tells whether there is one. -/
def openNext (fuel : Nat) : Edits Bool := do
  match fuel with
  | 0 => return false
  | fuel + 1 =>
    let state ← get
    match state.files with
    | [] => return false
    | path :: files =>
      set { state with files }
      let node ← nodeAt path
      let isFile := match node with
        | .ok (_, node) => node.isFile
        | .error _ => true
      if state.rule.inPlace.isSome && !isFile then
        Tool.reportAhead s!"sed: couldn't edit {path.toText}: not a regular file"
        Tool.setStatus 4
        openNext fuel
      else
        match ← Tool.openInput path with
        | .error cause =>
          Tool.reportAhead s!"sed: can't read {path.toText}: {cause.wording}"
          if (← Tool.progress).status == 0 then Tool.setStatus 2
          openNext fuel
        | .ok number =>
          if state.rule.separate then
            if state.rule.inPlace.isNone then complete
            modify fun state => { state with line := 0 }
          modify fun state =>
            { state with input := some number, name := path, ahead := none, atEnd := false }
          return true

/-- Reads the next line of the file ahead. -/
def lookAhead : Edits Unit := do
  let state ← get
  match state.input with
  | none => return ()
  | some number =>
    if state.ahead.isNone && !state.atEnd then
      match ← Tool.line? number state.rule.delimiter with
      | .ok (some line) => set { state with ahead := some line }
      | .ok none => set { state with atEnd := true }
      | .error cause => refuse 4 s!"read error on {state.name.toText}: {cause.wording}"

/-- Whether the line is the last one. -/
def isLast : Edits Bool := do
  lookAhead
  let state ← get
  return state.ahead.isNone && (state.rule.separate || state.files.isEmpty)

/-- The next line of the input; nothing behind the last one. -/
def nextLine? (fuel : Nat) : Edits (Option Octets) := do
  match fuel with
  | 0 => return none
  | fuel + 1 =>
    lookAhead
    let state ← get
    match state.ahead with
    | some (text, ended) =>
      set { state with ahead := none, ended, line := state.line + 1, replaced := false }
      return some text
    | none =>
      match state.input with
      | some number =>
        Tool.closeInput number
        match state.rule.inPlace with
        | some suffix => replaceFile suffix
        | none => pure ()
        modify fun state => { state with input := none }
      | none => pure ()
      if ← openNext (state.files.length + 1) then nextLine? fuel else return none

/-- Reads the next line, after what belongs behind the last one is written. -/
def readLine? : Edits (Option Octets) := do
  putAppended
  nextLine? ((← get).files.length + 2)

/-! ## Which lines an edit is for -/

/-- What is searched for: something, or what was searched for last. -/
def resolve (searched : Searched) : Edits (Expression × Searched) := do
  let state ← get
  let found := if searched.expression.isSome then some searched else state.last
  match found with
  | some found =>
    modify fun state => { state with last := some found }
    return (found.expression.getD .empty, found)
  | none => refuse 1 "-e expression #1, char 0: no previous regular expression"

/-- A text as it is searched. -/
def subjectOf (isLines : Bool) (searched : Searched) (text : Octets) : Expression.Subject :=
  { text := text.toArray, fold := searched.fold, multiline := searched.multiline && isLines }

/-- Whether a mark is for the line. -/
def isMarked (mark : LineMark) : Edits Bool := do
  let state ← get
  match mark with
  | .line n => return state.line == n
  | .stepped start step =>
    return if step == 0 then state.line == start
      else state.line ≥ start && (state.line - start) % step == 0
  | .last => isLast
  | .matching searched =>
    let (e, searched) ← resolve searched
    return e.matchesIn (subjectOf (state.rule.delimiter == '\n') searched state.text)
  | .beyond _ | .multiple _ => return false

def setRange (place : Nat) (range : RangeState) : Edits Unit :=
  modify fun state => { state with ranges := state.ranges.set! place range }

/-- Whether an edit is for the line, if it is not meant for all others. -/
def isSelected (place : Nat) (step : Step) : Edits Bool := do
  match step.first, step.second with
  | none, _ => return true
  | some mark, none => isMarked mark
  | some mark, some second =>
    let here := (← get).line
    match (← get).ranges[place]? with
    | some (.inside (some last)) =>
      if here ≥ last then setRange place .outside
      if here ≤ last then return true else isMarked mark
    | some (.inside none) =>
      if ← isMarked second then setRange place .outside
      return true
    | _ =>
      if ← isMarked mark then
        let upTo (last : Nat) : Edits Unit :=
          if here < last then setRange place (.inside (some last)) else return ()
        match second with
        | .line n => upTo n
        | .beyond n => upTo (here + n)
        | .multiple n => upTo (if n == 0 then here else here + n - here % n)
        | _ => setRange place (.inside none)
        return true
      else return false

/-- Whether the lines between the marks of an edit go on behind this one. -/
def isInside (place : Nat) : Edits Bool := do
  match (← get).ranges[place]? with
  | some (.inside _) => return true
  | _ => return false

/-! ## Edits -/

/-- A text with its letters changed. -/
def recased (whole head : Option Editing.Recase) (text : Octets) : Octets :=
  let change (recase : Option Editing.Recase) (c : Char) : Char := match recase with
    | some .upper => c.toUpper
    | some .lower => c.toLower
    | none => c
  match text with
  | [] => []
  | c :: rest => change (head.orElse fun _ => whole) c :: rest.map (change whole)

/-- What a match is replaced by.  A change of the first letter waits for a part that has one. -/
def inserted (subject : Expression.Subject) (found : Expression.Found) :
    Option Editing.Recase → List Insertion → Octets
  | _, [] => []
  | waiting, one :: rest =>
    let head := one.head.orElse fun _ => waiting
    let start := recased one.whole head one.text
    let headLeft := if one.text.isEmpty then head else none
    let group := (one.group.map (found.group subject)).getD []
    let next := if one.group.isSome && group.isEmpty && one.head.isSome then headLeft else none
    start ++ recased one.whole headLeft group ++ inserted subject found next rest

/-- Replaces matches; nothing if there is none to be replaced. -/
def replaced? (replacement : Replacement) (e : Expression) (subject : Expression.Subject) :
    Option Octets :=
  let matches_ := if replacement.every || replacement.which > 1 then e.all subject
    else (e.search? subject 0).toList
  let chosen := matches_.drop (replacement.which - 1)
  let chosen := if replacement.every then chosen else chosen.take 1
  if chosen.isEmpty then none
  else
    let (parts, place) := chosen.foldl
      (fun (state : List Octets × Nat) found =>
        (inserted subject found none replacement.insertions ::
          subject.part state.2 found.start :: state.1, found.stop))
      ([], 0)
    some ((subject.part place subject.size :: parts).reverse.flatten)

/-- An octet in a line that shows everything. -/
def shownOctet (c : Char) : Octets :=
  match c with
  | '\\' => ['\\', '\\']
  | '\x07' => ['\\', 'a']
  | '\x08' => ['\\', 'b']
  | '\x0c' => ['\\', 'f']
  | '\n' => ['\\', 'n']
  | '\r' => ['\\', 'r']
  | '\t' => ['\\', 't']
  | '\x0b' => ['\\', 'v']
  | c =>
    if OctetSet.isPrintable c || c == ' ' then [c]
    else '\\' :: Octets.padStart 3 (Nat.toDigits 8 c.toNat) '0'

/-- A text that shows everything, in lines of some width unless that is zero. -/
def shownText (width : Nat) (text : Octets) : Octets :=
  let (found, _) := text.foldl
    (fun (state : List Octets × Nat) c =>
      let shown := shownOctet c
      if width > 0 && state.2 + shown.length > width - 1 then
        (shown :: ['\\', '\n'] :: state.1, shown.length)
      else (shown :: state.1, state.2 + shown.length))
    ([], 0)
  found.reverse.flatten ++ ['$', '\n']

/-- The next line of a file that is read line by line. -/
def sourceLine? (path : Octets) : Edits (Option Octets) := do
  let state ← get
  let lines ← match state.sources.lookup path with
    | some lines => pure lines
    | none =>
      match ← Tool.contents path with
      | .ok text => pure (partsOf '\n' text)
      | .error _ => pure []
  let rest := state.sources.filter fun source => source.1 != path
  set { state with sources := (path, lines.drop 1) :: rest }
  return lines.head?

/-- What an edit leads to: the steps go on, at a place, or end. -/
inductive Course where
  | on
  | at (place : Nat)
  | ended (ending : CycleEnd)

/-- Carries out an edit. -/
def carryOut (script : Script) (place : Nat) (step : Step) : Edits Course := do
  let state ← get
  let delimiter := state.rule.delimiter
  let silent := state.rule.silent || script.silent
  let become (text : Octets) : Edits Course := do
    modify fun state => { state with text }
    return .on
  let firstLine := state.text.takeWhile (· != delimiter)
  match step.edit with
  | .enter _ | .nothing => return .on
  | .append text =>
    set { state with queue := .text text :: state.queue }
    return .on
  | .insert text =>
    putText text
    return .on
  | .change text =>
    if ← (pure step.negated <||> notM (isInside place)) then putText text
    return .ended .quiet
  | .jump ifReplaced target =>
    match ifReplaced with
    | none => return .at target
    | some wanted =>
      set { state with replaced := false }
      return if state.replaced == wanted then .at target else .on
  | .delete => return .ended .quiet
  | .deleteFirst =>
    if firstLine.length == state.text.length then return .ended .quiet
    else
      set { state with text := state.text.drop (firstLine.length + 1) }
      return .ended .again
  | .print =>
    putLine state.text
    return .on
  | .printFirst =>
    putText (firstLine ++ [delimiter])
    return .on
  | .next =>
    if ← isLast then return .ended .usual
    else
      if !silent then putLine state.text
      match ← readLine? with
      | some text => become text
      | none => return .ended .quiet
  | .nextToo =>
    if ← isLast then return .ended .usual
    else
      match ← readLine? with
      | some text => become (state.text ++ delimiter :: text)
      | none => return .ended .usual
  | .number =>
    putText (Octets.ofNat state.line ++ ['\n'])
    return .on
  | .fileName =>
    putText (state.name ++ ['\n'])
    return .on
  | .keep =>
    set { state with kept := state.text, keptEnded := state.ended }
    return .on
  | .keepToo =>
    set { state with
      kept := state.kept ++ delimiter :: state.text, keptEnded := state.ended || state.keptEnded }
    return .on
  | .recall =>
    set { state with text := state.kept, ended := state.keptEnded }
    return .on
  | .recallToo =>
    set { state with
      text := state.text ++ delimiter :: state.kept, ended := state.ended || state.keptEnded }
    return .on
  | .exchange =>
    set { state with
      text := state.kept, ended := state.keptEnded, kept := state.text, keptEnded := state.ended }
    return .on
  | .clear => become []
  | .quit status prints => return .ended (.quit status prints)
  | .list width =>
    putText (shownText (width.getD state.rule.width) state.text)
    return .on
  | .readFile path =>
    set { state with queue := .file path :: state.queue }
    return .on
  | .readLine path =>
    match ← sourceLine? path with
    | some line => modify fun state => { state with queue := .text line :: state.queue }
    | none => pure ()
    return .on
  | .write path onlyFirst =>
    putTo path (if onlyFirst then firstLine else state.text)
    return .on
  | .substitute replacement =>
    let (e, searched) ← resolve replacement.searched
    match replaced? replacement e (subjectOf (delimiter == '\n') searched state.text) with
    | none => return .on
    | some text =>
      modify fun state => { state with text, replaced := true }
      if replacement.prints then putLine text
      match replacement.target with
      | some path => putTo path text
      | none => pure ()
      return .on
  | .translate pairs =>
    become (state.text.map fun c => (pairs.lookup c).getD c)

/-- Carries out the steps of a script from a place on. -/
def carryOutFrom (script : Script) (fuel place : Nat) : Edits CycleEnd := do
  match fuel with
  | 0 => return .usual
  | fuel + 1 =>
    match script.steps[place]? with
    | none => return .usual
    | some step =>
      let selected := (← isSelected place step) != step.negated
      match step.edit, selected with
      | .enter behind, false => carryOutFrom script fuel (behind + 1)
      | _, false => carryOutFrom script fuel (place + 1)
      | _, true =>
        match ← carryOut script place step with
        | .on => carryOutFrom script fuel (place + 1)
        | .at target =>
          if target ≤ place then Tool.breatheAtTimes
          carryOutFrom script fuel target
        | .ended ending => return ending

/-- Leaves what was read and not used to the one who reads next. -/
def leaveInput : Edits Unit := do
  let state ← get
  match state.input, state.ahead with
  | some number, some (text, ended) =>
    let unread ← Tool.unread number
    Tool.setUnread number
      { unread with
        octets := text ++ (if ended then [state.rule.delimiter] else []) ++ unread.octets }
  | _, _ => pure ()
  if state.input == some 0 then Tool.giveBack 0

/-- Edits the lines that are left. -/
def editAll (script : Script) (fuel : Nat) (reads : Bool) : Edits Unit := do
  match fuel with
  | 0 => return ()
  | fuel + 1 =>
    let here ← (if reads then readLine? else do
      putAppended
      return some (← get).text : Edits (Option Octets))
    match here with
    | none => return ()
    | some text =>
      modify fun state => { state with text }
      let silent := (← get).rule.silent || script.silent
      match ← carryOutFrom script Tool.maxSteps 0 with
      | .usual =>
        if !silent then putLine (← get).text
        editAll script fuel true
      | .quiet => editAll script fuel true
      | .again => editAll script fuel false
      | .quit status prints =>
        if prints then
          if !silent then putLine (← get).text
          putAppended
        match (← get).rule.inPlace, (← get).input with
        | some suffix, some _ => replaceFile suffix
        | _, _ => leaveInput
        Tool.setStatus status

end Edits

/-- Opens the files that a script writes. -/
def openTargets (paths : List Octets) : Tool (List EditTarget) := do
  let mut found : List EditTarget := []
  for path in paths do
    if path != "/dev/stdout".toList && !found.any (·.path == path) then
      match ← Tool.act (Action.openFile path .output) with
      | .error cause =>
        Tool.reportAhead s!"sed: couldn't open file {path.toText}: {cause.wording}"
        Tool.exit 4
      | .ok opening =>
        let number ← Tool.look Action.freeNumber
        Tool.change (·.setDescriptor number opening)
        found := { path, number } :: found
  return found

/-- Edits lines. -/
def sed (arguments : List Octets) : Tool Unit := do
  let usage := "Usage: sed [OPTION]... \x7bscript-only-if-no-other-script\x7d [input-file]..."
  let showUsage {α : Type} : Tool α := do
    Tool.reportAhead usage
    Tool.exit 1
  let found ← match Options.read
      ["n quiet silent", "e expression=", "f file=", "E r regexp-extended", "i in-place~",
        "l line-length=", "s separate", "u unbuffered", "z null-data", "b binary", "posix", "debug",
        "sandbox", "follow-symlinks", "help", "version"] false arguments with
    | .ok (given, operands) => pure ({ given, operands } : Options.Found)
    | .error refusal =>
      Tool.complain refusal.message
      showUsage
  let mut pieces : List Editing.Piece := []
  for (key, value) in found.given do
    if key == "e" then pieces := pieces ++ [{ file := none, text := value }]
    else if key == "f" then
      match ← Tool.contents value with
      | .ok text => pieces := pieces ++ [{ file := some value, text }]
      | .error cause =>
        Tool.reportAhead s!"sed: couldn't open file {Octets.toText value}: {cause.wording}"
        Tool.exit 4
  let operands ← match pieces, found.operands with
    | [], [] => showUsage
    | [], text :: operands =>
      pieces := [{ file := none, text }]
      pure operands
    | _, operands => pure operands
  let script ← match Script.ofPieces { extended := found.has "E" } pieces with
    | .ok script => pure script
    | .error refusal =>
      Tool.reportAhead s!"sed: {refusal.message}"
      Tool.exit refusal.status
  let inPlace := found.value? "i"
  if inPlace.isSome && operands.isEmpty then
    Tool.reportAhead "sed: no input files"
    Tool.exit 4
  let targets ← openTargets script.targets
  let rule : EditRule := {
    silent := found.has "n", separate := found.has "s" || inPlace.isSome, inPlace
    delimiter := if found.has "z" then '\x00' else '\n'
    width := ((found.value? "l").bind Octets.natural?).getD 70 }
  let ranges := script.steps.map fun step => match step.first with
    | some (.line 0) => if step.second.isSome then RangeState.inside none else .outside
    | _ => RangeState.outside
  let state : EditState := {
    rule, ranges, targets, files := if operands.isEmpty then [['-']] else operands }
  let _ ← (do
    for step in script.steps do
      match step.first, step.second, step.edit with
      | some (.line 0), none, .readFile path =>
        modify fun state => { state with queue := .file path :: state.queue }
      | _, _, _ => pure ()
    Edits.editAll script Tool.maxSteps true : Edits Unit).run state

end TaskRunner.Shell.Utility
