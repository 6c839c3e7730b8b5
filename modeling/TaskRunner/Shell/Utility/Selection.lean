import TaskRunner.Shell.Expression.Ordered
import TaskRunner.Shell.Pattern
import TaskRunner.Shell.Utility.Files
/- # TaskRunner.Shell.Utility.Selection -- the program that selects lines

Lines are selected in which an expression matches, or those in which none does.  They are shown,
counted, or only looked for; with them can be shown what stands around them. -/

namespace TaskRunner.Shell.Utility
set_option autoImplicit false

/-- How the expressions of a selection are written. -/
inductive SelectionManner where
  | basic | extended | literal | ordered
  deriving DecidableEq, Repr

/-- What is to be done with each file of a selection. -/
inductive SelectionReport where
  | lines
  /-- Only what matches in the lines. -/
  | parts
  | count
  /-- The names of the files where something is selected, or of the others. -/
  | names (selected : Bool)
  | nothing
  deriving DecidableEq, Repr

/-- What is selected, and how it is shown. -/
structure Selection where
  expression : Expression
  /-- Whether case does not matter. -/
  fold : Bool := false
  /-- Whether the lines count in which nothing matches. -/
  negated : Bool := false
  /-- How many lines are selected in a file, at most. -/
  most : Option Nat := none
  report : SelectionReport := .lines
  numbers : Bool := false
  offsets : Bool := false
  named : Bool := false
  /-- Whether lines that are shown together are set apart from others. -/
  apart : Option Octets := none
  before : Nat := 0
  after : Nat := 0
  delimiter : Char := '\n'
  /-- What stands behind the name of a file, if no colon does. -/
  nameEnd : Option Char := none
  /-- Whether files are taken for text, whatever they hold. -/
  isText : Bool := false
  /-- Whether nothing is said of files that cannot be read. -/
  quiet : Bool := false

/-- A line with its number and the place where it begins. -/
structure SelectedLine where
  number : Nat
  offset : Nat
  text : Octets

/-- How far the selection in a file has come. -/
structure SelectionState where
  number : Nat := 0
  offset : Nat := 0
  count : Nat := 0
  /-- Lines that are shown if one behind them is selected, the last one first. -/
  waiting : List SelectedLine := []
  /-- How many lines are still shown behind one that is selected. -/
  left : Nat := 0
  /-- The number of the line that was shown last; zero if there is none. -/
  shown : Nat := 0
  /-- Whether lines were shown before, in any file. -/
  used : Bool := false
  /-- Whether the file holds octets that no text has. -/
  isBinary : Bool := false
  /-- Whether a line was selected that is no text. -/
  foundBinary : Bool := false

namespace Selection

def subject (selection : Selection) (line : Octets) : Expression.Subject :=
  { text := line.toArray, fold := selection.fold }

/-- Whether a line is selected. -/
def selects (selection : Selection) (line : Octets) : Bool :=
  selection.expression.matchesIn (selection.subject line) != selection.negated

/-- Whether lines are shown. -/
def shows (selection : Selection) : Bool :=
  selection.report == .lines || selection.report == .parts

/-- What stands in front of a line or a part of one. -/
def leading (selection : Selection) (name : Octets) (sign : Char) (number offset : Nat) : Octets :=
  (if selection.named then name ++ [selection.nameEnd.getD sign] else []) ++
    (if selection.numbers then Octets.ofNat number ++ [sign] else []) ++
    (if selection.offsets then Octets.ofNat offset ++ [sign] else [])

/-- Writes a line: one that is selected, or one beside it. -/
def showLine (selection : Selection) (name : Octets) (isSelected : Bool) (line : SelectedLine) :
    Tool Unit := do
  let sign := if isSelected then ':' else '-'
  if selection.report == .parts then
    if isSelected && !selection.negated then
      let subject := selection.subject line.text
      for found in selection.expression.all subject do
        if found.start < found.stop then
          Tool.put (selection.leading name sign line.number (line.offset + found.start) ++
            subject.part found.start found.stop ++ [selection.delimiter])
  else
    Tool.put (selection.leading name sign line.number line.offset ++ line.text ++
      [selection.delimiter])

/-- Writes what sets lines apart, if the next one does not follow the last. -/
def setApart (selection : Selection) (state : SelectionState) (next : Nat) : Tool Unit := do
  match selection.apart with
  | some mark =>
    if state.used && (state.shown == 0 || next != state.shown + 1) then Tool.putLine mark
  | none => pure ()

/-- Looks at the next line; tells whether to go on. -/
def look (selection : Selection) (name : Octets) (state : SelectionState) (text : Octets) :
    Tool (SelectionState × Bool) := do
  let line : SelectedLine := { number := state.number + 1, offset := state.offset, text }
  let state := { state with number := line.number, offset := state.offset + text.length + 1 }
  let isOver := selection.most.any (state.count ≥ ·)
  if selection.selects text then
    if isOver then return (state, false)
    else
      let state := { state with count := state.count + 1 }
      let isLast := selection.most.any (state.count ≥ ·)
      match selection.report with
      | .count => return (state, !isLast)
      | .names _ | .nothing => return (state, false)
      | .lines | .parts =>
        if !selection.isText && (state.isBinary || text.contains '\x00') then
          return ({ state with foundBinary := true }, false)
        else
          let waiting := state.waiting.reverse
          selection.setApart state ((waiting.head?.map (·.number)).getD line.number)
          for early in waiting do
            selection.showLine name false early
          selection.showLine name true line
          return ({ state with
            waiting := [], left := selection.after, shown := line.number, used := true },
            !isLast || selection.after > 0)
  else if state.left > 0 && selection.shows then
    selection.showLine name false line
    let left := state.left - 1
    return ({ state with left, shown := line.number }, !isOver || left > 0)
  else return ({ state with waiting := (line :: state.waiting).take selection.before }, !isOver)

/-- Looks at the lines that something consists of; tells whether to go on. -/
def lookEach (selection : Selection) (name : Octets) (state : SelectionState) :
    List Octets → Tool (SelectionState × Bool)
  | [] => return (state, true)
  | part :: parts => do
    let (state, goesOn) ← selection.look name state part
    if goesOn then selection.lookEach name state parts else return (state, false)

/-- Whether something that is read is the file that the output goes to. -/
def isOutput (number : Nat) (machine : Machine) : Bool :=
  match machine.opening? number, machine.opening? 1 with
  | some (_, { channel := .node source, .. }), some (_, { channel := .node target, .. }) =>
    source == target && ((machine.files.nodes[source]?).map Node.isFile).getD false
  | _, _ => false

/-- Complains about a file. -/
def refuse (selection : Selection) (name : Octets) (cause : FileError) : Tool Unit :=
  if selection.quiet then Tool.setStatus 2 else Tool.blame 2 s!"{name.toText}: {cause.wording}"

/-- Reads a file; gives whether anything is selected in it, and whether lines were shown so far. -/
def readFile (selection : Selection) (path name : Octets) (used : Bool) : Tool (Bool × Bool) := do
  match ← Tool.openInput path with
  | .error cause =>
    selection.refuse name cause
    return (false, used)
  | .ok number =>
    let isSelf ← Tool.look (isOutput number)
    if isSelf && selection.shows && selection.most != some 1 then
      Tool.blame 2 s!"{name.toText}: input file is also the output"
      Tool.closeInput number
      return (false, used)
    else
      match ← Tool.block number with
      | .error cause =>
        selection.refuse name cause
        Tool.closeInput number
        return (false, used)
      | .ok octets =>
        if !octets.isEmpty then Tool.setUnread number { octets }
        let isBinary := selection.delimiter == '\n' && octets.contains '\x00'
        let result ← Tool.foldLines number selection.delimiter
          (fun state line _ => do
            let parts := if isBinary && !selection.isText then Octets.splitAt '\x00' line
              else [line]
            selection.lookEach name state parts)
          Tool.maxSteps
          { used, isBinary : SelectionState }
        let state ← match result with
          | .ok (state, atEnd) =>
            if !atEnd && selection.most.isSome && number == 0 then Tool.giveBack number
            pure state
          | .error cause =>
            selection.refuse name cause
            pure { used : SelectionState }
        Tool.closeInput number
        if state.foundBinary then
          Tool.complain s!"{name.toText}: binary file matches"
        match selection.report with
        | .count =>
          Tool.put (selection.leading name ':' 0 0 ++ Octets.ofNat state.count ++ ['\n'])
        | .names selected =>
          if selected == (state.count > 0) then Tool.put (name ++ [selection.nameEnd.getD '\n'])
        | _ => pure ()
        return (state.count > 0, state.used)

end Selection

/-- Which files of directories are read. -/
structure SelectedFiles where
  recursive : Bool := false
  /-- Whether links in directories are followed. -/
  follow : Bool := false
  /-- Whether directories are passed over. -/
  skips : Bool := false
  included : List (List Atom) := []
  excluded : List (List Atom) := []
  excludedDirectories : List (List Atom) := []
  /-- What the input is called. -/
  inputName : Octets := "(standard input)".toList

namespace SelectedFiles

/-- Whether a name is left out. -/
def leavesOut (files : SelectedFiles) (isDirectory : Bool) (name : Octets) : Bool :=
  if isDirectory then files.excludedDirectories.any (Pattern.covers · name)
  else
    files.excluded.any (Pattern.covers · name) ||
      (!files.included.isEmpty && !files.included.any (Pattern.covers · name))

end SelectedFiles

/-- Reads a file, or the files of a directory; gives what `Selection.readFile` gives. -/
def selectIn (selection : Selection) (files : SelectedFiles) (fuel : Nat) (isTop named : Bool)
    (used : Bool) (path : Octets) : Tool (Bool × Bool) :=
  match fuel with
  | 0 => return (false, used)
  | fuel + 1 => do
    let node ← nodeAt path (isTop || files.follow)
    let (isDirectory, isLink) := match node with
      | .ok (_, node) => (node.isDirectory, node.isLink)
      | .error _ => (false, false)
    let selection := if named then { selection with named := true } else selection
    if path == ['-'] then selection.readFile path files.inputName used
    else if files.leavesOut isDirectory (lastName path) && !(isTop && isDirectory && path == ['.'])
    then return (false, used)
    else if isDirectory && files.recursive then
      match node with
      | .error _ => return (false, used)
      | .ok (place, _) =>
        let names ← Tool.look fun machine => machine.files.names place
        let mut any := false
        let mut used := used
        for name in names do
          let inner := inside path (Octets.ofText name)
          let (isSelected, after) ← selectIn selection files fuel false named used inner
          any := any || isSelected
          used := after
          if isSelected && selection.report == .nothing then break
        return (any, used)
    else if (isDirectory && files.skips) || (isLink && !isTop) then return (false, used)
    else selection.readFile path path used

/-- The expression for the patterns of a selection; one line is one of them. -/
def selectionExpression (manner : SelectionManner) (wholeWords wholeLines : Bool)
    (patterns : List Octets) : Except String (Expression × Bool) := do
  let mut found : List Expression := []
  let mut fold := false
  for pattern in patterns do
    match manner with
    | .literal => found := found ++ [Expression.literal pattern]
    | .ordered =>
      match Expression.Ordered.ofText pattern with
      | .ok (e, folds) =>
        found := found ++ [e]
        fold := fold || folds
      | .error fault => throw fault.message
    | .basic | .extended =>
      let isClass := "[:".toList.isPrefixOf pattern && ":]".toList.isSuffixOf pattern
      if isClass then throw "character class syntax is [[:space:]], not [:space:]"
      let rules : Expression.Manner := if manner == .basic then .basic else .lenient
      match Expression.ofText rules pattern with
      | .ok e => found := found ++ [e]
      | .error fault => throw fault.message
  let choice := match found.reverse with
    | [] => Expression.set { items := [] }
    | last :: others => others.foldl (fun e one => .either one e) last
  let tied (first last : Anchor) (e : Expression) : Expression :=
    let inner : Expression := .sequence (.anchor first) (.sequence e (.anchor last))
    if e.takesFirst then .foremost inner else inner
  let whole := if wholeLines then tied .textStart .textEnd choice
    else if wholeWords then tied .behindOther .beforeOther choice
    else choice
  return (whole, fold)

/-- The options of the program that selects lines. -/
def selectionOptions : List String :=
  ["A after-context=", "B before-context=", "C context=", "D devices=", "d directories=",
    "E extended-regexp", "F fixed-strings fixed-regexp", "G basic-regexp", "P perl-regexp",
    "H with-filename", "h no-filename", "I", "L files-without-match", "l files-with-matches",
    "R dereference-recursive", "r recursive", "T initial-tab", "U binary", "V version", "Z null",
    "a text", "b byte-offset", "c count", "e regexp=", "f file=", "i y ignore-case",
    "no-ignore-case", "m max-count=", "n line-number", "o only-matching", "q quiet silent",
    "s no-messages", "u unix-byte-offsets", "v invert-match", "w word-regexp", "x line-regexp",
    "z null-data", "binary-files=", "color colour?", "exclude=", "exclude-from=", "exclude-dir=",
    "include=", "group-separator=", "no-group-separator", "label=", "line-buffered", "help",
    "0", "1", "2", "3", "4", "5", "6", "7", "8", "9"]

/-- The patterns of a selection and the operands that are left. -/
def selectionPatterns (found : Options.Found) : Tool (List Octets × List Octets) := do
  let usage := "Usage: grep [OPTION]... PATTERNS [FILE]..."
  if !found.has "e" && !found.has "f" then
    match found.operands with
    | text :: operands => return (Octets.splitAt '\n' text, operands)
    | [] =>
      Tool.report usage
      Tool.giveHelp 2
  else
    let mut patterns : List Octets := []
    for (key, value) in found.given do
      if key == "e" then patterns := patterns ++ Octets.splitAt '\n' value
      else if key == "f" then
        match ← Tool.contents value with
        | .error cause => Tool.fail 2 s!"{value.toText}: {cause.wording}"
        | .ok text => patterns := patterns ++ Octets.lines text
    return (patterns, found.operands)

/-- Selects lines. -/
def grep (arguments : List Octets) : Tool Unit := do
  let usage := "Usage: grep [OPTION]... PATTERNS [FILE]..."
  let found ← Options.ofWords selectionOptions arguments 2 false (some usage)
  let manners : List (String × SelectionManner) :=
    [("E", .extended), ("F", .literal), ("G", .basic), ("P", .ordered)]
  let given := manners.filter fun (key, _) => found.has key
  if given.length > 1 then Tool.fail 2 "conflicting matchers specified"
  let manner := ((given.head?).map Prod.snd).getD .basic
  let context (key : String) : Tool (Option Nat) := do
    match found.value? key with
    | none => return none
    | some text =>
      match Octets.natural? text with
      | some n => return some n
      | none => Tool.fail 2 s!"{text.toText}: invalid context length argument"
  let digits := (found.given.filter fun (key, _) => key.all Char.isDigit).map fun (key, _) => key
  let around ← match ← context "C" with
    | some n => pure (some n)
    | none => pure (if digits.isEmpty then none else (String.join digits).toNat?)
  let before := (← context "B").orElse fun _ => around
  let after := (← context "A").orElse fun _ => around
  let most ← match found.value? "m" with
    | none => pure none
    | some text =>
      match Octets.integer? text with
      | some n => pure (if n < 0 then none else some n.toNat)
      | none => Tool.fail 2 "invalid max count"
  let (patterns, operands) ← selectionPatterns found
  if manner == .ordered && patterns.length > 1 then
    Tool.fail 2 "the -P option only supports a single pattern"
  let (expression, fold) ← match selectionExpression manner (found.has "w") (found.has "x")
      patterns with
    | .ok result => pure result
    | .error message => Tool.fail 2 message
  let report : SelectionReport :=
    if found.has "q" then .nothing
    else match found.last? ["l", "L"] with
      | some (key, _) => .names (key == "l")
      | none =>
        if found.has "c" then .count else if found.has "o" then .parts else .lines
  let atoms (text : Octets) : List Atom := Pattern.ofMarked false (text.map fun c => (c, false))
  let directories := (found.value? "d").getD []
  let files : SelectedFiles := {
    recursive := found.has "r" || found.has "R" || directories == "recurse".toList
    follow := found.has "R"
    skips := directories == "skip".toList
    included := (found.values "include").map atoms
    excluded := (found.values "exclude").map atoms
    excludedDirectories := (found.values "exclude-dir").map atoms
    inputName := (found.value? "label").getD "(standard input)".toList }
  let separated := before.isSome || after.isSome
  let named? := (found.last? ["H", "h"]).map fun (key, _) => key == "H"
  let selection : Selection := {
    expression, fold := fold || (found.has "i" &&
      ((found.last? ["i", "no-ignore-case"]).any fun (key, _) => key == "i"))
    negated := found.has "v", most, report
    numbers := found.has "n", offsets := found.has "b"
    named := named?.getD (operands.length > 1)
    apart := if !separated || found.has "no-group-separator" then none
      else some ((found.value? "group-separator").getD ['-', '-'])
    before := before.getD 0, after := after.getD 0
    delimiter := if found.has "z" then '\x00' else '\n'
    nameEnd := if found.has "Z" then some '\x00' else none
    isText := found.has "a" || found.value? "binary-files" == some "text".toList
    quiet := found.has "s" }
  if most == some 0 then Tool.exit 1
  let mut any := false
  let mut used := false
  let inPlace := operands.isEmpty && files.recursive
  let names ← if inPlace then do
      let here ← Tool.look fun machine => machine.place
      pure (((← Tool.look fun machine => machine.files.names here).map Octets.ofText))
    else pure (if operands.isEmpty then [['-']] else operands)
  for path in names do
    let isDirectory ← isDirectoryAt path
    let named := named?.isNone && (inPlace || (files.recursive && isDirectory))
    let (isSelected, after) ← selectIn selection files maxDepth (!inPlace) named used path
    any := any || isSelected
    used := after
    if any && report == .nothing then Tool.exit 0
  if (← Tool.progress).status == 0 then Tool.setStatus (if any then 0 else 1)

end TaskRunner.Shell.Utility
