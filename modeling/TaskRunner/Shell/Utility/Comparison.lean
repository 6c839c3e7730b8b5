import TaskRunner.Shell.Utility.Files
import TaskRunner.Shell.Utility.Order
/- # TaskRunner.Shell.Utility.Comparison -- how two files differ

Two files are compared octet by octet up to the first that is not alike, or line by line: the lines of
both are put side by side so that as many as possible are alike, and those that are left over are the
changes that lead from one file to the other. -/

namespace TaskRunner.Shell.Utility
set_option autoImplicit false

/-! ## Octets -/

/-- Compares two files up to the first octet that differs, or lists all that do. -/
def cmp (arguments : List Octets) : Tool Unit := do
  let found ← Options.ofWords
    ["b print-bytes", "i ignore-initial=", "l verbose", "n bytes=", "s quiet silent"] arguments 2
  match found.operands with
  | [] => do
    Tool.complain "missing operand after 'cmp'"
    Tool.fail 2 "Try 'cmp --help' for more information."
  | first :: rest =>
    let second := rest.headD ['-']
    let load (path : Octets) : Tool Octets := do
      match ← Tool.contents path with
      | .ok text =>
        let text := text.drop (((found.value? "i").bind Octets.natural?).getD 0)
        return match (found.value? "n").bind Octets.natural? with
          | some n => text.take n
          | none => text
      | .error cause =>
        if found.has "s" then Tool.exit 2
        else Tool.fail 2 s!"{path.toText}: {cause.wording}"
    let a ← load first
    let b ← load second
    let pairs := a.zip b
    if a == b then return ()
    Tool.setStatus 1
    if found.has "s" then return ()
    let shorter := if a.length < b.length then first else second
    let ending : Tool Unit := do
      if a.length != b.length then
        let count := pairs.length
        if count == 0 then Tool.complain s!"EOF on {shorter.toText} which is empty"
        else if found.has "l" then Tool.complain s!"EOF on {shorter.toText} after byte {count}"
        else
          let text := a.take count
          let breaks := text.countP (· == '\n')
          let place := if text.getLast? == some '\n' then s!"line {breaks}"
            else s!"in line {breaks + 1}"
          Tool.complain s!"EOF on {shorter.toText} after byte {count}, {place}"
    if found.has "l" then
      ending
      let width := (Octets.ofNat (max a.length b.length)).length
      for ((c, d), i) in pairs.zip (List.range pairs.length) do
        if c != d then
          Tool.putLine (Octets.padStart width (Octets.ofNat (i + 1)) ++ ' ' ::
            Octets.padStart 3 (Nat.toDigits 8 c.toNat) ++ ' ' ::
            Octets.padStart 3 (Nat.toDigits 8 d.toNat))
    else
      match pairs.findIdx? fun (c, d) => c != d with
      | none => ending
      | some i =>
        let line := ((a.take i).countP (· == '\n')) + 1
        let names := s!"{first.toText} {second.toText} differ:"
        if found.has "b" then
          let shown (c : Char) : String :=
            Octets.toText (Octets.padStart 3 (Nat.toDigits 8 c.toNat)) ++ " " ++ String.singleton c
          match pairs[i]? with
          | some (c, d) =>
            Tool.putText s!"{names} byte {i + 1}, line {line} is {shown c} {shown d}\n"
          | none => pure ()
        else Tool.putText s!"{names} char {i + 1}, line {line}\n"

/-! ## Lines -/

/-- The lengths of the longest rows of lines that two files have in common, from each place on. -/
def commonLengths (a b : Array Octets) : Array (Array Nat) :=
  let step (below : Array Nat) (x : Octets) : Array Nat :=
    let row := (List.range b.size).reverse.foldl
      (fun (row : Array Nat) j =>
        let right := (row[b.size - 1 - j]?).getD 0
        let value := if b[j]? == some x then (below[j + 1]?).getD 0 + 1
          else max right ((below[j]?).getD 0)
        row.push value)
      #[0]
    row.reverse
  let rows := a.foldr
    (fun x (rows : List (Array Nat)) => step (rows.headD #[]) x :: rows)
    [Array.replicate (b.size + 1) 0]
  rows.toArray

/-- Lines that are replaced by others: the lines of the first file from a place on, and those of the
second. -/
structure Change where
  first : Nat
  firstCount : Nat
  second : Nat
  secondCount : Nat
  deriving Inhabited

/-- The changes that lead from one file to the other. -/
def changesFrom (a b : Array Octets) (lengths : Array (Array Nat)) (fuel i j : Nat)
    (current : Option Change) : List Change :=
  let at_ (i j : Nat) : Nat := ((lengths[i]?).bind (·[j]?)).getD 0
  match fuel with
  | 0 => current.toList
  | fuel + 1 =>
    if i < a.size && j < b.size && a[i]? == b[j]? then
      current.toList ++ changesFrom a b lengths fuel (i + 1) (j + 1) none
    else
      let change := current.getD ⟨i, 0, j, 0⟩
      if i < a.size && (j ≥ b.size || at_ (i + 1) j ≥ at_ i (j + 1)) then
        changesFrom a b lengths fuel (i + 1) j
          (some { change with firstCount := change.firstCount + 1 })
      else if j < b.size then
        changesFrom a b lengths fuel i (j + 1)
          (some { change with secondCount := change.secondCount + 1 })
      else current.toList

/-- Moves a change that only removes or only adds lines as far down as it goes. -/
def Change.lowered (a b : Array Octets) (limit : Nat) (fuel : Nat) (change : Change) : Change :=
  match fuel with
  | 0 => change
  | fuel + 1 =>
    let next := { change with first := change.first + 1, second := change.second + 1 }
    if change.first + change.firstCount ≥ limit then change
    else if change.secondCount == 0 && change.firstCount > 0 &&
        a[change.first]? == a[change.first + change.firstCount]? then
      lowered a b limit fuel next
    else if change.firstCount == 0 && change.secondCount > 0 &&
        b[change.second]? == b[change.second + change.secondCount]? &&
        change.second + change.secondCount < b.size then
      lowered a b limit fuel next
    else change

/-- Moves changes down, each up to the next. -/
def loweredAll (a b : Array Octets) : List Change → List Change
  | [] => []
  | change :: rest =>
    let limit := match rest with
      | next :: _ => next.first
      | [] => a.size
    change.lowered a b limit (a.size + b.size) :: loweredAll a b rest

/-- The changes between two files, where `key` says what counts in a line. -/
def changesBetween (key : Octets → Octets) (first second : List Octets) : List Change :=
  let a := (first.map key).toArray
  let b := (second.map key).toArray
  loweredAll a b (changesFrom a b (commonLengths a b) (a.size + b.size + 1) 0 0 none)

/-! ## Showing changes -/

/-- The lines of a text, and whether the last one ends with a line feed. -/
structure LinedText where
  lines : List Octets
  isWhole : Bool

def LinedText.ofText (text : Octets) : LinedText where
  lines := Octets.lines text
  isWhole := text.isEmpty || text.getLast? == some '\n'

def missingBreak : Octets := "\\ No newline at end of file\n".toList

/-- Lines of a text with something in front of each. -/
def LinedText.marked (text : LinedText) (lead : String) (start count : Nat) : Octets :=
  let part := (text.lines.drop start).take count
  let shown := part.flatMap fun line => lead.toList ++ line ++ ['\n']
  if !text.isWhole && count > 0 && start + count == text.lines.length then shown ++ missingBreak
  else shown

/-- A range of lines as numbers, from one on. -/
def rangeText (start count : Nat) : String :=
  if count == 0 then toString start
  else if count == 1 then toString (start + 1)
  else s!"{start + 1},{start + count}"

/-- A change in the plain form. -/
def Change.plainText (change : Change) (a b : LinedText) : Octets :=
  let letter := if change.firstCount == 0 then "a" else if change.secondCount == 0 then "d" else "c"
  let title := rangeText change.first change.firstCount ++ letter ++
    rangeText change.second change.secondCount ++ "\n"
  let between := if letter == "c" then "---\n".toList else []
  title.toList ++ a.marked "< " change.first change.firstCount ++ between ++
    b.marked "> " change.second change.secondCount

/-- Changes that are shown together because little is between them. -/
def hunks (context : Nat) : List Change → List (List Change)
  | [] => []
  | change :: rest =>
    match hunks context rest with
    | (next :: more) :: others =>
      if next.first ≤ change.first + change.firstCount + 2 * context then
        (change :: next :: more) :: others
      else [change] :: (next :: more) :: others
    | _ => [[change]]

/-- A range of lines in the unified form. -/
def unifiedRange (start count : Nat) : String :=
  if count == 1 then toString (start + 1)
  else s!"{if count == 0 then start else start + 1},{count}"

/-- Where a hunk begins and ends in each file. -/
structure Extents where
  first : Nat
  firstStop : Nat
  second : Nat
  secondStop : Nat

def extentsOf (context : Nat) (a b : LinedText) (hunk : List Change) : Extents :=
  let head := hunk.headD default
  let last := hunk.getLastD default
  let before := min context (min head.first head.second)
  let lastStop := last.first + last.firstCount
  let after := min context (a.lines.length - lastStop)
  { first := head.first - before, firstStop := lastStop + after
    second := head.second - before
    secondStop := min b.lines.length (last.second + last.secondCount + after) }

/-- A hunk in the unified form. -/
def unifiedText (context : Nat) (a b : LinedText) (hunk : List Change) : Octets :=
  let extents := extentsOf context a b hunk
  let title := s!"@@ -{unifiedRange extents.first (extents.firstStop - extents.first)}" ++
    s!" +{unifiedRange extents.second (extents.secondStop - extents.second)} @@\n"
  let step (state : Octets × Nat) (change : Change) : Octets × Nat :=
    (state.1 ++ a.marked " " state.2 (change.first - state.2) ++
      a.marked "-" change.first change.firstCount ++ b.marked "+" change.second change.secondCount,
      change.first + change.firstCount)
  let (body, place) := hunk.foldl step ([], extents.first)
  title.toList ++ body ++ a.marked " " place (extents.firstStop - place)

/-- One side of a hunk in the form with context. -/
def contextSide (text : LinedText) (start stop : Nat) (ranges : List (Nat × Nat × String)) :
    Octets :=
  let step (state : Octets × Nat) (range : Nat × Nat × String) : Octets × Nat :=
    let (first, count, sign) := range
    (state.1 ++ text.marked "  " state.2 (first - state.2) ++ text.marked sign first count,
      first + count)
  let (body, place) := ranges.foldl step ([], start)
  body ++ text.marked "  " place (stop - place)

/-- A hunk in the form with context. -/
def contextText (context : Nat) (a b : LinedText) (hunk : List Change) : Octets :=
  let extents := extentsOf context a b hunk
  let range (start stop : Nat) : String :=
    if stop ≤ start then toString start
    else if stop == start + 1 then toString stop else s!"{start + 1},{stop}"
  let signFor (change : Change) (sign : String) : String :=
    if change.firstCount > 0 && change.secondCount > 0 then "! " else sign
  let firsts := hunk.map fun change => (change.first, change.firstCount, signFor change "- ")
  let seconds := hunk.map fun change => (change.second, change.secondCount, signFor change "+ ")
  let removes := hunk.any (·.firstCount > 0)
  let adds := hunk.any (·.secondCount > 0)
  "***************\n".toList ++
    (s!"*** {range extents.first extents.firstStop} ****\n").toList ++
    (if removes then contextSide a extents.first extents.firstStop firsts else []) ++
    (s!"--- {range extents.second extents.secondStop} ----\n").toList ++
    (if adds then contextSide b extents.second extents.secondStop seconds else [])

/-- What a line counts as. -/
def lineKey (found : Options.Found) (line : Octets) : Octets :=
  let line := if found.has "i" then line.map Char.toLower else line
  if found.has "w" then line.filter fun c => !Octets.isSpace c
  else if found.has "b" then Octets.join [' '] (Octets.words line) ++
    (if line.head?.any Octets.isSpace then ['^'] else [])
  else line

/-- The title of a file with its time. -/
def titleText (sign : String) (path : Octets) (form : String) : Tool Octets := do
  let time ← match ← nodeAt path with
    | .ok (_, node) => pure node.modified
    | .error _ => Tool.look (·.files.clock)
  let shown := Moment.inFormat time form.toList
  return sign.toList ++ ' ' :: path ++ '\t' :: shown ++ ['\n']

/-- Compares two texts and shows how they differ. -/
def compareTextsOf (found : Options.Found) (options : Octets) (titled : Bool) (first second : Octets)
    (x y : Octets) : Tool Unit := do
  let a := LinedText.ofText x
  let b := LinedText.ofText y
  let mark (text : LinedText) (lines : List Octets) : List Octets :=
    if text.isWhole then lines else lines.dropLast ++ [lines.getLastD [] ++ ['\n']]
  let changes := changesBetween id (mark a (a.lines.map (lineKey found)))
    (mark b (b.lines.map (lineKey found)))
  let isBlankLine (line : Octets) : Bool := line.isEmpty
  let changes := if found.has "B" then changes.filter fun change =>
      !(((a.lines.drop change.first).take change.firstCount ++
        (b.lines.drop change.second).take change.secondCount).all isBlankLine)
    else changes
  if changes.isEmpty then
    if found.has "s" then
      Tool.putText s!"Files {first.toText} and {second.toText} are identical\n"
    return ()
  Tool.setStatus 1
  if found.has "q" then
    Tool.putText s!"Files {first.toText} and {second.toText} differ\n"
  else
    if titled then Tool.put ("diff".toList ++ options ++ ' ' :: first ++ ' ' :: second ++ ['\n'])
    let number (key : String) : Nat := ((found.value? key).bind Octets.natural?).getD 3
    match found.last? ["u", "U", "c", "C"] with
    | some (key, _) =>
      let context := number (key.map Char.toUpper)
      let label (i : Nat) : Option Octets := (found.values "label")[i]?
      let titleOf (sign : String) (path : Octets) (form : String) (i : Nat) : Tool Octets := do
        match label i with
        | some text => return sign.toList ++ ' ' :: text ++ ['\n']
        | none => titleText sign path form
      if key == "u" || key == "U" then
        let form := "%Y-%m-%d %H:%M:%S.%N %z"
        Tool.put (← titleOf "---" first form 0)
        Tool.put (← titleOf "+++" second form 1)
        for hunk in hunks context changes do Tool.put (unifiedText context a b hunk)
      else
        let form := "%a %b %e %H:%M:%S %Y"
        Tool.put (← titleOf "***" first form 0)
        Tool.put (← titleOf "---" second form 1)
        for hunk in hunks context changes do Tool.put (contextText context a b hunk)
    | none => for change in changes do Tool.put (change.plainText a b)

/-- Complains about a file, as a trouble that counts more than a difference. -/
def trouble (path : Octets) (cause : FileError) : Tool Unit :=
  Tool.blame 2 s!"{path.toText}: {cause.wording}"

/-- Compares what is at two paths. -/
def comparePaths (found : Options.Found) (options : Octets) (titled : Bool) (fuel : Nat)
    (first second : Octets) : Tool Unit :=
  match fuel with
  | 0 => return ()
  | fuel + 1 => do
    let here (path : Octets) : Tool (Except FileError (Option Location)) := do
      if path == ['-'] then return .ok none
      else
        match ← nodeAt path with
        | .ok (place, node) => return .ok (if node.isDirectory then some place else none)
        | .error cause => return .error cause
    match ← here first, ← here second with
    | .ok (some a), .ok (some b) =>
      let namesA ← Tool.look fun machine => machine.files.names a
      let namesB ← Tool.look fun machine => machine.files.names b
      for name in (namesA ++ namesB.filter fun name => !namesA.contains name).mergeSort do
        let path := Octets.ofText name
        let x := inside first path
        let y := inside second path
        if namesA.contains name && namesB.contains name then
          let bothDirectories := (← isDirectoryAt x) && (← isDirectoryAt y)
          if bothDirectories && !found.has "r" then
            Tool.putText s!"Common subdirectories: {x.toText} and {y.toText}\n"
          else comparePaths found options true fuel x y
        else if found.has "N" && !((← isDirectoryAt x) || (← isDirectoryAt y)) then
          let load (path : Octets) : Tool Octets := do
            return (← Tool.contents path).toOption.getD []
          compareTextsOf found options true x y (← load x) (← load y)
        else
          let place := if namesA.contains name then first else second
          Tool.putText s!"Only in {place.toText}: {name}\n"
          let status := (← Tool.progress).status
          Tool.setStatus (max status 1)
    | .ok none, .ok (some _) =>
      comparePaths found options titled fuel first (inside second (lastName first))
    | .ok (some _), .ok none =>
      comparePaths found options titled fuel (inside first (lastName second)) second
    | a, b =>
      let load (path : Octets) (known : Except FileError (Option Location)) : Tool (Option Octets) := do
        match known with
        | .error cause =>
          if found.has "N" && cause == .notFound then return some []
          else
            trouble path cause
            return none
        | .ok _ =>
          match ← Tool.contents path with
          | .ok text => return some text
          | .error cause =>
            trouble path cause
            return none
      let x ← load first a
      let y ← load second b
      match x, y with
      | some x, some y =>
        let before := (← Tool.progress).status
        compareTextsOf found options titled first second x y
        let after := (← Tool.progress).status
        Tool.setStatus (max before after)
      | _, _ => return ()

/-- Shows how files or directories differ. -/
def diff (arguments : List Octets) : Tool Unit := do
  let found ← match Options.read
    ["a text", "b ignore-space-change", "B ignore-blank-lines", "c", "C context=", "d minimal",
      "E ignore-tab-expansion", "i ignore-case", "N new-file", "q brief", "r recursive",
      "s report-identical-files", "t expand-tabs", "T initial-tab", "u", "U unified=", "w ignore-all-space",
      "Z ignore-trailing-space", "label L=", "x exclude=", "color?", "strip-trailing-cr", "normal"]
    false arguments with
    | .ok (given, operands) => pure ({ given, operands } : Options.Found)
    | .error refusal =>
      Tool.complain refusal.message
      Tool.fail 2 "Try 'diff --help' for more information."
  let options := (arguments.filter fun word => word.head? == some '-' && word.length > 1).flatMap
    fun word => ' ' :: word
  match found.operands with
  | [first, second] => comparePaths found options false maxDepth first second
  | [] =>
    Tool.complain "missing operand after 'diff'"
    Tool.fail 2 "Try 'diff --help' for more information."
  | [only] =>
    Tool.complain s!"missing operand after {Tool.quoted only}"
    Tool.fail 2 "Try 'diff --help' for more information."
  | _ :: _ :: extra :: _ =>
    Tool.complain s!"extra operand {Tool.quoted extra}"
    Tool.fail 2 "Try 'diff --help' for more information."

end TaskRunner.Shell.Utility
