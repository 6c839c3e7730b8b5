import TaskRunner.Shell.Utility.Order
/- # TaskRunner.Shell.Utility.Columns -- parts of lines, and lines side by side

A list of numbers and ranges says which octets or fields of a line are meant.  Other programs here put
the lines of several files side by side, or break lines that are too long. -/

namespace TaskRunner.Shell.Utility
set_option autoImplicit false

/-! ## Parts of lines -/

/-- Numbers from one to another, or all from one on. -/
abbrev Span := Nat × Option Nat

def isWithin (spans : List Span) (n : Nat) : Bool :=
  spans.any fun (first, last) => first ≤ n && last.all (n ≤ ·)

/-- Reads one number or range. -/
def readSpan (isField : Bool) (text : Octets) : Tool Span := do
  let fromOne := if isField then "fields are numbered from 1"
    else "byte/character positions are numbered from 1"
  let number (part : Octets) : Tool Nat := do
    match Octets.natural? part with
    | some 0 => Tool.misuse 1 fromOne
    | some n => return n
    | none =>
      let what := if isField then "field value" else "byte/character position"
      let shown := part.dropWhile Char.isDigit
      Tool.misuse 1 s!"invalid {what} {Tool.quoted (if shown.isEmpty then part else shown)}"
  match Octets.cut? '-' text with
  | none => do
    if text.isEmpty then Tool.misuse 1 fromOne
    let n ← number text
    return (n, some n)
  | some ([], []) => Tool.misuse 1 "invalid range with no endpoint: -"
  | some (first, last) => do
    let start ← if first.isEmpty then pure 1 else number first
    let stop ← if last.isEmpty then pure none else do pure (some (← number last))
    if stop.any (· < start) then Tool.misuse 1 "invalid decreasing range"
    return (start, stop)

/-- The octets of a line that are meant, with a text between those that do not belong together. -/
def chosenOctets (spans : List Span) (complements : Bool) (between : Octets) (line : Octets) :
    Octets :=
  let marked := (line.zip (List.range line.length)).map fun (c, i) =>
    (c, i + 1, isWithin spans (i + 1) != complements)
  if between.isEmpty then (marked.filter (·.2.2)).map (·.1)
  else
    -- A new range begins where one of the spans does.
    let starts (n : Nat) : Bool := spans.any (·.1 == n)
    let step (state : List Octets × Bool) (entry : Char × Nat × Bool) : List Octets × Bool :=
      let (c, n, isChosen) := entry
      if !isChosen then (state.1, false)
      else
        match state with
        | (part :: found, true) =>
          if starts n && !complements then ([c] :: part :: found, true) else ((c :: part) :: found, true)
        | (found, _) => ([c] :: found, true)
    let (found, _) := marked.foldl step ([], false)
    Octets.join between ((found.map List.reverse).reverse)

def cut (arguments : List Octets) : Tool Unit := do
  let found ← Options.ofWords
    ["b bytes=", "c characters=", "d delimiter=", "f fields=", "n", "s only-delimited",
      "complement", "output-delimiter=", "z zero-terminated"] arguments
  let lists := found.given.filter fun entry => ["b", "c", "f"].contains entry.1
  let tab ← match found.value? "d" with
    | none => pure '\t'
    | some [c] => pure c
    | some [] => pure '\x00'
    | some _ => Tool.misuse 1 "the delimiter must be a single character"
  let (key, list) ← match lists with
    | [] => Tool.misuse 1 "you must specify a list of bytes, characters, or fields"
    | [only] => pure only
    | _ => Tool.misuse 1 "only one list may be specified"
  let isField := key == "f"
  if !isField && found.has "d" then
    Tool.misuse 1 "an input delimiter may be specified only when operating on fields"
  if !isField && found.has "s" then
    Tool.misuse 1
      "suppressing non-delimited lines makes sense\n\tonly when operating on fields"
  let spans ← (list.splitWhere fun c => c == ',' || c == ' ' || c == '\t').mapM (readSpan isField)
  let complements := found.has "complement"
  let delimiter := if found.has "z" then '\x00' else '\n'
  let between := (found.value? "output-delimiter").getD (if isField then [tab] else [])
  let shown? (line : Octets) : Option Octets :=
    if !isField then some (chosenOctets spans complements between line)
    else
      let fields := Octets.splitAt tab line
      if fields.length == 1 then (if found.has "s" then none else some line)
      else
        let chosen := (fields.zip (List.range fields.length)).filter fun (_, i) =>
          isWithin spans (i + 1) != complements
        some (Octets.join between (chosen.map (·.1)))
  let paths := if found.operands.isEmpty then [['-']] else found.operands
  for path in paths do
    match ← Tool.openInput path with
    | .error cause => Tool.blameFile 1 path cause
    | .ok input =>
      let result ← Tool.foldLines input delimiter
        (fun (_ : Unit) line _ => do
          match shown? line with
          | some text => Tool.put (text ++ [delimiter])
          | none => pure ()
          return ((), true))
        Tool.maxSteps ()
      match result with
      | .ok _ => pure ()
      | .error cause => Tool.blameFile 1 path cause
      Tool.closeInput input

/-! ## Lines side by side -/

/-- The delimiters that a list writes; nothing stands for no delimiter. -/
def delimiters : Octets → List (Option Char)
  | [] => []
  | '\\' :: c :: rest =>
    let meant : Option Char := match c with
      | '0' => none
      | 'b' => some '\x08'
      | 'f' => some '\x0c'
      | 'n' => some '\n'
      | 'r' => some '\r'
      | 't' => some '\t'
      | 'v' => some '\x0b'
      | c => some c
    meant :: delimiters rest
  | c :: rest => some c :: delimiters rest

/-- Texts with delimiters between them, which are used in turn. -/
def joinWith (between : Array (Option Char)) (texts : List Octets) : Octets :=
  let text (i : Nat) : Octets :=
    if i == 0 || between.isEmpty then []
    else ((between[(i - 1) % between.size]?).bind id).toList
  ((texts.zip (List.range texts.length)).map fun (part, i) => text i ++ part).flatten

def paste (arguments : List Octets) : Tool Unit := do
  let found ← Options.ofWords
    ["d delimiters=", "s serial", "z zero-terminated"] arguments
  let between := (delimiters ((found.value? "d").getD ['\t'])).toArray
  let delimiter := if found.has "z" then '\x00' else '\n'
  let paths := if found.operands.isEmpty then [['-']] else found.operands
  let inputs := paths.countP (· == ['-'])
  let shared ← if inputs > 0 then neededLines delimiter ['-'] else pure []
  let mut columns : List (List Octets) := []
  let mut place := 0
  for path in paths do
    if path == ['-'] && !found.has "s" then
      -- The lines of the input are dealt out in turn.
      let start := place
      let mine := (List.range ((shared.length + inputs - 1 - start) / inputs)).filterMap fun i =>
        shared[start + i * inputs]?
      columns := mine :: columns
      place := place + 1
    else if path == ['-'] then
      columns := (if place == 0 then shared else []) :: columns
      place := place + 1
    else
      match ← Tool.contents path with
      | .ok text => columns := linesOf delimiter text :: columns
      | .error cause =>
        if found.has "s" then Tool.blameFile 1 path cause
        else Tool.fail 1 s!"{Tool.shown path}: {cause.wording}"
  let all := columns.reverse
  if found.has "s" then
    for column in all do
      Tool.put (joinWith between column ++ [delimiter])
  else
    let height := (all.map List.length).foldl max 0
    for i in List.range height do
      Tool.put (joinWith between (all.map fun column => (column[i]?).getD []) ++ [delimiter])

/-- Puts words into columns that are as wide as they need. -/
def column (arguments : List Octets) : Tool Unit := do
  let found ← Options.ofWords
    ["t table", "s separator=", "o output-separator=", "c output-width=", "x fillrows",
      "n table-name="] arguments
  let paths := if found.operands.isEmpty then [['-']] else found.operands
  let mut lines : List Octets := []
  for path in paths do
    match ← Tool.contents? path with
    | some text => lines := lines ++ (Octets.lines text).filter fun line => !line.all Octets.isBlank
    | none => pure ()
  if found.has "t" then
    let cells := lines.map fun line =>
      match found.value? "s" with
      | some separators => line.splitWhere separators.contains
      | none => Octets.words line
    let width (i : Nat) : Nat := (cells.map fun row => ((row[i]?).getD []).length).foldl max 0
    let between := (found.value? "o").getD [' ', ' ']
    for row in cells do
      let padded := (row.zip (List.range row.length)).map fun (cell, i) =>
        if i + 1 == row.length then cell else Octets.padEnd (width i) cell
      Tool.putLine (Octets.join between padded)
  else
    let longest := (lines.map List.length).foldl max 0
    let cell := (longest / 8 + 1) * 8
    let total := ((found.value? "c").bind Octets.natural?).getD 80
    let count := max 1 (total / cell)
    let height := (lines.length + count - 1) / count
    for i in List.range height do
      let row := (List.range count).filterMap fun j => lines[i + j * height]?
      let padded := (row.zip (List.range row.length)).map fun (text, j) =>
        if j + 1 == row.length then text
        else text ++ List.replicate ((cell - text.length + 7) / 8) '\t'
      Tool.putLine padded.flatten

/-! ## Widths -/

/-- How far an octet moves to the right from a column. -/
def columnBehind (octets : Bool) (column : Nat) (c : Char) : Nat :=
  if octets then column + 1
  else
    match c with
    | '\x08' => column - 1
    | '\r' => 0
    | '\t' => column + (8 - column % 8)
    | _ => column + 1

/-- Breaks a line behind blanks, or anywhere. -/
def foldedLine (width : Nat) (spaces octets : Bool) (fuel : Nat) (line : Octets) : Octets :=
  match fuel with
  | 0 => line
  | fuel + 1 =>
    let fitting := (line.foldl
      (fun (state : Nat × Nat × Bool) c =>
        let (count, column, open_) := state
        let next := columnBehind octets column c
        if open_ && next ≤ width then (count + 1, next, true) else (count, column, false))
      (0, 0, true)).1
    if fitting ≥ line.length then line
    else
      let fitting := max 1 fitting
      let part := line.take fitting
      let tail := part.reverse.takeWhile fun d => d != ' ' && d != '\t'
      let size := if !spaces || tail.length == part.length then fitting
        else fitting - tail.length
      line.take size ++ '\n' :: foldedLine width spaces octets fuel (line.drop size)

def fold (arguments : List Octets) : Tool Unit := do
  let arguments := match arguments with
    | ('-' :: c :: rest) :: others =>
      if c.isDigit then "-w".toList :: (c :: rest) :: others else arguments
    | _ => arguments
  let found ← Options.ofWords ["b bytes", "s spaces", "w width="] arguments
  let width ← match found.value? "w" with
    | none => pure 80
    | some text =>
      match Octets.natural? text with
      | some 0 =>
        Tool.fail 1 s!"invalid number of columns: {Tool.quoted text}: Numerical result out of range"
      | some n => pure n
      | none => Tool.fail 1 s!"invalid number of columns: {Tool.quoted text}"
  let paths := if found.operands.isEmpty then [['-']] else found.operands
  for path in paths do
    match ← Tool.contents? path with
    | none => pure ()
    | some text =>
      for part in text.splitWhere (· == '\n') |>.zip (List.range (text.length + 1)) do
        let (line, i) := part
        let isLast := i == text.countP (· == '\n')
        let shown := foldedLine width (found.has "s") (found.has "b") (line.length + 1) line
        Tool.put (if isLast then shown else shown ++ ['\n'])

/-- The places where tabs lead to: a width, or a list of columns. -/
def tabStop (stops : List Nat) (column : Nat) : Nat :=
  match stops with
  | [width] => column + (width - column % width)
  | stops => (stops.find? (column < ·)).getD (column + 1)

def readTabs (text : Octets) : Tool (List Nat) := do
  let parts := text.splitWhere fun c => c == ',' || c == ' '
  parts.mapM fun part => do
    match Octets.natural? part with
    | some 0 => Tool.fail 1 "tab size cannot be 0"
    | some n => return n
    | none =>
      let shown := part.dropWhile Char.isDigit
      Tool.fail 1 s!"tab size contains invalid character(s): {Tool.quoted shown}"

/-- Puts blanks in place of tabs. -/
def expand (arguments : List Octets) : Tool Unit := do
  let found ← Options.ofWords ["i initial", "t tabs="] arguments
  let stops ← match found.value? "t" with
    | none => pure [8]
    | some text => readTabs text
  let paths := if found.operands.isEmpty then [['-']] else found.operands
  for path in paths do
    match ← Tool.contents? path with
    | none => pure ()
    | some text =>
      let step (state : Octets × Nat × Bool) (c : Char) : Octets × Nat × Bool :=
        let (written, column, leading) := state
        if c == '\n' then (c :: written, 0, true)
        else if c == '\t' && (leading || !found.has "i") then
          let next := tabStop stops column
          (List.replicate (next - column) ' ' ++ written, next, leading)
        else (c :: written, column + 1, leading && c == ' ')
      Tool.put (text.foldl step ([], 0, true)).1.reverse

/-- Puts tabs in place of blanks, at the beginning of lines or everywhere. -/
def unexpand (arguments : List Octets) : Tool Unit := do
  let found ← Options.ofWords ["a all", "t tabs=", "first-only"] arguments
  let stops ← match found.value? "t" with
    | none => pure [8]
    | some text => readTabs text
  let everywhere := (found.has "a" || found.has "t") && !found.has "first-only"
  let paths := if found.operands.isEmpty then [['-']] else found.operands
  for path in paths do
    match ← Tool.contents? path with
    | none => pure ()
    | some text =>
      -- Blanks are kept until it is known whether a tab reaches over them.
      let step (state : Octets × Octets × Nat × Bool) (c : Char) : Octets × Octets × Nat × Bool :=
        let (written, blanks, column, open_) := state
        if c == '\n' then (c :: blanks ++ written, [], 0, true)
        else if open_ && (c == ' ' || c == '\t') then
          let before := column
          let next := if c == '\t' then tabStop stops column else column + 1
          if c == '\t' then ('\t' :: written, [], next, true)
          else if next == tabStop stops before && (blanks.length > 0 || everywhere == false) &&
              !blanks.isEmpty then
            ('\t' :: written, [], next, true)
          else if next == tabStop stops before then (written, c :: blanks, next, true)
          else (written, c :: blanks, next, true)
        else (c :: blanks ++ written, [], column + 1, everywhere)
      let (written, blanks, _, _) := text.foldl step ([], [], 0, true)
      Tool.put (blanks ++ written).reverse

end TaskRunner.Shell.Utility
