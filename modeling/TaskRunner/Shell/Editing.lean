import TaskRunner.Shell.Expression
/- # TaskRunner.Shell.Editing -- scripts that edit lines

A script is a row of edits, each of which can be for certain lines only.  Its text comes in pieces,
and an edit may begin in one and end in another.  Blocks and jumps become places in the row
(`Script.steps`), so that a script is carried out by going from place to place. -/

namespace TaskRunner.Shell
set_option autoImplicit false

namespace Editing

/-- What is searched for; without an expression, what was searched for last. -/
structure Searched where
  expression : Option Expression
  fold : Bool := false
  multiline : Bool := false

/-- Which lines an edit is for. -/
inductive LineMark where
  | line (number : Nat)
  /-- A line and then each one a number of lines behind. -/
  | stepped (first step : Nat)
  | last
  | matching (searched : Searched)
  /-- So many lines behind the first one. -/
  | beyond (count : Nat)
  /-- The next line whose number is a multiple. -/
  | multiple (number : Nat)

/-- A change of letters. -/
inductive Recase where
  | upper | lower
  deriving DecidableEq, Repr

/-- A part of what replaces a match: a text and then what a group matched, with a change of all their
letters and one of the first. -/
structure Insertion where
  text : Octets
  group : Option Nat := none
  whole : Option Recase := none
  head : Option Recase := none

/-- The replacement of what matches. -/
structure Replacement where
  searched : Searched
  insertions : List Insertion
  /-- Whether every match is replaced from the first one on that is. -/
  every : Bool := false
  /-- Which match is replaced, from one on. -/
  which : Nat := 1
  prints : Bool := false
  target : Option Octets := none

/-- What is done with a line. -/
inductive Edit where
  /-- Goes on behind a block if the line is not for it. -/
  | enter (behind : Nat)
  | nothing
  | append (text : Octets)
  | insert (text : Octets)
  | change (text : Octets)
  /-- Goes on at a place: always, if something was replaced, or if nothing was. -/
  | jump (ifReplaced : Option Bool) (place : Nat)
  | delete | deleteFirst
  | print | printFirst
  | next | nextToo
  | number | fileName
  | keep | keepToo | recall | recallToo | exchange | clear
  | quit (status : Nat) (prints : Bool)
  | list (width : Option Nat)
  | readFile (path : Octets)
  | readLine (path : Octets)
  | write (path : Octets) (onlyFirst : Bool)
  | substitute (replacement : Replacement)
  | translate (pairs : List (Char × Char))

/-- An edit and the lines that it is for. -/
structure Step where
  first : Option LineMark := none
  second : Option LineMark := none
  negated : Bool := false
  edit : Edit := .nothing

/-- A script. -/
structure Script where
  steps : Array Step
  /-- Whether lines are not written unless the script says so. -/
  silent : Bool := false

/-- The files that a script writes. -/
def Script.targets (script : Script) : List Octets :=
  script.steps.toList.filterMap fun step =>
    match step.edit with
    | .write path _ => some path
    | .substitute replacement => replacement.target
    | _ => none

/-! ## Reading -/

/-- A piece of the text of a script, with the name of its file if it is from one. -/
structure Piece where
  file : Option Octets
  text : Octets

/-- The length of several pieces, each with the end of its last line. -/
def Piece.totalLength : List Piece → Nat
  | [] => 0
  | piece :: later => piece.text.length + 1 + totalLength later

/-- How a script is read. -/
structure Style where
  extended : Bool := false

/-- What has been read of a script. -/
structure Source where
  style : Style
  piece : Piece
  /-- The number of the piece among those that are no files. -/
  index : Nat
  rest : Octets
  later : List Piece
  /-- How many octets of the piece have been read, and how many of its lines. -/
  count : Nat := 0
  line : Nat := 1
  isFirst : Bool := true
  steps : Array Step := #[]
  /-- The places where blocks begin that have not ended, and what they are called in a complaint. -/
  blocks : List (Nat × String) := []
  labels : List (Octets × Nat) := []
  /-- The places of jumps, with what they jump to. -/
  jumps : List (Nat × Octets) := []
  silent : Bool := false

/-- Why a text is no script. -/
inductive Refusal where
  /-- Something is wrong at a place. -/
  | misplaced (place problem : String)
  /-- No place has the label that a jump is for. -/
  | noLabel (label : Octets)

/-- A refusal in words. -/
def Refusal.message : Refusal → String
  | .misplaced place problem => s!"{place}: {problem}"
  | .noLabel label => s!"can't find label for jump to \x60{label.toText}'"

/-- The status of a program that refuses a script. -/
def Refusal.status : Refusal → Nat
  | .misplaced _ _ => 1
  | .noLabel _ => 4

/-- Reads a part of a script, or says what is wrong with it. -/
abbrev Read := StateT Source (Except Refusal)

namespace Read

/-- What a place is called in a complaint, where so many octets of the piece have been read. -/
def placeName (count : Nat) : Read String := do
  let source ← get
  match source.piece.file with
  | some file => return s!"file {file.toText} line {source.line}"
  | none => return s!"-e expression #{source.index}, char {count}"

/-- Refuses a script at a place. -/
def refuse {α : Type} (text : String) : Read α := do
  throw (.misplaced (← placeName (← get).count) text)

/-- The next octet, which is not read. -/
def peek : Read (Option Char) := do return (← get).rest.head?

/-- Reads the next octet; at the end of a piece there is none. -/
def octet : Read (Option Char) := do
  match (← get).rest with
  | [] => return none
  | c :: rest =>
    modify fun source =>
      { source with
        rest, count := source.count + 1
        line := if c == '\n' then source.line + 1 else source.line }
    return some c

/-- Unreads the octet that was read last. -/
def unread : Option Char → Read Unit
  | none => return ()
  | some c => modify fun source =>
    { source with
      rest := c :: source.rest, count := source.count - 1
      line := if c == '\n' then source.line - 1 else source.line }

/-- Reads octets as long as a condition holds. -/
def span (holds : Char → Bool) : Read Octets := do
  let source ← get
  let found := source.rest.takeWhile holds
  set { source with
    rest := source.rest.drop found.length, count := source.count + found.length
    line := source.line + found.countP (· == '\n') }
  return found

/-- Reads the next octet that is no blank. -/
def visible : Read (Option Char) := do
  let _ ← span fun c => c == ' ' || c == '\t'
  octet

/-- Goes on with the next piece, if there is one. -/
def nextPiece : Read Bool := do
  let source ← get
  match source.later with
  | [] => return false
  | piece :: later =>
    set { source with
      piece, later, rest := piece.text, count := 0, line := 1, isFirst := false
      index := if piece.file.isNone then source.index + 1 else source.index }
    return true

/-- Reads a number of which the first digit has been read. -/
def number (c : Char) : Read Nat := do
  return Octets.digitsValue (c :: (← span Char.isDigit))

/-- Reads what may stand behind an edit. -/
def ending : Read Unit := do
  let c ← visible
  match c with
  | some '\x7d' | some '#' => unread c
  | none | some '\n' | some ';' => return ()
  | some _ => refuse "extra characters after command"

/-- How many octets of a set there are up to its closing bracket, of which some are known. -/
def setSize? (fuel known : Nat) (text : Octets) : Option Nat :=
  match fuel with
  | 0 => none
  | fuel + 1 =>
    match text with
    | [] | '\n' :: _ => none
    | ']' :: _ => some (known + 1)
    | '[' :: c :: rest =>
      let inner? := if c == ':' || c == '.' || c == '=' then
          (List.range rest.length).find? fun n => (rest.drop n).take 2 == [c, ']']
        else none
      match inner? with
      | some n => setSize? fuel (known + n + 4) (rest.drop (n + 2))
      | none => setSize? fuel (known + 1) (c :: rest)
    | _ :: rest => setSize? fuel (known + 1) rest

/-- Reads the rest of a set behind its opening bracket. -/
def bracketed : Read (Option Octets) := do
  let text := (← get).rest
  let start := if text.head? == some '^' then 1 else 0
  let start := if (text.drop start).head? == some ']' then start + 1 else start
  match setSize? (text.length + 1) start (text.drop start) with
  | none => return none
  | some size =>
    let found := text.take size
    modify fun source =>
      { source with
        rest := source.rest.drop size, count := source.count + size
        line := source.line + found.countP (· == '\n') }
    return some found

/-- Reads up to a delimiter, which loses its meaning behind a backslash; nothing if it is missing. -/
def delimited (delimiter : Char) (isExpression : Bool) (fuel : Nat) (found : Octets) :
    Read (Option Octets) := do
  match fuel with
  | 0 => return none
  | fuel + 1 =>
    match ← octet with
    | none => return none
    | some '\n' =>
      if isExpression then
        unread (some '\n')
        return none
      else delimited delimiter isExpression fuel ('\n' :: found)
    | some c =>
      if c == delimiter then return some found.reverse
      else if c == '\\' then
        match ← octet with
        | none => return none
        | some d =>
          if d == 'n' && isExpression then delimited delimiter isExpression fuel ('\n' :: found)
          else if d == '\n' || (d == delimiter && (isExpression || d != '&')) then
            delimited delimiter isExpression fuel (d :: found)
          else delimited delimiter isExpression fuel (d :: '\\' :: found)
      else if c == '[' && isExpression then
        match ← bracketed with
        | some inner => delimited delimiter isExpression fuel (inner.reverse ++ c :: found)
        | none =>
          let _ ← span (· != '\n')
          return none
      else delimited delimiter isExpression fuel (c :: found)

/-- The rest of the line. -/
def restOfLine : Read Octets := do
  let found ← span (· != '\n')
  let _ ← octet
  return found

/-- Reads the name of a file. -/
def fileName : Read Octets := do
  let _ ← span fun c => c == ' ' || c == '\t'
  let name ← restOfLine
  if name.isEmpty then refuse "missing filename in r/R/w/W commands"
  return name

/-- Reads the name of a place to jump to. -/
def label : Read Octets := do
  let _ ← span fun c => c == ' ' || c == '\t'
  span fun c => !Octets.isSpace c && c != ';' && c != '\x7d'

end Read

/-! ## Octets behind backslashes -/

/-- The octet that a letter and what is behind it stand for, behind a backslash. -/
def named? (c : Char) (rest : Octets) : Option (Char × Octets) :=
  let coded (count : Nat) (isDigit : Char → Bool) (value : Octets → Nat) :
      Option (Char × Octets) :=
    let digits := (rest.take count).takeWhile isDigit
    if digits.isEmpty then none
    else some (Char.ofNat (value digits % 256), rest.drop digits.length)
  match c with
  | 'a' => some ('\x07', rest)
  | 'f' => some ('\x0c', rest)
  | 'r' => some ('\r', rest)
  | 't' => some ('\t', rest)
  | 'v' => some ('\x0b', rest)
  | 'c' =>
    match rest with
    | d :: rest => some (Char.ofNat (d.toUpper.toNat ^^^ 64), rest)
    | [] => none
  | 'd' => coded 3 Char.isDigit Octets.digitsValue
  | 'o' => coded 3 Octets.isOctal Octets.octalValue
  | 'x' => coded 2 (fun d => (Octets.hexDigit? d).isSome) Octets.hexValue
  | _ => none

/-- An expression with the octets that letters behind backslashes stand for. -/
def withNamed (fuel : Nat) (text : Octets) : Octets :=
  match fuel, text with
  | fuel + 1, '\\' :: c :: rest =>
    match named? c rest with
    | some (d, rest) => d :: withNamed fuel rest
    | none =>
      if c == 'n' then '\n' :: withNamed fuel rest else '\\' :: c :: withNamed fuel rest
  | fuel + 1, '[' :: rest => '[' :: inSet fuel true rest
  | fuel + 1, c :: rest => c :: withNamed fuel rest
  | _, text => text
where
  /-- The same inside a set. -/
  inSet (fuel : Nat) (isFirst : Bool) (text : Octets) : Octets :=
    match fuel, text with
    | fuel + 1, '^' :: rest => '^' :: inSet fuel isFirst rest
    | fuel + 1, ']' :: rest =>
      ']' :: (if isFirst then inSet fuel false rest else withNamed fuel rest)
    | fuel + 1, '\\' :: c :: rest =>
      match named? c rest with
      | some (d, rest) => d :: inSet fuel false rest
      | none =>
        if c == 'n' then '\n' :: inSet fuel false rest
        else '\\' :: inSet fuel false (c :: rest)
    | fuel + 1, '[' :: c :: rest =>
      if c == ':' || c == '.' || c == '=' then
        let inner := (List.range rest.length).find? fun n => (rest.drop n).take 2 == [c, ']']
        match inner with
        | some n => '[' :: c :: rest.take (n + 2) ++ inSet fuel false (rest.drop (n + 2))
        | none => '[' :: inSet fuel false (c :: rest)
      else '[' :: inSet fuel false (c :: rest)
    | fuel + 1, c :: rest => c :: inSet fuel false rest
    | _, text => text

/-- A text without the backslashes in it. -/
def plain (fuel : Nat) (text : Octets) : Octets :=
  match fuel, text with
  | fuel + 1, '\\' :: c :: rest =>
    match named? c rest with
    | some (d, rest) => d :: plain fuel rest
    | none => (if c == 'n' then '\n' else c) :: plain fuel rest
  | fuel + 1, c :: rest => c :: plain fuel rest
  | _, text => text

/-- How many groups an expression has. -/
def groupCount : Expression → Nat
  | .group n body => max n (groupCount body)
  | .sequence a b | .either a b => max (groupCount a) (groupCount b)
  | .repeated _ _ body => groupCount body
  | _ => 0

/-- The expression that a text writes. -/
def searched (text : Octets) (fold multiline : Bool) : Read Searched := do
  if text.isEmpty then
    if fold || multiline then Read.refuse "cannot specify modifiers on empty regexp"
    return { expression := none }
  let extended := (← get).style.extended
  let manner : Expression.Manner := if extended then .extended else .strict
  match Expression.ofText manner (withNamed (text.length + 1) text) with
  | .ok e => return { expression := some e, fold, multiline }
  | .error fault => Read.refuse fault.message

/-! ## Replacements -/

/-- What replaces a match, as far as it was read. -/
structure Replacing where
  found : List Insertion := []
  /-- The text in front of the next part, the last octet first. -/
  text : Octets := []
  whole : Option Recase := none
  head : Option Recase := none
  /-- What the changes of letters go back to. -/
  kept : Option Recase × Option Recase := (none, none)

namespace Replacing

/-- Ends a part. -/
def cut (state : Replacing) (group : Option Nat) : Replacing :=
  { state with
    found := { text := state.text.reverse, group, whole := state.whole, head := state.head } ::
      state.found
    text := [], whole := state.kept.1, head := state.kept.2 }

/-- Puts an octet that had a backslash in front of it behind the part before it. -/
def addPlain (state : Replacing) (c : Char) : Replacing :=
  let state := state.cut none
  match state.found with
  | last :: found => { state with found := { last with text := last.text ++ [c] } :: found }
  | [] => state

/-- Changes letters from here on. -/
def recase (state : Replacing) (c : Char) : Replacing :=
  let state := state.cut none
  match c with
  | 'L' => { state with whole := some .lower, head := none, kept := (some .lower, none) }
  | 'U' => { state with whole := some .upper, head := none, kept := (some .upper, none) }
  | 'E' => { state with whole := none, head := none, kept := (none, none) }
  | 'l' => { state with head := some .lower, kept := (state.whole, state.head) }
  | _ => { state with head := some .upper, kept := (state.whole, state.head) }

/-- Reads what replaces a match. -/
def ofText (fuel : Nat) (state : Replacing) (text : Octets) : List Insertion :=
  match fuel, text with
  | fuel + 1, '\\' :: c :: rest =>
    if c.isDigit then ofText fuel (state.cut (some (c.toNat - '0'.toNat))) rest
    else if ['L', 'U', 'E', 'l', 'u'].contains c then ofText fuel (state.recase c) rest
    else
      match named? c rest with
      | some (d, rest) => ofText fuel { state with text := d :: state.text } rest
      | none =>
        if c == 'n' then ofText fuel { state with text := '\n' :: state.text } rest
        else ofText fuel (state.addPlain c) rest
  | fuel + 1, '&' :: rest => ofText fuel (state.cut (some 0)) rest
  | fuel + 1, c :: rest => ofText fuel { state with text := c :: state.text } rest
  | _, _ => (state.cut none).found.reverse

end Replacing

/-! ## Edits -/

/-- Reads the lines that an edit is for, where an octet has been read that may begin them. -/
def lineMark? (c : Option Char) : Read (Option LineMark) := do
  match c with
  | some '$' => return some .last
  | some '/' => expression '/'
  | some '\\' =>
    match ← Read.octet with
    | some delimiter => expression delimiter
    | none => Read.refuse "unterminated address regex"
  | some '+' => return some (.beyond (← count))
  | some '~' => return some (.multiple (← count))
  | some c =>
    if !c.isDigit then return none
    else
      let n ← Read.number c
      let sign ← Read.visible
      if sign != some '~' then
        Read.unread sign
        return some (.line n)
      else return some (.stepped n (← count))
  | none => return none
where
  count : Read Nat := do
    match ← Read.visible with
    | some c => if c.isDigit then Read.number c else do
        Read.unread (some c)
        return 0
    | none => return 0
  expression (delimiter : Char) : Read (Option LineMark) := do
    match ← Read.delimited delimiter true ((← get).rest.length + 1) [] with
    | none => Read.refuse "unterminated address regex"
    | some text =>
      let (fold, multiline) ← signs 100 false false
      return some (.matching (← searched text fold multiline))
  /-- Reads the letters behind an expression. -/
  signs (fuel : Nat) (fold multiline : Bool) : Read (Bool × Bool) := do
    match fuel with
    | 0 => return (fold, multiline)
    | fuel + 1 =>
      let c ← Read.visible
      if c == some 'I' then signs fuel true multiline
      else if c == some 'M' then signs fuel fold true
      else
        Read.unread c
        return (fold, multiline)

/-- Reads lines of text, each but the last with a backslash behind it. -/
def textLines (fuel : Nat) (found : Octets) : Read Octets := do
  match fuel with
  | 0 => return found.reverse
  | fuel + 1 =>
    match ← Read.octet with
    | none => return ('\n' :: found).reverse
    | some '\n' => return ('\n' :: found).reverse
    | some '\\' =>
      match ← Read.octet with
      | some c => textLines fuel (c :: '\\' :: found)
      | none =>
        if ← Read.nextPiece then textLines fuel ('\n' :: '\\' :: found)
        else return ('\n' :: found).reverse
    | some c => textLines fuel (c :: found)

/-- Reads the text of an edit. -/
def text : Read Octets := do
  let read (lead : Octets) : Read Octets := do
    let source ← get
    let size := source.rest.length + Piece.totalLength source.later
    let found ← textLines (size + 2) []
    return lead ++ plain (found.length + 1) found
  match ← Read.visible with
  | none => Read.refuse "expected \\ after \x60a', \x60c' or \x60i'"
  | some '\\' =>
    match ← Read.octet with
    | some '\n' => read []
    | some c => read [c]
    | none =>
      if ← Read.nextPiece then read [] else return []
  | some c =>
    Read.unread (some c)
    read []

/-- Reads the letters behind a substitution. -/
def substitutionSigns (fuel : Nat) (found : Replacement) : Read Replacement := do
  match fuel with
  | 0 => return found
  | fuel + 1 =>
    let c ← Read.visible
    match c with
    | some 'i' | some 'I' =>
      substitutionSigns fuel { found with searched := { found.searched with fold := true } }
    | some 'm' | some 'M' =>
      substitutionSigns fuel { found with searched := { found.searched with multiline := true } }
    | some 'e' => substitutionSigns fuel found
    | some 'p' =>
      if found.prints then Read.refuse "multiple \x60p' options to \x60s' command"
      substitutionSigns fuel { found with prints := true }
    | some 'g' =>
      if found.every then Read.refuse "multiple \x60g' options to \x60s' command"
      substitutionSigns fuel { found with every := true }
    | some 'w' => return { found with target := some (← Read.fileName) }
    | some '\x7d' | some '#' =>
      Read.unread c
      return found
    | none | some '\n' | some ';' => return found
    | some c =>
      if !c.isDigit then Read.refuse "unknown option to \x60s'"
      else if found.which != 0 then
        Read.refuse "multiple number options to \x60s' command"
      else
        let n ← Read.number c
        if n == 0 then Read.refuse "number option to \x60s' command may not be zero"
        substitutionSigns fuel { found with which := n }

/-- Reads a substitution. -/
def substitution : Read Edit := do
  let unfinished {α : Type} : Read α := Read.refuse "unterminated \x60s' command"
  let size := (← get).rest.length + 1
  match ← Read.octet with
  | none => unfinished
  | some delimiter =>
    match ← Read.delimited delimiter true size [] with
    | none => unfinished
    | some pattern =>
      match ← Read.delimited delimiter false size [] with
      | none => unfinished
      | some replacement =>
        let insertions := Replacing.ofText (replacement.length + 1) {} replacement
        let found ← substitutionSigns size
          { searched := { expression := none }, insertions, which := 0 }
        let whole ← searched pattern found.searched.fold found.searched.multiline
        match whole.expression, (insertions.filterMap fun one => one.group).max? with
        | some e, some n =>
          if n > groupCount e then
            Read.refuse s!"invalid reference \\{n} on \x60s' command's RHS"
        | _, _ => pure ()
        return .substitute { found with searched := whole, which := max 1 found.which }

/-- Reads a translation of octets. -/
def translation : Read Edit := do
  let unfinished {α : Type} : Read α := Read.refuse "unterminated \x60y' command"
  let size := (← get).rest.length + 1
  match ← Read.octet with
  | none => unfinished
  | some delimiter =>
    match ← Read.delimited delimiter false size [] with
    | none => unfinished
    | some first =>
      match ← Read.delimited delimiter false size [] with
      | none => unfinished
      | some second =>
        let first := plain (first.length + 1) first
        let second := plain (second.length + 1) second
        if first.length != second.length then
          Read.refuse "strings for \x60y' command are different lengths"
        Read.ending
        return .translate (first.zip second)

/-- Reads a number that may stand behind an edit. -/
def optionalNumber : Read (Option Nat) := do
  let c ← Read.visible
  match c with
  | some d =>
    if d.isDigit then return some (← Read.number d)
    else
      Read.unread c
      return none
  | none => return none

/-- Reads an edit whose letter has been read. -/
def edit (step : Step) (c : Char) : Read Edit := do
  let simple (edit : Edit) : Read Edit := do
    Read.ending
    return edit
  let here := (← get).steps.size
  let jump (ifReplaced : Option Bool) : Read Edit := do
    let label ← Read.label
    modify fun source => { source with jumps := (here, label) :: source.jumps }
    return .jump ifReplaced 0
  match c with
  | '\x7b' =>
    let place ← Read.placeName 0
    modify fun source => { source with blocks := (here, place) :: source.blocks }
    return .enter 0
  | '\x7d' =>
    match (← get).blocks with
    | [] => Read.refuse "unexpected \x60\x7d'"
    | (start, _) :: blocks =>
      if step.first.isSome then Read.refuse "\x60\x7d' doesn't want any addresses"
      Read.ending
      modify fun source =>
        { source with
          blocks
          steps := source.steps.modify start fun step => { step with edit := .enter here } }
      return .nothing
  | ':' =>
    if step.first.isSome then Read.refuse ": doesn't want any addresses"
    let label ← Read.label
    if label.isEmpty then Read.refuse "\":\" lacks a label"
    modify fun source => { source with labels := source.labels ++ [(label, here)] }
    return .nothing
  | 'a' => return .append (← text)
  | 'i' => return .insert (← text)
  | 'c' => return .change (← text)
  | 'b' => jump none
  | 't' => jump (some true)
  | 'T' => jump (some false)
  | 'q' | 'Q' =>
    if step.second.isSome then Read.refuse "command only uses one address"
    let status ← optionalNumber
    simple (.quit (status.getD 0) (c == 'q'))
  | 'l' => simple (.list (← optionalNumber))
  | '=' => simple .number
  | 'd' => simple .delete
  | 'D' => simple .deleteFirst
  | 'F' => simple .fileName
  | 'g' => simple .recall
  | 'G' => simple .recallToo
  | 'h' => simple .keep
  | 'H' => simple .keepToo
  | 'n' => simple .next
  | 'N' => simple .nextToo
  | 'p' => simple .print
  | 'P' => simple .printFirst
  | 'x' => simple .exchange
  | 'z' => simple .clear
  | 'r' => return .readFile (← Read.fileName)
  | 'R' => return .readLine (← Read.fileName)
  | 'w' => return .write (← Read.fileName) false
  | 'W' => return .write (← Read.fileName) true
  | 's' => substitution
  | 'y' => translation
  | 'v' =>
    let _ ← Read.label
    simple .nothing
  | c => Read.refuse s!"unknown command: \x60{c}'"

/-- Reads the lines that an edit is for. -/
def marks (c : Option Char) : Read (Step × Option Char) := do
  match ← lineMark? c with
  | none => return ({}, c)
  | some (.beyond _) | some (.multiple _) =>
    Read.refuse "invalid usage of +N or ~N as first address"
  | some first =>
    let c ← Read.visible
    let (second, c) ← (if c == some ',' then do
        match ← lineMark? (← Read.visible) with
        | none => Read.refuse "unexpected \x60,'"
        | some second => return (some second, ← Read.visible)
      else pure (none, c) : Read (Option LineMark × Option Char))
    let startsEarly := match first with
      | .line 0 => true
      | _ => false
    let endsByExpression := match second with
      | some (.matching _) => true
      | _ => false
    let readsFile := second.isNone && c == some 'r'
    if startsEarly && !endsByExpression && !readsFile then Read.refuse "invalid usage of line address 0"
    return ({ first := some first, second }, c)

/-- Reads a remark. -/
def remark : Read Unit := do
  let source ← get
  let text ← Read.restOfLine
  if source.isFirst && source.count == 1 && text == ['n'] then
    modify fun source => { source with silent := true }

/-- Reads the steps of a script. -/
def readSteps (fuel : Nat) : Read Unit := do
  match fuel with
  | 0 => return ()
  | fuel + 1 =>
    let _ ← Read.span fun c => Octets.isSpace c || c == ';'
    match ← Read.octet with
    | none =>
      if ← Read.nextPiece then readSteps fuel
    | some c =>
      let (step, c) ← marks (some c)
      let negated := c == some '!'
      let c ← if negated then Read.visible else pure c
      match c with
      | none => Read.refuse "missing command"
      | some '#' =>
        if step.first.isSome then Read.refuse "comments don't accept any addresses"
        remark
      | some c =>
        if negated && c == '!' then Read.refuse "multiple \x60!'s"
        let edit ← edit step c
        modify fun source =>
          { source with steps := source.steps.push { step with negated, edit } }
      readSteps fuel

/-- Puts the places of labels into jumps. -/
def resolve (labels : List (Octets × Nat)) (steps : Array Step) :
    List (Nat × Octets) → Except Refusal (Array Step)
  | [] => .ok steps
  | (here, label) :: jumps =>
    let place? := if label.isEmpty then some steps.size else labels.lookup label
    match place? with
    | none => .error (.noLabel label)
    | some place =>
      let aim (edit : Edit) : Edit := match edit with
        | .jump ifReplaced _ => .jump ifReplaced place
        | other => other
      resolve labels (steps.modify here fun step => { step with edit := aim step.edit }) jumps

/-- The script that pieces of text make up. -/
def Script.ofPieces (style : Style) (pieces : List Piece) : Except Refusal Script := do
  let size := Piece.totalLength pieces
  match pieces with
  | [] => return { steps := #[] }
  | piece :: later =>
    let index := if piece.file.isNone then 1 else 0
    let whole : Read Unit := do
      readSteps (size + 1)
      match (← get).blocks with
      | (_, place) :: _ => throw (.misplaced place "unmatched \x60\x7b'")
      | [] => pure ()
    let (_, source) ← whole.run { style, piece, index, rest := piece.text, later }
    return {
      steps := ← resolve source.labels source.steps source.jumps.reverse
      silent := source.silent }

end Editing
end TaskRunner.Shell
