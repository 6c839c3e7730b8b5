import TaskRunner.Yaml.Cursor
/- # TaskRunner.Yaml.Scalar -- the texts of scalars

A scalar is written plain, in single or double quotes, or as a block introduced by `|` or `>`.  Each
reader takes a cursor to the text that the scalar stands for and to the place behind it, or to
nothing if the scalar is malformed.

In the quoted, plain and `>` styles lines are folded: a single break between two lines of text is a
space, and of several breaks the first is dropped. -/

namespace TaskRunner.Yaml
set_option autoImplicit false

/-- How a scalar is written. -/
inductive Style where
  | plain
  | singleQuoted
  | doubleQuoted
  | literal
  | folded
  deriving DecidableEq, Repr, Inhabited

namespace Scalar

/-- The number that a hexadecimal digit writes. -/
def hexDigit? (c : Char) : Option Nat :=
  if '0' ≤ c ∧ c ≤ '9' then some (c.toNat - '0'.toNat)
  else if 'a' ≤ c ∧ c ≤ 'f' then some (c.toNat - 'a'.toNat + 10)
  else if 'A' ≤ c ∧ c ≤ 'F' then some (c.toNat - 'A'.toNat + 10)
  else none

/-- The character whose code point `digits` write. -/
def codePoint? (digits : List Char) : Option Char := do
  let code ← digits.foldlM (fun n c => (hexDigit? c).map (n * 16 + ·)) 0
  if h : code.isValidChar then some (Char.ofNatAux code h) else none

/-! ## Blanks between words -/

/-- The blanks and breaks read between two words of a scalar. -/
structure Gap where
  /-- Blanks read before any break. -/
  blanks : String := ""
  /-- Whether a break was met, after which blanks do not count. -/
  broken : Bool := false
  firstBreak : String := ""
  laterBreaks : String := ""

namespace Gap

/-- What a gap stands for once lines are folded. -/
def fold (gap : Gap) : String :=
  if gap.broken then
    if gap.firstBreak == "\n" then
      if gap.laterBreaks.isEmpty then " " else gap.laterBreaks
    else gap.firstBreak ++ gap.laterBreaks
  else gap.blanks

/-- Reads on over blanks and breaks.  A tab that stands left of column `indent` behind a break is
malformed. -/
def read (indent : Nat) (fuel : Nat) (gap : Gap) (cursor : Cursor) : Option (Gap × Cursor) :=
  match fuel with
  | 0 => some (gap, cursor)
  | fuel + 1 =>
    let c := cursor.next
    if isBlank c then
      if gap.broken then
        if c == '\t' && cursor.column < indent then none
        else read indent fuel gap cursor.skip
      else read indent fuel { gap with blanks := gap.blanks.push c } cursor.skip
    else if isBreak c then
      if gap.broken then
        read indent fuel { gap with laterBreaks := gap.laterBreaks ++ breakText c } cursor.skipBreak
      else
        read indent fuel { gap with blanks := "", broken := true, firstBreak := breakText c }
          cursor.skipBreak
    else some (gap, cursor)

end Gap

/-! ## Quoted scalars -/

/-- How many hexadecimal digits an escape letter asks for. -/
def escapeDigits? : Char → Option Nat
  | 'x' => some 2
  | 'u' => some 4
  | 'U' => some 8
  | _ => none

/-- The character of an escape that is one letter long. -/
def escape? : Char → Option Char
  | '0' => some '\x00'
  | 'a' => some '\x07'
  | 'b' => some '\x08'
  | 't' => some '\t'
  | '\t' => some '\t'
  | 'n' => some '\n'
  | 'v' => some '\x0b'
  | 'f' => some '\x0c'
  | 'r' => some '\r'
  | 'e' => some '\x1b'
  | ' ' => some ' '
  | '"' => some '"'
  | '/' => some '/'
  | '\\' => some '\\'
  | 'N' => some '\u0085'
  | '_' => some '\u00a0'
  | 'L' => some '\u2028'
  | 'P' => some '\u2029'
  | _ => none

/-- Reads the characters of a word inside double quotes, up to a blank, a break or the closing
quote.  An escaped break ends the word and joins the next line to it; the flag says so. -/
def doubleQuotedWord (fuel : Nat) (text : String) (cursor : Cursor) :
    Option (String × Bool × Cursor) :=
  match fuel with
  | 0 => none
  | fuel + 1 =>
    let c := cursor.next
    if isBlankOrEnd c || c == '"' then some (text, false, cursor)
    else if c == '\\' then
      let letter := cursor.ahead 1
      if isBreak letter then some (text, true, cursor.skip.skipBreak)
      else
        match escapeDigits? letter with
        | some n =>
          let digits := (cursor.rest.drop 2).take n
          if digits.length < n then none
          else
            match codePoint? digits with
            | some char => doubleQuotedWord fuel (text.push char) (cursor.skip (2 + n))
            | none => none
        | none =>
          match escape? letter with
          | some char => doubleQuotedWord fuel (text.push char) (cursor.skip 2)
          | none => none
    else doubleQuotedWord fuel (text.push c) cursor.skip

/-- Reads the characters of a word inside single quotes, up to a blank, a break or the closing
quote. -/
def singleQuotedWord (fuel : Nat) (text : String) (cursor : Cursor) :
    Option (String × Bool × Cursor) :=
  match fuel with
  | 0 => none
  | fuel + 1 =>
    let c := cursor.next
    if isBlankOrEnd c then some (text, false, cursor)
    else if c == '\'' then
      if cursor.ahead 1 == '\'' then singleQuotedWord fuel (text.push '\'') (cursor.skip 2)
      else some (text, false, cursor)
    else singleQuotedWord fuel (text.push c) cursor.skip

/-- Reads the words inside quotes and the gaps between them, up to the closing quote. -/
def quotedBody (double : Bool) (fuel : Nat) (text : String) (cursor : Cursor) :
    Option (String × Cursor) :=
  match fuel with
  | 0 => none
  | fuel + 1 =>
    if cursor.atDocumentMarker || isEnd cursor.next then none
    else
      let size := cursor.size + 1
      let word := if double then doubleQuotedWord size text cursor
        else singleQuotedWord size text cursor
      match word with
      | none => none
      | some (text, joined, cursor) =>
        if cursor.next == (if double then '"' else '\'') then some (text, cursor.skip)
        else
          match Gap.read 0 (cursor.size + 1) { broken := joined } cursor with
          | none => none
          | some (gap, cursor) => quotedBody double fuel (text ++ gap.fold) cursor

/-- Reads a quoted scalar from its opening quote on. -/
def quoted? (double : Bool) (cursor : Cursor) : Option (String × Cursor) :=
  quotedBody double (cursor.size + 1) "" cursor.skip

/-! ## Plain scalars -/

def isFlowIndicator (c : Char) : Bool :=
  c == ',' || c == '[' || c == ']' || c == '{' || c == '}'

/-- Reads the characters of a word of a plain scalar, up to a blank, a break or an indicator that
ends the scalar. -/
def plainWord (flow : Bool) (fuel : Nat) (text : String) (cursor : Cursor) :
    Option (String × Cursor) :=
  match fuel with
  | 0 => none
  | fuel + 1 =>
    let c := cursor.next
    if isBlankOrEnd c then some (text, cursor)
    else if flow && c == ':' && (isFlowIndicator (cursor.ahead 1) || cursor.ahead 1 == '?') then none
    else if (c == ':' && isBlankOrEnd (cursor.ahead 1)) || (flow && isFlowIndicator c) then
      some (text, cursor)
    else plainWord flow fuel (text.push c) cursor.skip

/-- Reads the words of a plain scalar.  `gap` was read before the next word, and is dropped if no
word follows; the flag in the answer says whether the scalar was followed by a break. -/
def plainBody (flow : Bool) (indent : Nat) (fuel : Nat) (text : String) (gap : Gap)
    (cursor : Cursor) : Option (String × Bool × Cursor) :=
  match fuel with
  | 0 => none
  | fuel + 1 =>
    if cursor.atDocumentMarker || cursor.next == '#' then some (text, gap.broken, cursor)
    else
      match plainWord flow (cursor.size + 1) "" cursor with
      | none => none
      | some (word, after) =>
        let text := if word.isEmpty then text else text ++ gap.fold ++ word
        let gap := if word.isEmpty then gap else {}
        if !(isBlank after.next || isBreak after.next) then some (text, gap.broken, after)
        else
          match Gap.read indent (after.size + 1) gap after with
          | none => none
          | some (gap, after) =>
            if !flow && after.column < indent then some (text, gap.broken, after)
            else plainBody flow indent fuel text gap after

/-- Reads a plain scalar.  Outside of flow collections its lines are indented to column `indent` at
least. -/
def plain? (flow : Bool) (indent : Nat) (cursor : Cursor) : Option (String × Bool × Cursor) :=
  plainBody flow indent (cursor.size + 1) "" {} cursor

/-! ## Block scalars -/

/-- What happens to the breaks at the end of a block. -/
inductive Chomping where
  | strip
  | clip
  | keep
  deriving DecidableEq, Repr

/-- The sign that sets the chomping. -/
def chomping? : Char → Option Chomping
  | '-' => some .strip
  | '+' => some .keep
  | _ => none

/-- The number of spaces that an indentation indicator asks for, if the character is a digit; zero
is malformed. -/
def indentation (cursor : Cursor) : Option (Nat × Cursor) :=
  let c := cursor.next
  if c == '0' then none
  else if c.isDigit then some (c.toNat - '0'.toNat, cursor.skip)
  else some (0, cursor)

/-- Reads what may follow the `|` or `>` on its line: a chomping sign and an indentation, in either
order. -/
def blockHeader (cursor : Cursor) : Option (Chomping × Nat × Cursor) :=
  match chomping? cursor.next with
  | some chomping => (indentation cursor.skip).map fun (n, cursor) => (chomping, n, cursor)
  | none =>
    match indentation cursor with
    | none => none
    | some (0, cursor) => some (.clip, 0, cursor)
    | some (n, cursor) =>
      match chomping? cursor.next with
      | some chomping => some (chomping, n, cursor.skip)
      | none => some (.clip, n, cursor)

/-- Passes over the blanks and the comment at the end of a line, and over its break.  Anything else
is malformed. -/
def restOfLine (cursor : Cursor) : Option Cursor :=
  let cursor := cursor.skipWhile isBlank
  let cursor := if cursor.next == '#' then cursor.skipWhile (!isBreakOrEnd ·) else cursor
  if isBreakOrEnd cursor.next then some cursor.skipBreak else none

/-- Reads empty lines and the indentation of the line behind them.  With `indent` zero the
indentation is not known yet; `widest` is the widest met so far. -/
def blockBreaks (fuel : Nat) (indent widest : Nat) (breaks : String) (cursor : Cursor) :
    Option (Nat × String × Cursor) :=
  match fuel with
  | 0 => none
  | fuel + 1 =>
    let spaces := (cursor.run (· == ' ')).length
    let cursor := cursor.skip (if indent == 0 then spaces else min spaces (indent - cursor.column))
    let widest := max widest cursor.column
    if (indent == 0 || cursor.column < indent) && cursor.next == '\t' then none
    else if isBreak cursor.next then
      blockBreaks fuel indent widest (breaks ++ breakText cursor.next) cursor.skipBreak
    else some (widest, breaks, cursor)

/-- A block as far as it is read. -/
structure Block where
  text : String := ""
  /-- The break behind the last line of text. -/
  lastBreak : String := ""
  /-- The breaks of the empty lines behind it. -/
  emptyLines : String := ""
  /-- Whether the last line of text starts with a blank. -/
  indented : Bool := false

/-- Puts a line behind a block, after the breaks between them.  Breaks next to a line that starts
with a blank are not folded. -/
def Block.addLine (folded : Bool) (block : Block) (blankFirst : Bool) (line : List Char)
    (lastBreak : String) : Block :=
  let join :=
    if folded && block.lastBreak == "\n" && !block.indented && !blankFirst then
      if block.emptyLines.isEmpty then " " else ""
    else block.lastBreak
  { text := block.text ++ join ++ block.emptyLines ++ String.ofList line
    lastBreak, indented := blankFirst }

/-- Reads the lines of a block that are indented to column `indent`. -/
def blockLines (folded : Bool) (indent : Nat) (fuel : Nat) (block : Block) (cursor : Cursor) :
    Option (Block × Cursor) :=
  match fuel with
  | 0 => none
  | fuel + 1 =>
    if cursor.column == indent && !isEnd cursor.next then
      let line := cursor.run (!isBreakOrEnd ·)
      let after := cursor.skip line.length
      let block := block.addLine folded (isBlank cursor.next) line (breakText after.next)
      let after := after.skipBreak
      match blockBreaks (after.size + 1) indent 0 "" after with
      | none => none
      | some (_, breaks, after) =>
        blockLines folded indent fuel { block with emptyLines := breaks } after
    else some (block, cursor)

/-- Reads a block scalar from its indicator on.  `parent` is the column of the collection that the
block is in, -1 at the top. -/
def block? (folded : Bool) (parent : Int) (cursor : Cursor) : Option (String × Cursor) := do
  let (chomping, spaces, cursor) ← blockHeader cursor.skip
  let cursor ← restOfLine cursor
  let given := if spaces == 0 then 0 else (max parent 0).toNat + spaces
  let (widest, breaks, cursor) ← blockBreaks (cursor.size + 1) given 0 "" cursor
  let indent := if given == 0 then max (max widest (parent + 1).toNat) 1 else given
  let (block, cursor) ←
    blockLines folded indent (cursor.size + 1) { emptyLines := breaks } cursor
  let tail := match chomping with
    | .strip => ""
    | .clip => block.lastBreak
    | .keep => block.lastBreak ++ block.emptyLines
  return (block.text ++ tail, cursor)

end Scalar
end TaskRunner.Yaml
