import TaskRunner.Yaml.Token.Property
/- # TaskRunner.Yaml.Token.Lexer -- the tokens of a text, in order

Two things make a token depend on what came before it.  Outside of brackets the columns of the block
collections that are open decide which of them end at a token; inside of brackets columns do not
count.  And a key without a question mark shows only at the colon behind it: until then the lexer
keeps a candidate for each level of brackets, and at the colon puts the `key` token in front of it.
A candidate lapses when its line ends or when it gets too long. -/

namespace TaskRunner.Yaml
set_option autoImplicit false

/-- A place where a key may have started. -/
structure KeyCandidate where
  /-- Nothing but a key can stand there. -/
  required : Bool
  /-- How many tokens come before it. -/
  position : Nat
  index : Nat
  line : Nat
  column : Nat

/-- The state of reading a text. -/
structure Lexer where
  cursor : Cursor
  tokens : Array Token := #[]
  /-- The columns of the open block collections, the innermost first. -/
  columns : List Nat := []
  /-- Whether a key may start here. -/
  keyAllowed : Bool := true
  /-- The candidate of the innermost level. -/
  candidate : Option KeyCandidate := none
  /-- The candidates of the levels around it. -/
  outer : List (Option KeyCandidate) := []

namespace Lexer

/-- Whether the lexer is inside of brackets. -/
def inFlow (lexer : Lexer) : Bool := !lexer.outer.isEmpty

/-- The column of the innermost block collection, -1 if there is none. -/
def indent (lexer : Lexer) : Int :=
  match lexer.columns with
  | [] => -1
  | column :: _ => column

def push (lexer : Lexer) (token : Token) : Lexer :=
  { lexer with tokens := lexer.tokens.push token }

/-- Puts a token where a key candidate is. -/
def insertAt (lexer : Lexer) (position : Nat) (token : Token) : Lexer :=
  { lexer with tokens := lexer.tokens.insertIdxIfInBounds position token }

/-! ## Block collections -/

/-- Opens a block collection at a column, unless one is open there or further right. -/
def openBlock (lexer : Lexer) (column position : Nat) (start : Token) : Lexer :=
  if lexer.inFlow || lexer.indent ≥ column then lexer
  else { lexer.insertAt position start with columns := column :: lexer.columns }

/-- Closes the block collections that lie right of a column. -/
def closeBlocks (lexer : Lexer) (column : Int) : Lexer :=
  if lexer.inFlow then lexer
  else
    let closed := lexer.columns.takeWhile fun (inner : Nat) => column < inner
    { lexer with
      columns := lexer.columns.drop closed.length
      tokens := lexer.tokens ++ Array.replicate closed.length Token.blockEnd }

/-! ## Key candidates -/

/-- Gives up the candidate of the innermost level, which fails if only a key can stand there. -/
def dropCandidate (lexer : Lexer) : Option Lexer :=
  match lexer.candidate with
  | some candidate => if candidate.required then none else some { lexer with candidate := none }
  | none => some lexer

/-- Notes that a key may start here. -/
def noteCandidate (lexer : Lexer) : Option Lexer :=
  if lexer.keyAllowed then
    lexer.dropCandidate.map fun lexer =>
      { lexer with
        candidate := some {
          required := !lexer.inFlow && lexer.indent == lexer.cursor.column
          position := lexer.tokens.size
          index := lexer.cursor.index
          line := lexer.cursor.line
          column := lexer.cursor.column } }
  else some lexer

/-- The number of characters that a key may take. -/
def maxKeyLength : Nat := 1024

/-- A candidate as it is seen from a cursor: gone if it lapsed.  It fails if it lapsed although only
a key can stand there. -/
def age (cursor : Cursor) : Option KeyCandidate → Option (Option KeyCandidate)
  | none => some none
  | some candidate =>
    if candidate.line < cursor.line || candidate.index + maxKeyLength < cursor.index then
      if candidate.required then none else some none
    else some (some candidate)

def ageCandidates (lexer : Lexer) : Option Lexer := do
  let candidate ← age lexer.cursor lexer.candidate
  let outer ← lexer.outer.mapM (age lexer.cursor)
  return { lexer with candidate, outer }

/-! ## Blanks -/

/-- Passes over a byte order mark at the start of a line.  It takes a column like any other
character. -/
def skipMark (cursor : Cursor) : Cursor :=
  if cursor.column == 0 && cursor.next == '\ufeff' then cursor.skip else cursor

/-- Passes over blanks, comments and line breaks.  In block context a key may start on a new line. -/
def skipBlanks (fuel : Nat) (lexer : Lexer) : Lexer :=
  match fuel with
  | 0 => lexer
  | fuel + 1 =>
    let tabs := lexer.inFlow || !lexer.keyAllowed
    let cursor := (skipMark lexer.cursor).skipWhile fun c => c == ' ' || (tabs && c == '\t')
    let cursor := if cursor.next == '#' then cursor.skipWhile (!isBreakOrEnd ·) else cursor
    if isBreak cursor.next then
      skipBlanks fuel
        { lexer with cursor := cursor.skipBreak, keyAllowed := lexer.keyAllowed || !lexer.inFlow }
    else { lexer with cursor }

/-! ## One token -/

/-- Adds a token that takes `width` characters and ends what could have become a key. -/
def mark (lexer : Lexer) (token : Token) (width : Nat) (keyAllowed : Bool) : Option Lexer := do
  let lexer ← lexer.dropCandidate
  return { lexer.push token with cursor := lexer.cursor.skip width, keyAllowed }

/-- Adds what a reader made of the text at the cursor; a key may start with it. -/
def node (lexer : Lexer) (read : Option (Token × Cursor)) : Option Lexer := do
  let lexer ← lexer.noteCandidate
  let (token, cursor) ← read
  return { lexer.push token with cursor, keyAllowed := false }

def documentMarker (lexer : Lexer) : Option Lexer :=
  let token := if lexer.cursor.next == '-' then Token.documentStart else Token.documentEnd
  (lexer.closeBlocks (-1)).mark token 3 false

def directive (lexer : Lexer) : Option Lexer := do
  let lexer ← (lexer.closeBlocks (-1)).dropCandidate
  let (token, cursor) ← Token.directive? lexer.cursor
  return { lexer.push token with cursor, keyAllowed := false }

def openBracket (lexer : Lexer) (token : Token) : Option Lexer := do
  let lexer ← lexer.noteCandidate
  return { lexer.push token with
    cursor := lexer.cursor.skip, keyAllowed := true
    candidate := none, outer := lexer.candidate :: lexer.outer }

def closeBracket (lexer : Lexer) (token : Token) : Option Lexer := do
  let lexer ← lexer.mark token 1 false
  match lexer.outer with
  | candidate :: outer => return { lexer with candidate, outer }
  | [] => return lexer

/-- Opens a block collection at the cursor.  In block context its first part must stand where a key
may. -/
def openBlockHere (lexer : Lexer) (start : Token) : Option Lexer :=
  if lexer.inFlow then some lexer
  else if !lexer.keyAllowed then none
  else some (lexer.openBlock lexer.cursor.column lexer.tokens.size start)

def entry (lexer : Lexer) : Option Lexer := do
  (← lexer.openBlockHere .blockSequenceStart).mark .blockEntry 1 true

def explicitKey (lexer : Lexer) : Option Lexer := do
  (← lexer.openBlockHere .blockMappingStart).mark .key 1 (!lexer.inFlow)

/-- A colon: it makes a key of the candidate, or else stands for itself. -/
def colon (lexer : Lexer) : Option Lexer :=
  match lexer.candidate with
  | some candidate =>
    let lexer := lexer.insertAt candidate.position .key
    let lexer := lexer.openBlock candidate.column candidate.position .blockMappingStart
    some { lexer.push .value with
      cursor := lexer.cursor.skip, candidate := none, keyAllowed := false }
  | none => do
    let lexer ← lexer.openBlockHere .blockMappingStart
    return { lexer.push .value with
      cursor := lexer.cursor.skip, keyAllowed := !lexer.inFlow }

def quoted (lexer : Lexer) (style : Style) : Option Lexer :=
  lexer.node ((Scalar.quoted? (style == .doubleQuoted) lexer.cursor).map fun (text, cursor) =>
    (.scalar style text, cursor))

def block (lexer : Lexer) (style : Style) : Option Lexer := do
  let lexer ← lexer.dropCandidate
  let (text, cursor) ← Scalar.block? (style == .folded) lexer.indent lexer.cursor
  return { lexer.push (.scalar style text) with cursor, keyAllowed := true }

def plain (lexer : Lexer) : Option Lexer := do
  let lexer ← lexer.noteCandidate
  let (text, broken, cursor) ← Scalar.plain? lexer.inFlow (lexer.indent + 1).toNat lexer.cursor
  return { lexer.push (.scalar .plain text) with cursor, keyAllowed := broken }

/-- Whether a plain scalar may start with the character at a cursor. -/
def startsPlain (inFlow : Bool) (cursor : Cursor) : Bool :=
  let c := cursor.next
  let indicator := "-?:,[]{}#&*!|>'\"%@\x60".toList.contains c
  (!isBlankOrEnd c && !indicator) || (c == '-' && !isBlank (cursor.ahead 1)) ||
    (!inFlow && (c == '?' || c == ':') && !isBlankOrEnd (cursor.ahead 1))

/-- Reads the token at the cursor, which is not at the end. -/
def token (lexer : Lexer) : Option Lexer :=
  let cursor := lexer.cursor
  let blankBehind := isBlankOrEnd (cursor.ahead 1)
  if cursor.column == 0 && cursor.next == '%' then lexer.directive
  else if cursor.atDocumentMarker then lexer.documentMarker
  else
    match cursor.next with
    | '[' => lexer.openBracket .flowSequenceStart
    | '{' => lexer.openBracket .flowMappingStart
    | ']' => lexer.closeBracket .flowSequenceEnd
    | '}' => lexer.closeBracket .flowMappingEnd
    | ',' => lexer.mark .flowEntry 1 true
    | '*' => lexer.node ((Token.anchorName? cursor).map fun (name, rest) => (.alias name, rest))
    | '&' => lexer.node ((Token.anchorName? cursor).map fun (name, rest) => (.anchor name, rest))
    | '!' => lexer.node (Token.tag? lexer.inFlow cursor)
    | '\'' => lexer.quoted .singleQuoted
    | '"' => lexer.quoted .doubleQuoted
    | c =>
      if c == '-' && blankBehind then lexer.entry
      else if c == '?' && (lexer.inFlow || blankBehind) then lexer.explicitKey
      else if c == ':' && (lexer.inFlow || blankBehind) then lexer.colon
      else if c == '|' && !lexer.inFlow then lexer.block .literal
      else if c == '>' && !lexer.inFlow then lexer.block .folded
      else if startsPlain lexer.inFlow cursor then lexer.plain
      else none

/-- Reads to the end of the text. -/
def run (fuel : Nat) (lexer : Lexer) : Option (Array Token) :=
  match fuel with
  | 0 => none
  | fuel + 1 =>
    match (lexer.skipBlanks (lexer.cursor.size + 1)).ageCandidates with
    | none => none
    | some lexer =>
      let lexer := lexer.closeBlocks lexer.cursor.column
      if lexer.cursor.rest.isEmpty then
        (lexer.closeBlocks (-1)).dropCandidate.map (·.tokens)
      else
        match lexer.token with
        | some lexer => run fuel lexer
        | none => none

end Lexer

namespace Token

/-- The tokens of a text, if it is well formed as far as tokens go. -/
def ofText? (text : String) : Option (Array Token) :=
  let chars := text.toList
  if chars.all isAllowed then Lexer.run (chars.length + 2) { cursor := { rest := chars } } else none

end Token
end TaskRunner.Yaml
