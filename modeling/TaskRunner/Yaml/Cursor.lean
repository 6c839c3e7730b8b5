/- # TaskRunner.Yaml.Cursor -- a place in a YAML text

Reading goes through a text once.  A cursor holds what is still to be read and says where that is:
the layout of YAML depends on columns, and a key without an explicit mark must end on the line it
started on.  Past the end of a text a cursor shows the null character, which no YAML text holds. -/

namespace TaskRunner.Yaml
set_option autoImplicit false

/-! ## Classes of characters -/

/-- A character that a YAML text may hold. -/
def isAllowed (c : Char) : Bool :=
  let n := c.toNat
  n == 0x09 || n == 0x0A || n == 0x0D || (0x20 ≤ n && n ≤ 0x7E) || n == 0x85 ||
    (0xA0 ≤ n && n ≤ 0xFFFD) || 0x10000 ≤ n

/-- The character that a cursor shows past the end. -/
def isEnd (c : Char) : Bool := c == '\x00'

def isBreak (c : Char) : Bool :=
  c == '\n' || c == '\r' || c == '\u0085' || c == '\u2028' || c == '\u2029'

def isBlank (c : Char) : Bool := c == ' ' || c == '\t'

def isBreakOrEnd (c : Char) : Bool := isBreak c || isEnd c

def isBlankOrEnd (c : Char) : Bool := isBlank c || isBreakOrEnd c

/-- A character of an anchor or of the handle of a tag. -/
def isWord (c : Char) : Bool := c.isAlphanum || c == '_' || c == '-'

/-- The text that a line break stands for: most breaks become a line feed, and the two separators of
Unicode stay what they are. -/
def breakText (c : Char) : String :=
  if c == '\u2028' || c == '\u2029' then c.toString
  else if isBreak c then "\n"
  else ""

/-! ## Cursors -/

/-- What is left of a text, and where it starts. -/
structure Cursor where
  rest : List Char
  /-- The length of the whole text, which bounds all that can be read of it. -/
  size : Nat := rest.length
  index : Nat := 0
  line : Nat := 0
  column : Nat := 0

namespace Cursor

/-- The character `k` places ahead. -/
def ahead (cursor : Cursor) (k : Nat) : Char := cursor.rest[k]?.getD '\x00'

/-- The next character. -/
def next (cursor : Cursor) : Char :=
  match cursor.rest with
  | [] => '\x00'
  | c :: _ => c

/-- Passes over `n` characters of one line. -/
def skip (cursor : Cursor) (n : Nat := 1) : Cursor :=
  { cursor with
    rest := cursor.rest.drop n, index := cursor.index + n, column := cursor.column + n }

/-- Passes over a line break, if the next character is one.  A carriage return and the line feed
after it are one break. -/
def skipBreak (cursor : Cursor) : Cursor :=
  match cursor.rest with
  | '\r' :: '\n' :: rest =>
    { cursor with rest, index := cursor.index + 2, line := cursor.line + 1, column := 0 }
  | c :: rest =>
    if isBreak c then
      { cursor with rest, index := cursor.index + 1, line := cursor.line + 1, column := 0 }
    else cursor
  | [] => cursor

/-- The characters up to the first that lies outside of a class. -/
def run (cursor : Cursor) (inside : Char → Bool) : List Char := cursor.rest.takeWhile inside

/-- Passes over the characters up to the first that lies outside of a class. -/
def skipWhile (cursor : Cursor) (inside : Char → Bool) : Cursor :=
  cursor.skip (cursor.run inside).length

/-- Whether three characters, and a blank after them, stand here. -/
def startsMarker (cursor : Cursor) (c : Char) : Bool :=
  cursor.ahead 0 == c && cursor.ahead 1 == c && cursor.ahead 2 == c && isBlankOrEnd (cursor.ahead 3)

/-- Whether a line starts here with `---` or `...`, which separate documents. -/
def atDocumentMarker (cursor : Cursor) : Bool :=
  cursor.column == 0 && (cursor.startsMarker '-' || cursor.startsMarker '.')

end Cursor
end TaskRunner.Yaml
