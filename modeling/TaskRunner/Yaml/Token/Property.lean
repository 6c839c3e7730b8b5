import TaskRunner.Yaml.Token
/- # TaskRunner.Yaml.Token.Property -- directives, anchors and tags

Readers for the tokens that say something about a document or about the node behind them.  Each
takes a cursor at the sign that introduces the token to the token and the place behind it, or to
nothing if it is malformed. -/

namespace TaskRunner.Yaml.Token
set_option autoImplicit false

/-! ## Anchors -/

/-- What may stand right behind the name of an anchor. -/
def endsAnchor (c : Char) : Bool :=
  isBlankOrEnd c || c == '?' || c == ':' || c == ',' || c == ']' || c == '}' || c == '%' ||
    c == '@' || c == '\x60'

/-- The name behind `*` or `&`. -/
def anchorName? (cursor : Cursor) : Option (String × Cursor) :=
  let cursor := cursor.skip
  let name := cursor.run isWord
  let cursor := cursor.skip name.length
  if name.isEmpty || !endsAnchor cursor.next then none else some (String.ofList name, cursor)

/-! ## Tags -/

/-- The punctuation of a tag; brackets and commas only where a tag is set off from what follows. -/
def isTagSign (brackets : Bool) (c : Char) : Bool :=
  ";/?:@&=+$.%!~*'()".toList.contains c || (brackets && (c == ',' || c == '[' || c == ']'))

/-- The two digits of an escape such as `%2F`, as a number. -/
def octet? (cursor : Cursor) : Option Nat := do
  if cursor.next != '%' then none
  else return (← Scalar.hexDigit? (cursor.ahead 1)) * 16 + (← Scalar.hexDigit? (cursor.ahead 2))

/-- The number of octets of a character, by the first of them. -/
def octetCount? (first : Nat) : Option Nat :=
  if first < 0x80 then some 1
  else if first / 0x20 == 6 then some 2
  else if first / 0x10 == 14 then some 3
  else if first / 8 == 30 then some 4
  else none

/-- The further octets of a character, each an escape. -/
def moreOctets (count code : Nat) (cursor : Cursor) : Option (Nat × Cursor) :=
  match count with
  | 0 => some (code, cursor)
  | count + 1 =>
    match octet? cursor with
    | some octet =>
      if octet / 0x40 == 2 then moreOctets count (code * 0x40 + octet % 0x40) (cursor.skip 3)
      else none
    | none => none

/-- The character that a run of escapes stands for. -/
def escapedChar? (cursor : Cursor) : Option (Char × Cursor) := do
  let first ← octet? cursor
  let count ← octetCount? first
  let leading := if count == 1 then first else first % (1 <<< (7 - count))
  let (code, cursor) ← moreOctets (count - 1) leading (cursor.skip 3)
  return (if code.isValidChar then Char.ofNat code else '\ufffd', cursor)

/-- Reads the characters of a tag. -/
def tagText (brackets : Bool) (fuel : Nat) (text : String) (cursor : Cursor) :
    Option (String × Cursor) :=
  match fuel with
  | 0 => none
  | fuel + 1 =>
    let c := cursor.next
    if !(isWord c || isTagSign brackets c) then some (text, cursor)
    else if c == '%' then
      match escapedChar? cursor with
      | some (char, cursor) => tagText brackets fuel (text.push char) cursor
      | none => none
    else tagText brackets fuel (text.push c) cursor.skip

/-- The characters of a tag, of which there is at least one. -/
def tagText? (brackets : Bool) (cursor : Cursor) : Option (String × Cursor) :=
  match tagText brackets (cursor.size + 1) "" cursor with
  | some (text, cursor) => if text.isEmpty then none else some (text, cursor)
  | none => none

/-- The handle of a tag: an exclamation mark, and word characters that another may close. -/
def handle? (cursor : Cursor) : Option (String × Cursor) :=
  if cursor.next != '!' then none
  else
    let word := cursor.skip.run isWord
    let after := cursor.skip (1 + word.length)
    if after.next == '!' then some (String.ofList ('!' :: word ++ ['!']), after.skip)
    else some (String.ofList ('!' :: word), after)

/-- The tag between `!<` and `>`. -/
def verbatimTag? (cursor : Cursor) : Option (Token × Cursor) := do
  let (text, cursor) ← tagText? true (cursor.skip 2)
  if cursor.next == '>' then return (.tag "" text, cursor.skip) else none

/-- A tag without angle brackets.  An exclamation mark alone is a tag of its own. -/
def shorthandTag? (cursor : Cursor) : Option (Token × Cursor) := do
  let (handle, after) ← handle? cursor
  if handle.length > 1 && handle.endsWith "!" then
    let (suffix, after) ← tagText? false after
    return (.tag handle suffix, after)
  else
    let after := cursor.skip
    let (suffix, after) ← tagText false (after.size + 1) "" after
    return (if suffix.isEmpty then .tag "" "!" else .tag "!" suffix, after)

/-- A tag, behind which a blank or, in a flow collection, a comma stands. -/
def tag? (flow : Bool) (cursor : Cursor) : Option (Token × Cursor) := do
  let (token, cursor) ←
    if cursor.ahead 1 == '<' then verbatimTag? cursor else shorthandTag? cursor
  if isBlankOrEnd cursor.next || (flow && cursor.next == ',') then return (token, cursor)
  else none

/-! ## Directives -/

/-- A number of the version of a document. -/
def versionNumber? (cursor : Cursor) : Option (Nat × Cursor) :=
  let digits := cursor.run Char.isDigit
  if digits.isEmpty || digits.length > 9 then none
  else
    some (digits.foldl (fun n c => n * 10 + (c.toNat - '0'.toNat)) 0, cursor.skip digits.length)

/-- The version behind `%YAML`. -/
def version? (cursor : Cursor) : Option (Token × Cursor) := do
  let (major, cursor) ← versionNumber? (cursor.skipWhile isBlank)
  if cursor.next != '.' then none
  else
    let (minor, cursor) ← versionNumber? cursor.skip
    return (.versionDirective major minor, cursor)

/-- The handle behind `%TAG` and what it stands for. -/
def tagDefinition? (cursor : Cursor) : Option (Token × Cursor) := do
  let (handle, cursor) ← handle? (cursor.skipWhile isBlank)
  if handle != "!" && !(handle.length > 1 && handle.endsWith "!") then none
  else if !isBlank cursor.next then none
  else
    let (start, cursor) ← tagText? true (cursor.skipWhile isBlank)
    if isBlankOrEnd cursor.next then return (.tagDirective handle start, cursor) else none

/-- A directive, with the rest of its line. -/
def directive? (cursor : Cursor) : Option (Token × Cursor) := do
  let cursor := cursor.skip
  let name := cursor.run isWord
  let cursor := cursor.skip name.length
  if !isBlankOrEnd cursor.next then none
  else
    let (token, cursor) ← match String.ofList name with
      | "YAML" => version? cursor
      | "TAG" => tagDefinition? cursor
      | _ => none
    return (token, ← Scalar.restOfLine cursor)

end TaskRunner.Yaml.Token
