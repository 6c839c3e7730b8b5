import TaskRunner.Shell.Reader.Source
/- # TaskRunner.Shell.Reader.Word -- reading words

A word is read part by part.  What the parts are depends on where they stand, which is a `Context`:
inside of quotes fewer characters have a meaning of their own than outside, and other characters end
what is read. -/

namespace TaskRunner.Shell.Reader
set_option autoImplicit false

variable (grammar : Grammar)

/-- Joins a text to the parts read before it, the last first. -/
def addText (quoted : Bool) (octets : Octets) (parts : List Part) : List Part :=
  match parts with
  | .text other before :: rest =>
    if other == quoted then .text quoted (before ++ octets) :: rest
    else .text quoted octets :: parts
  | _ => .text quoted octets :: parts

/-! ## Quotes -/

/-- The inside of backquotes, with the backslashes that keep its signs apart taken away. -/
def backquoted (quoted : Bool) (fuel : Nat) (read : Octets) : Read Octets := do
  match fuel, (← get).rest with
  | _ + 1, '\x60' :: _ =>
    Read.skip
    return read.reverse
  | fuel + 1, '\\' :: c :: _ =>
    if c == '$' || c == '\x60' || c == '\\' || (quoted && c == '"') then
      Read.skip 2
      backquoted quoted fuel (c :: read)
    else
      Read.skip
      backquoted quoted fuel ('\\' :: read)
  | fuel + 1, c :: _ =>
    Read.skip
    backquoted quoted fuel (c :: read)
  | _, _ => Read.fault .openBackquote

/-- The octets that encode the character of a number. -/
def encoded (n : Nat) : Octets := Octets.ofText (String.ofList [Char.ofNat n])

/-- The inside of quotes in which backslashes stand for other characters as well, without the
closing quote. -/
def escaped (fuel : Nat) (read : Octets) : Read Octets := do
  let number (lead : Nat) (digits : Octets) (octets : Octets) : Read Octets := do
    Read.skip (lead + digits.length)
    return octets.reverse ++ read
  match fuel, (← get).rest with
  | fuel + 1, '\\' :: c :: rest =>
    let letters : List (Char × Char) := [('a', '\x07'), ('b', '\x08'), ('e', '\x1b'), ('E', '\x1b'),
      ('f', '\x0c'), ('n', '\n'), ('r', '\r'), ('t', '\t'), ('v', '\x0b'), ('\\', '\\'),
      ('\'', '\''), ('"', '"'), ('?', '?')]
    let hex (n : Nat) : Octets := (rest.take n).takeWhile fun c => (Octets.hexDigit? c).isSome
    match letters.lookup c with
    | some d =>
      Read.skip 2
      escaped fuel (d :: read)
    | none =>
      if Octets.isOctal c then
        let digits := ((c :: rest).take 3).takeWhile Octets.isOctal
        escaped fuel (← number 1 digits [Char.ofNat (Octets.octalValue digits % 256)])
      else if c == 'x' && !(hex 2).isEmpty then
        escaped fuel (← number 2 (hex 2) [Char.ofNat (Octets.hexValue (hex 2))])
      else if c == 'u' && !(hex 4).isEmpty then
        escaped fuel (← number 2 (hex 4) (encoded (Octets.hexValue (hex 4))))
      else if c == 'U' && !(hex 8).isEmpty then
        escaped fuel (← number 2 (hex 8) (encoded (Octets.hexValue (hex 8))))
      else
        Read.skip 2
        escaped fuel (c :: '\\' :: read)
  | _ + 1, '\'' :: _ =>
    Read.skip
    return read.reverse
  | fuel + 1, c :: _ =>
    Read.skip
    escaped fuel (c :: read)
  | _, _ => Read.fault (.openQuote '\'')

/-! ## Parameters -/

/-- A parameter that is named by a sign. -/
def isSpecial (c : Char) : Bool := "@*#?-$!".toList.contains c

/-- The name of a parameter in brackets, empty if there is none. -/
def bracketedName : Read Octets := do
  match (← get).next? with
  | none => return []
  | some c =>
    if isNameStart c then Read.takeWhile isNameChar
    else if c.isDigit then Read.takeWhile Char.isDigit
    else if isSpecial c then
      Read.skip
      return [c]
    else return []

/-- Passes over what is left of a parameter that cannot be understood. -/
def malformed : Read Part := do
  let _ ← grammar.parts (.braces false false ['\x7d'])
  Read.skip
  return .malformed

/-- The closing bracket of a parameter. -/
def close (part : Part) : Read Part := do
  if (← get).next? == some '\x7d' then
    Read.skip
    return part
  else malformed grammar

/-- An operator in front of a word; a colon in front of it counts empty values as unset. -/
def defaultOperation? (source : Source) : Option ((List Part → Operation) × Nat) :=
  let colon := source.next? == some ':'
  let sign := if colon then source.rest[1]? else source.next?
  let size := if colon then 2 else 1
  match sign with
  | some '-' => some (.default colon, size)
  | some '=' => some (.assign colon, size)
  | some '?' => some (.demand colon, size)
  | some '+' => some (.alternative colon, size)
  | _ => none

/-- An operator of the extended dialect on a parameter. -/
def extendedOperation (quoted : Bool) : Read (Option Operation) := do
  let upTo (pattern : Bool) (ends : List Char) : Read (List Part) :=
    grammar.parts (.braces quoted pattern ends)
  let source ← get
  if source.startsWith ":" then
    Read.skip
    let ends := [':', '\x7d']
    let offset ← grammar.parts (.calculation .extended ends "\x7d")
    if ← Read.accept ":" then
      return some (.slice offset true (← grammar.parts (.calculation .extended ends "\x7d")))
    else return some (.slice offset false [])
  else if source.startsWith "/" then
    let place ←
      if ← Read.accept "//" then pure ReplacePlace.every
      else if ← Read.accept "/#" then pure ReplacePlace.start
      else if ← Read.accept "/%" then pure ReplacePlace.finish
      else do
        Read.skip
        pure ReplacePlace.first
    let pattern ← upTo true ['/', '\x7d']
    let replacement ← if ← Read.accept "/" then upTo false ['\x7d'] else pure []
    return some (.replace place pattern replacement)
  else
    let recased (upper every : Bool) (size : Nat) : Read (Option Operation) := do
      Read.skip size
      return some (.recase upper every (← upTo true ['\x7d']))
    if source.startsWith "^^" then recased true true 2
    else if source.startsWith "^" then recased true false 1
    else if source.startsWith ",," then recased false true 2
    else if source.startsWith "," then recased false false 1
    else
      match source.rest with
      | '@' :: letter :: '\x7d' :: _ =>
        Read.skip 2
        return some (.transform letter)
      | _ => return none

/-- The operation on a parameter, from behind its name to behind the closing bracket. -/
def operation (quoted : Bool) (subject : Subject) : Read Part := do
  let finish (operation : Operation) : Read Part :=
    close grammar (.parameter quoted subject operation)
  let source ← get
  if source.startsWith "\x7d" then finish .plain
  else
    match defaultOperation? source with
    | some (make, size) =>
      Read.skip size
      finish (make (← grammar.parts (.braces quoted false ['\x7d'])))
    | none =>
      let drop (fromEnd : Bool) (sign : Char) : Read Part := do
        let longest := source.rest[1]? == some sign
        Read.skip (if longest then 2 else 1)
        finish (.drop fromEnd longest (← grammar.parts (.braces quoted true ['\x7d'])))
      match source.next? with
      | some '#' => drop false '#'
      | some '%' => drop true '%'
      | _ =>
        if source.dialect == .extended then
          match ← extendedOperation grammar quoted with
          | some operation => finish operation
          | none => malformed grammar
        else malformed grammar

/-- The index behind a name, empty if there is none. -/
def indexOf : Read (List Part) := do
  let source ← get
  if source.dialect == .extended && source.startsWith "[" then
    Read.skip
    let index ← grammar.parts .index
    Read.skip
    return index
  else return []

/-- A parameter in curly brackets, behind the opening one. -/
def bracketed (quoted : Bool) : Read Part := do
  let source ← get
  if source.rest.isEmpty then Read.fault (.openBracket "\x7d")
  let counts := match source.rest with
    | '#' :: c :: rest =>
      c != '\x7d' && (isNameChar c || (isSpecial c && rest.head? == some '\x7d'))
    | _ => false
  let indirect := source.dialect == .extended &&
    match source.rest with
    | '!' :: c :: _ => isNameChar c || c == '@' || c == '*' || c == '#'
    | _ => false
  if counts || indirect then Read.skip
  let name ← bracketedName
  if name.isEmpty then malformed grammar
  else
    let index ← indexOf grammar
    if counts then close grammar (.parameter quoted (.mk name false index) .length)
    else if indirect then
      let source ← get
      if source.startsWith "@\x7d" || source.startsWith "*\x7d" then
        let joined := source.startsWith "*"
        Read.skip
        close grammar (.parameter quoted (.mk name joined index) .names)
      else if source.startsWith "\x7d" &&
          (index matches [.text _ ['@']] || index matches [.text _ ['*']]) then
        close grammar (.parameter quoted (.mk name false index) .keys)
      else operation grammar quoted (.mk name true index)
    else operation grammar quoted (.mk name false index)

/-! ## Dollar signs -/

/-- A list of commands in round brackets, behind the opening one. -/
def commandInBrackets : Read Command := do
  let body ← grammar.commands true
  Read.expect ")"
  return body

/-- A calculation in double brackets, behind the opening ones. -/
def calculation : Read (List Part) := do
  let expression ← grammar.parts (.calculation (← get).dialect [')'] "))")
  if ← Read.accept "))" then return expression else Read.fault (.openBracket "))")

/-- What a dollar sign introduces, behind it. -/
def dollar (quoted : Bool) : Read Part := do
  let source ← get
  match source.rest with
  | '(' :: '(' :: _ =>
    if source.dialect == .extended then
      match (do Read.skip 2; calculation grammar : Read (List Part)) source with
      | .ok (expression, after) =>
        set after
        return .arithmetic quoted expression
      | .error _ =>
        Read.skip
        return .command quoted (← commandInBrackets grammar)
    else
      Read.skip 2
      return .arithmetic quoted (← calculation grammar)
  | '(' :: _ =>
    Read.skip
    return .command quoted (← commandInBrackets grammar)
  | '{' :: _ =>
    Read.skip
    bracketed grammar quoted
  | '\'' :: _ =>
    if source.dialect == .extended && !quoted then
      Read.skip
      return .text true (← escaped (← Read.size) [])
    else return .text quoted ['$']
  | '"' :: _ =>
    return if source.dialect == .extended && !quoted then .text true [] else .text quoted ['$']
  | c :: _ =>
    if isNameStart c then
      return .parameter quoted (.mk (← Read.takeWhile isNameChar) false []) .plain
    else if c.isDigit || isSpecial c then
      Read.skip
      return .parameter quoted (.mk [c] false []) .plain
    else return .text quoted ['$']
  | [] => return .text quoted ['$']

/-- The commands in backquotes, behind the first of them. -/
def backquotedCommand (quoted : Bool) : Read Command := do
  let before ← get
  let inside ← backquoted quoted (← Read.size) []
  let nested : Source := { before with rest := inside, guards := [] }
  match grammar.commands true nested with
  | .ok (body, after) =>
    if after.lines.rest.isEmpty then return body
    else throw ⟨after.line, .unexpected after.token ""⟩
  | .error mistake => throw mistake

/-! ## Parts -/

/-- Whether a sign and the bracket behind it start a pattern of several texts. -/
def startsChoice (source : Source) : Bool :=
  match source.rest with
  | c :: '(' :: _ => source.dialect == .extended && "?*+@!".toList.contains c
  | _ => false

/-- Whether a process whose pipe stands for a word starts here. -/
def startsProcess (source : Source) : Bool :=
  source.dialect == .extended && (source.startsWith "<(" || source.startsWith ">(")

/-- Reads parts up to their end; `depth` brackets are open. -/
def partsFrom (context : Context) (fuel depth : Nat) (read : List Part) : Read (List Part) := do
  match fuel with
  | 0 => Read.unexpected
  | fuel + 1 =>
    let source ← get
    let quoted := context.quoted
    let add (octets : Octets) (isQuoted : Bool) (size depth : Nat) : Read (List Part) := do
      Read.skip size
      partsFrom context fuel depth (addText isQuoted octets read)
    match source.rest with
    | [] =>
      match context.missing with
      | none => return read.reverse
      | some fault => Read.fault fault
    | c :: rest =>
      if depth == 0 && context.ends c && !(quoted == false && startsProcess source) then
        return read.reverse
      else if c == '\\' then
        match rest with
        | '\n' :: _ =>
          Read.skip 2
          partsFrom context fuel depth read
        | d :: _ =>
          if context.escapes d then add [d] true 2 depth else add ['\\', d] true 2 depth
        | [] => add ['\\'] true 1 depth
      else if c == '\'' && context.singleQuotes then
        let inside := rest.takeWhile (· != '\'')
        if inside.length == rest.length then
          Read.skip (rest.length + 1)
          Read.fault (.openQuote '\'')
        else add inside true (inside.length + 2) depth
      else if c == '"' && context.doubleQuotes != .plain then
        Read.skip
        if context.doubleQuotes == .dropped then partsFrom context fuel depth read
        else
          let inside ← grammar.parts .quotes
          Read.skip
          -- Parts in quotes show by themselves that they are there, but nothing does not.
          partsFrom context fuel depth
            (if inside.isEmpty then addText true [] read else inside.reverse ++ read)
      else if c == '$' then
        Read.skip
        let part ← dollar grammar quoted
        partsFrom context fuel depth (match part with
          | .text isQuoted octets => addText isQuoted octets read
          | part => part :: read)
      else if c == '\x60' then
        Read.skip
        let part := Part.command quoted (← backquotedCommand grammar quoted)
        partsFrom context fuel depth (part :: read)
      else if !quoted && startsProcess source then
        Read.skip 2
        let part := Part.process (c == '<') (← commandInBrackets grammar)
        partsFrom context fuel depth (part :: read)
      else if !quoted && context.brackets.isNone && startsChoice source then
        add [c, '('] false 2 (depth + 1)
      else
        let depth := match context.brackets with
          | some (opening, closing) =>
            if c == opening then depth + 1 else if c == closing then depth - 1 else depth
          | none => if c == ')' then depth - 1 else depth
        add [c] quoted 1 depth

/-- Reads parts up to their end. -/
def parts (context : Context) : Read (List Part) := do
  partsFrom grammar context (← Read.size) 0 []

/-- Reads a word, of which there is at least one character. -/
def word : Read Word := do
  let source ← get
  match source.next? with
  | none => Read.unexpected
  | some c =>
    if Source.endsWord c && !startsProcess source then Read.unexpected
    else grammar.parts .word

end TaskRunner.Shell.Reader
