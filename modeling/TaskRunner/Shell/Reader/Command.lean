import TaskRunner.Shell.Reader.Word
/- # TaskRunner.Shell.Reader.Command -- reading commands

A command is read from its first word on, which says what kind of command it is.  Commands follow one
another in lists; a list ends at a word or a sign that cannot start a command. -/

namespace TaskRunner.Shell.Reader
set_option autoImplicit false

variable (grammar : Grammar)

/-! ## Redirections -/

/-- The lines of a document up to its mark, the text behind the line of the mark, and how many lines
were taken. -/
def documentLines (fuel : Nat) (indented : Bool) (mark read : Octets) (count : Nat)
    (rest : Octets) : Octets × Octets × Nat :=
  match fuel with
  | 0 => (read, rest, count)
  | fuel + 1 =>
    let line := rest.takeWhile (· != '\n')
    let after := rest.drop (line.length + 1)
    let text := if indented then line.dropWhile (· == '\t') else line
    if rest.isEmpty then (read, [], count)
    else if text == mark then (read, after, count + 1)
    else if line.length == rest.length then (read ++ text, after, count + 1)
    else documentLines fuel indented mark (read ++ text ++ ['\n']) (count + 1) after

/-- The text that the parts of a mark write, without their quotes. -/
def markText (parts : List Part) : Octets :=
  parts.flatMap fun
    | .text _ octets => octets
    | .parameter _ (.mk name _ _) _ => '$' :: name
    | _ => []

def hasQuotes (parts : List Part) : Bool :=
  parts.any fun
    | .text quoted _ => quoted
    | _ => false

/-- Reads the mark of a document, and the document, which begins on the next line and is taken out of
the source. -/
def document (indented : Bool) : Read (List Part) := do
  Read.blanks
  let mark ← word grammar
  let source ← get
  let before := source.rest.takeWhile (· != '\n')
  let behind := source.rest.drop (before.length + 1)
  -- The lines of documents in front of this one.
  let taken := behind.takeWhile (· == Source.placeholder)
  let behind := behind.drop taken.length
  let (body, rest, count) :=
    documentLines (behind.length + 1) indented (markText mark) [] 0 behind
  -- In the extended dialect every line of a document is complete.
  let isOpen := source.dialect == .extended && !body.isEmpty && body.getLast? != some '\n'
  let body := if isOpen then body ++ ['\n'] else body
  let gap := taken ++ List.replicate count Source.placeholder
  let hasBreak := before.length < source.rest.length
  set { source with rest := before ++ (if hasBreak then '\n' :: gap ++ rest else []) }
  if hasQuotes mark then return [.text true body]
  else
    match grammar.parts .document { source with rest := body, line := source.line + 1 + taken.length } with
    | .ok (parts, _) => return parts
    | .error mistake => throw mistake

/-- The operators that redirect, with the stream that they are about by themselves; of two that start
alike the longer comes first. -/
def redirections (extended : Bool) : List (String × Nat × RedirectKind) :=
  (if extended then [("&>>", 1, .all true), ("&>", 1, .all false), ("<<<", 0, .text)] else []) ++
    [("<&", 0, .copy true), (">&", 1, .copy false), (">>", 1, .append), (">|", 1, .overwrite),
      ("<>", 0, .both), ("<", 0, .input), (">", 1, .output)]

/-- The number, or the variable in brackets, in front of a redirection, and its length. -/
def streamBefore (source : Source) : Option (Nat × Octets) × Nat :=
  let digits := source.rest.takeWhile Char.isDigit
  let isRedirection (n : Nat) : Bool := match source.rest[n]? with
    | some c => c == '<' || c == '>'
    | none => false
  if !digits.isEmpty && (digits.length == 1 || source.dialect == .extended) &&
      isRedirection digits.length then
    (some (Octets.digitsValue digits, []), digits.length)
  else
    match source.rest with
    | '{' :: rest =>
      let name := rest.takeWhile isNameChar
      if source.dialect == .extended && isName name && rest[name.length]? == some '\x7d' &&
          isRedirection (name.length + 2) then
        (some (0, name), name.length + 2)
      else (none, 0)
    | _ => (none, 0)

/-- Reads a redirection, if one comes next. -/
def redirect? : Read (Option Redirect) := do
  Read.blanks
  let source ← get
  let (stream, size) := streamBefore source
  let after := source.skip size
  match (redirections (source.dialect == .extended)).find? fun entry => after.startsWith entry.1 with
  | none => return none
  | some (sign, own, kind) =>
    if startsProcess after then return none
    else
      let (number, holder) := stream.getD (own, [])
      if after.startsWith "<<" && kind != .text then
        let indented := after.startsWith "<<-"
        set (after.skip (if indented then 3 else 2))
        let (number, holder) := stream.getD (0, [])
        return some (.mk number holder .document (← document grammar indented))
      else
        set (after.skip sign.length).blanks
        return some (.mk number holder kind (← word grammar))

/-- Reads the redirections behind a command. -/
def redirects (fuel : Nat) (read : List Redirect) : Read (List Redirect) := do
  match fuel with
  | 0 => return read.reverse
  | fuel + 1 =>
    match ← redirect? grammar with
    | none => return read.reverse
    | some one => redirects fuel (one :: read)

/-- A command with the redirections behind it. -/
def redirected (line : Nat) (body : Command) : Read Command := do
  let found ← redirects grammar (← Read.size) []
  return if found.isEmpty then body else .redirected line body found

/-- The subshell that a group consists of, without the redirections behind it. -/
def loneSubshell? (fuel : Nat) (body : Command) : Option Command :=
  match fuel, body with
  | fuel + 1, .sequence [one] => loneSubshell? fuel one
  | _, .subshell inner | _, .redirected _ (.subshell inner) _ => some (.subshell inner)
  | _, _ => none

/-- A group with the redirections behind it.  In the plain dialect they take the place of those behind
a subshell that is all there is in the group. -/
def redirectedGroup (line : Nat) (body : Command) : Read Command := do
  let found ← redirects grammar (← Read.size) []
  let extended := (← get).dialect == .extended
  let inner := if extended then body else (loneSubshell? 100 body).getD body
  return if found.isEmpty then body else .redirected line inner found

/-! ## Simple commands -/

/-- The length of an index in brackets. -/
def indexSize (fuel depth : Nat) (size : Nat) (text : Octets) : Option Nat :=
  match fuel, text with
  | fuel + 1, '[' :: rest => indexSize fuel (depth + 1) (size + 1) rest
  | fuel + 1, ']' :: rest =>
    if depth ≤ 1 then some (size + 1) else indexSize fuel (depth - 1) (size + 1) rest
  | fuel + 1, c :: rest => if c == '\n' then none else indexSize fuel depth (size + 1) rest
  | _, _ => none

/-- Where an assignment starts: its name, whether it has an index, whether it appends, and the length
of the sign. -/
def assignmentStart? (source : Source) : Option (Octets × Bool × Bool) :=
  let name := source.rest.takeWhile isNameChar
  let behind := source.rest.drop name.length
  let extended := source.dialect == .extended
  if !isName name then none
  else
    match behind with
    | '=' :: _ => some (name, false, false)
    | '+' :: '=' :: _ => if extended then some (name, false, true) else none
    | '[' :: _ =>
      if !extended then none
      else
        match indexSize behind.length 0 0 behind with
        | none => none
        | some size =>
          match behind.drop size with
          | '=' :: _ => some (name, true, false)
          | '+' :: '=' :: _ => some (name, true, true)
          | _ => none
    | _ => none

/-- Reads the elements of an array up to the closing bracket. -/
def elements (fuel : Nat) (read : List Element) : Read (List Element) := do
  match fuel with
  | 0 => Read.unexpected
  | fuel + 1 =>
    Read.lines
    if ← Read.accept ")" then return read.reverse
    else
      let source ← get
      let hasIndex := match source.rest with
        | '[' :: _ =>
          match indexSize source.rest.length 0 0 source.rest with
          | some size => source.rest[size]? == some '='
          | none => false
        | _ => false
      if hasIndex then
        Read.skip
        let index ← grammar.parts .index
        Read.skip 2
        let value ← grammar.parts .word
        elements fuel (.mk index value :: read)
      else
        elements fuel (.mk [] (← word grammar) :: read)

/-- Reads an assignment that starts here. -/
def assignment (name : Octets) (hasIndex appends : Bool) : Read Assignment := do
  Read.skip name.length
  let index ← if hasIndex then do
      Read.skip
      let index ← grammar.parts .index
      Read.skip
      pure index
    else pure []
  Read.skip (if appends then 2 else 1)
  if (← Read.isExtended) && (← get).startsWith "(" then
    Read.skip
    return .mk name index appends [] true (← elements grammar (← Read.size) [])
  else return .mk name index appends (← grammar.parts .word) false []

/-- The commands behind which arrays can be assigned. -/
def declarers : List String := ["declare", "typeset", "local", "export", "readonly"]

/-- What has been read of a simple command, the last first. -/
structure Simple where
  assignments : List Assignment := []
  words : List Word := []
  redirects : List Redirect := []
  declared : List Assignment := []

/-- Whether a command is one behind which arrays can be assigned. -/
def Simple.declares (simple : Simple) : Bool :=
  match simple.words.getLast? with
  | some [.text false name] => declarers.any (·.toList == name)
  | _ => false

/-- Whether the elements of an array are assigned behind a name. -/
def assignsArray (source : Source) : Bool :=
  match assignmentStart? source with
  | some (name, false, appends) =>
    source.dialect == .extended &&
      source.rest[name.length + (if appends then 2 else 1)]? == some '('
  | _ => false

/-- Reads a command that is not compound. -/
def simple (line : Nat) (fuel : Nat) (read : Simple) : Read Command := do
  match fuel with
  | 0 => Read.unexpected
  | fuel + 1 =>
    Read.blanks
    match ← redirect? grammar with
    | some one => simple line fuel { read with redirects := one :: read.redirects }
    | none =>
      let source ← get
      let finished := match source.next? with
        | none => true
        | some c => Source.endsWord c && !startsProcess source
      if finished then
        if read.assignments.isEmpty && read.words.isEmpty && read.redirects.isEmpty then
          Read.unexpected
        else
          return .simple line read.assignments.reverse read.words.reverse read.redirects.reverse
            read.declared.reverse
      else
        match if read.words.isEmpty then assignmentStart? source else none with
        | some (name, hasIndex, appends) =>
          let one ← assignment grammar name hasIndex appends
          simple line fuel { read with assignments := one :: read.assignments }
        | none =>
          if read.declares && assignsArray source then
            let name := source.rest.takeWhile isNameChar
            let appends := source.rest[name.length]? == some '+'
            let one ← assignment grammar name false appends
            simple line fuel { read with
              words := [.text false name] :: read.words, declared := one :: read.declared }
          else
            let one ← word grammar
            simple line fuel { read with words := one :: read.words }

/-! ## Compound commands -/

/-- The words behind `in`. -/
def words (fuel : Nat) (read : List Word) : Read (List Word) := do
  match fuel with
  | 0 => return read.reverse
  | fuel + 1 =>
    Read.blanks
    match (← get).token with
    | .word _ => words fuel ((← word grammar) :: read)
    | .sign text =>
      if text.head?.any Source.endsWord then return read.reverse
      else words fuel ((← word grammar) :: read)
    | _ => return read.reverse

/-- The body of a loop. -/
def loopBody : Read Command := do
  Read.lines
  if ← (Read.isExtended <&&> Read.acceptWord "\x7b") then
    let body ← grammar.commands false
    Read.expectWord "\x7d"
    return body
  else
    Read.expectWord "do"
    let body ← grammar.commands false
    Read.expectWord "done"
    return body

/-- A loop that counts, behind its two opening brackets. -/
def countedLoop (line : Nat) : Read Command := do
  let part (ends : List Char) : Read (List Part) := grammar.parts (.calculation .extended ends "))")
  let start ← part [';']
  Read.skip
  let condition ← part [';']
  Read.skip
  let step ← part [')']
  Read.expect "))"
  Read.blanks
  let _ ← Read.accept ";"
  return .counted line start condition step (← loopBody grammar)

/-- A loop over words, behind `for`. -/
def forLoop (line : Nat) : Read Command := do
  Read.blanks
  if ← (Read.isExtended <&&> Read.accept "((") then countedLoop grammar line
  else
    let name := (← get).peekWord
    if !isName name then
      if (← get).token matches .word _ then Read.fault (.loopVariable name) else
        Read.fault (.loopVariable [])
    Read.skip name.length
    let before ← get
    Read.lines
    if ← Read.acceptWord "in" then
      let found ← words grammar (← Read.size) []
      Read.blanks
      if !(← Read.accept ";") && (← get).next? != some '\n' then Read.unexpected
      return .each line name true found (← loopBody grammar)
    else
      set before
      Read.blanks
      let _ ← Read.accept ";"
      return .each line name false [] (← loopBody grammar)

/-- The patterns of a branch, up to the bracket behind them. -/
def patterns (fuel : Nat) (read : List Word) : Read (List Word) := do
  match fuel with
  | 0 => Read.unexpected
  | fuel + 1 =>
    Read.blanks
    let one ← word grammar
    Read.blanks
    if ← Read.accept "|" then patterns fuel (one :: read)
    else
      Read.expect ")"
      return (one :: read).reverse

/-- The branches up to `esac`. -/
def branches (fuel : Nat) (read : List Branch) : Read (List Branch) := do
  match fuel with
  | 0 => Read.unexpected
  | fuel + 1 =>
    Read.lines
    if ← Read.acceptWord "esac" then return read.reverse
    else
      if (← get).rest.isEmpty then Read.unexpected
      let _ ← Read.accept "("
      let found ← patterns grammar (← Read.size) []
      let body ← grammar.commands true
      let extended ← Read.isExtended
      let finish ←
        if ← (pure extended <&&> Read.accept ";;&") then pure (some BranchEnd.test)
        else if ← Read.accept ";;" then pure (some BranchEnd.leave)
        else if ← (pure extended <&&> Read.accept ";&") then pure (some BranchEnd.continue)
        else pure none
      match finish with
      | some finish => branches fuel (.mk found body finish :: read)
      | none =>
        if ← Read.acceptWord "esac" then return (.mk found body .leave :: read).reverse
        else Read.unexpected "\";;\""

/-- A choice by patterns, behind `case`. -/
def choiceByPatterns (line : Nat) : Read Command := do
  Read.blanks
  let subject ← word grammar
  Read.lines
  Read.expectWord "in"
  return .cases line subject (← branches grammar (← Read.size) [])

/-- A choice, from its condition on. -/
def condition : Read Command := do
  let condition ← grammar.commands false
  Read.expectWord "then"
  let yes ← grammar.commands false
  if ← Read.acceptWord "elif" then return .choice condition yes (← grammar.condition)
  else if ← Read.acceptWord "else" then
    let no ← grammar.commands false
    Read.expectWord "fi"
    return .choice condition yes no
  else
    Read.expectWord "fi"
    return .choice condition yes (.sequence [])

/-- What follows the name of a function and its brackets. -/
def functionBody (name : Octets) : Read Command := do
  Read.lines
  return .function name (← grammar.command)

/-! ## Conditions in double brackets -/

/-- The operators on one word. -/
def isUnaryTest (word : Octets) : Bool :=
  match word with
  | ['-', c] => "abcdefghknoprstuvwxzGLNORS".toList.contains c
  | _ => false

/-- The operators between two words. -/
def testOperators : List String := ["==", "=~", "!=", "=", "<", ">", "-eq", "-ne", "-lt", "-le",
  "-gt", "-ge", "-nt", "-ot", "-ef"]

/-- A condition that is not made up of others. -/
def testTerm (fuel : Nat) : Read Test := do
  match fuel with
  | 0 => Read.unexpected
  | fuel + 1 =>
    Read.lines
    let source ← get
    if source.peekWord == ['!'] then
      Read.skip
      return .not (← testTerm fuel)
    else if source.startsWith "(" then
      Read.skip
      let inside ← grammar.test
      Read.lines
      Read.expect ")"
      return inside
    else if isUnaryTest source.peekWord &&
        !((source.skip 2).blanks.startsWith "]]" || (source.skip 2).blanks.startsWith "&&" ||
          (source.skip 2).blanks.startsWith "||") then
      Read.skip 2
      Read.blanks
      return .unary source.peekWord (← word grammar)
    else
      let left ← word grammar
      Read.blanks
      let source ← get
      let isHere (operator : String) : Bool :=
        if operator.startsWith "-" then source.peekWord == operator.toList
        else source.startsWith operator
      match if source.startsWith "]]" then none else testOperators.find? isHere with
      | none => return .word left
      | some operator =>
        Read.skip operator.length
        Read.blanks
        let right ← if operator == "=~" then grammar.parts .expression else word grammar
        return .binary operator.toList left right

/-- Conditions that are to hold together. -/
def testAll (fuel : Nat) : Read Test := do
  match fuel with
  | 0 => Read.unexpected
  | fuel + 1 =>
    let first ← testTerm grammar (← Read.size)
    Read.lines
    if ← Read.accept "&&" then return .and first (← testAll fuel) else return first

/-- Conditions one of which is to hold. -/
def testAny (fuel : Nat) : Read Test := do
  match fuel with
  | 0 => Read.unexpected
  | fuel + 1 =>
    let first ← testAll grammar (← Read.size)
    Read.lines
    if ← Read.accept "||" then return .or first (← testAny fuel) else return first

def test : Read Test := do testAny grammar (← Read.size)

/-! ## Commands -/

/-- Puts the text for which a name stands in its place, and likewise for the word behind a text that
ends in a blank. -/
def expandAliases (fuel : Nat) : Read Unit := do
  match fuel with
  | 0 => return ()
  | fuel + 1 =>
    Read.blanks
    let source ← get
    if source.aliases.isEmpty then return ()
    let name := source.peekWord
    let after := source.rest.length - name.length
    let guarded := source.guards.any fun (other, left) => other == name && left ≤ after
    match if guarded then none else source.aliases[name]? with
    | none => return ()
    | some text =>
      let behind := source.rest.drop name.length
      let guards := (name, behind.length) :: source.guards.filter fun (_, left) => left ≤ after
      let endsBlank := text.getLast?.any fun c => c == ' ' || c == '\t'
      let behind := if endsBlank then
          let next := { source with rest := behind }.blanks
          match source.aliases[next.peekWord]? with
          | some other => ' ' :: other ++ next.rest.drop next.peekWord.length
          | none => behind
        else behind
      set { source with rest := text ++ behind, guards }
      expandAliases fuel

/-- Whether a name may be that of a function. -/
def isFunctionName (dialect : Dialect) (name : Octets) : Bool :=
  isName name || (dialect == .extended && !name.isEmpty &&
    !name.any fun c => "$\"'\x60\\\x7b\x7d".toList.contains c)

/-- Reads a command, compound or simple. -/
def command : Read Command := do
  Read.blanks
  expandAliases 64
  let source ← get
  let line := source.line
  let extended := source.dialect == .extended
  if extended && source.startsWith "((" then
    match (do Read.skip 2; calculation grammar : Read (List Part)) source with
    | .ok (expression, after) =>
      set after
      return ← redirected grammar line (.calculation line expression)
    | .error _ => pure ()
  if ← Read.accept "(" then
    let body ← grammar.commands false
    Read.expect ")"
    redirected grammar line (.subshell body)
  else
    let opening := String.ofList source.peekWord
    let behind := source.skip opening.length
    match opening with
    | "\x7b" =>
      set behind
      let body ← grammar.commands false
      Read.expectWord "\x7d"
      redirectedGroup grammar line body
    | "if" =>
      set behind
      redirected grammar line (← grammar.condition)
    | "while" | "until" =>
      set behind
      let condition ← grammar.commands false
      Read.expectWord "do"
      let body ← grammar.commands false
      Read.expectWord "done"
      redirected grammar line (.repeated (opening == "while") condition body)
    | "for" =>
      set behind
      redirected grammar line (← forLoop grammar line)
    | "case" =>
      set behind
      redirected grammar line (← choiceByPatterns grammar line)
    | _ =>
      if Source.closers.contains opening || opening == "!" then Read.unexpected
      else if extended && opening == "[[" then
        set behind
        let found ← grammar.test
        Read.lines
        if !(← Read.acceptWord "]]") then Read.unexpected
        redirected grammar line (.test line found)
      else if extended && opening == "function" then
        set behind.blanks
        let name := (← get).peekWord
        Read.skip name.length
        Read.blanks
        if ← Read.accept "(" then Read.expect ")"
        functionBody grammar name
      else if opening != "" && behind.blanks.next? == some '(' &&
          (assignmentStart? source).isNone && !startsChoice source then
        set behind.blanks.skip
        Read.expect ")"
        if !isFunctionName source.dialect opening.toList then
          Read.fault (.functionName opening.toList)
        functionBody grammar opening.toList
      else simple grammar line (← Read.size) {}

/-! ## Lists -/

/-- Reads the stages of a pipeline. -/
def stages (fuel : Nat) (read : List Command) : Read (List Command) := do
  match fuel with
  | 0 => Read.unexpected
  | fuel + 1 =>
    let one ← command grammar
    Read.blanks
    let source ← get
    if source.startsWith "|&" && source.dialect == .extended then
      Read.skip 2
      Read.lines
      let both := Command.redirected source.line one [.mk 2 [] (.copy false) [.text false ['1']]]
      stages fuel (both :: read)
    else if source.startsWith "|" && !source.startsWith "||" then
      Read.skip
      Read.lines
      stages fuel (one :: read)
    else return (one :: read).reverse

/-- Reads a pipeline. -/
def pipeline (fuel : Nat) : Read Command := do
  match fuel with
  | 0 => Read.unexpected
  | fuel + 1 =>
    Read.blanks
    if ← (Read.isExtended <&&> Read.acceptWord "time") then
      let source ← get
      if source.blanks.token matches .word _ | .sign ['('] | .sign ['!'] | .sign ['\x7b'] then
        return .timed (← pipeline fuel)
      else return .timed (.sequence [])
    else if ← Read.acceptWord "!" then
      if ← Read.isExtended then return .pipeline true [← pipeline fuel]
      else return .pipeline true (← stages grammar (← Read.size) [])
    else
      match ← stages grammar (← Read.size) [] with
      | [one] => return one
      | found => return .pipeline false found

/-- Reads pipelines that depend on one another. -/
def chain (fuel : Nat) (first : Command) : Read Command := do
  match fuel with
  | 0 => Read.unexpected
  | fuel + 1 =>
    Read.blanks
    if ← Read.accept "&&" then
      Read.lines
      chain fuel (.both first (← pipeline grammar (← Read.size)))
    else if ← Read.accept "||" then
      Read.lines
      chain fuel (.either first (← pipeline grammar (← Read.size)))
    else return first

/-- Reads one item of a list with the sign behind it; the flag says whether there is such a sign. -/
def item : Read (Command × Bool) := do
  let found ← chain grammar (← Read.size) (← pipeline grammar (← Read.size))
  Read.blanks
  let source ← get
  match source.rest with
  | '&' :: _ =>
    Read.skip
    return (.background found, true)
  | ';' :: c :: _ =>
    if c == ';' || (c == '&' && source.dialect == .extended) then return (found, false)
    else
      Read.skip
      return (found, true)
  | [';'] =>
    Read.skip
    return (found, true)
  | '\n' :: _ => return (found, true)
  | _ => return (found, false)

/-- Reads a list of commands up to what ends it. -/
def commandsFrom (fuel : Nat) (mayEnd : Bool) (read : List Command) : Read Command := do
  match fuel with
  | 0 => Read.unexpected
  | fuel + 1 =>
    Read.lines
    let source ← get
    if source.rest.isEmpty || (mayEnd && source.atListEnd) then return .sequence read.reverse
    else
      let (one, more) ← item grammar
      if more then commandsFrom fuel true (one :: read)
      else return .sequence (one :: read).reverse

/-- Reads a list of commands. -/
def commands (mayBeEmpty : Bool) : Read Command := do
  commandsFrom grammar (← Read.size) mayBeEmpty []

/-- Reads the commands of one line. -/
def lineItems (fuel : Nat) (read : List Command) : Read (List Command) := do
  match fuel with
  | 0 => Read.unexpected
  | fuel + 1 =>
    Read.blanks
    let source ← get
    if source.rest.isEmpty || source.next? == some '\n' then return read.reverse
    else
      let (one, more) ← item grammar
      if more then lineItems fuel (one :: read)
      else if (← get).rest.isEmpty then return (one :: read).reverse
      else Read.unexpected

end TaskRunner.Shell.Reader
