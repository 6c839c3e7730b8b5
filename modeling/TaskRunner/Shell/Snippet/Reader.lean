import TaskRunner.Shell.Snippet.Syntax
import TaskRunner.Shell.Snippet.Token
/- # TaskRunner.Shell.Snippet.Reader -- reading snippets

Operators bind, from the loosest to the tightest: choices, `or`, `and`, `not`, comparisons, bits,
shifts, sums, products, signs, powers, and what stands behind an operand. -/

namespace TaskRunner.Shell.Snippet
set_option autoImplicit false

/-- The tokens that are left. -/
structure TokenSource where
  rest : List (Token × Nat)
  line : Nat := 1
  /-- How much may be read before a part is complete. -/
  budget : Nat

/-- Reads a part of a snippet. -/
abbrev Read := StateT TokenSource (Except Fault)

namespace Read

def peek : Read (Option Token) := do return (← get).rest.head?.map Prod.fst

/-- The line of the next token. -/
def line : Read Nat := do
  let source ← get
  return (source.rest.head?.map Prod.snd).getD source.line

def skip : Read Unit := modify fun source =>
  match source.rest with
  | (_, line) :: rest => { source with rest, line }
  | [] => source

def refuse {α : Type} (problem : String := "invalid syntax") : Read α := do
  throw ⟨← line, "SyntaxError", problem⟩

def isSign (text : String) : Read Bool := do
  match ← peek with
  | some (.sign other) => return other == text
  | _ => return false

def isName (text : String) : Read Bool := do
  match ← peek with
  | some (.name other) => return other == text
  | _ => return false

/-- Reads a sign if it is next. -/
def accept (text : String) : Read Bool := do
  if ← isSign text then
    skip
    return true
  else return false

/-- Reads a word if it is next. -/
def acceptName (text : String) : Read Bool := do
  if ← isName text then
    skip
    return true
  else return false

def expect (text : String) : Read Unit := do
  if !(← accept text) then refuse

def size : Read Nat := do return (← get).rest.length + 1

end Read

/-- Words that are no names. -/
def keywords : List String :=
  ["False", "None", "True", "and", "as", "assert", "async", "await", "break", "class", "continue",
    "def", "del", "elif", "else", "except", "finally", "for", "from", "global", "if", "import", "in",
    "is", "lambda", "nonlocal", "not", "or", "pass", "raise", "return", "try", "while", "with",
    "yield"]

/-- Reads a name. -/
def name : Read String := do
  match ← Read.peek with
  | some (.name found) =>
    if keywords.contains found then Read.refuse
    else
      Read.skip
      return found
  | _ => Read.refuse

/-- The signs of operators of two operands, the loosest first. -/
def levels : List (List (String × Operator)) := [
  [("|", .bitOr)], [("^", .bitXor)], [("&", .bitAnd)],
  [("<<", .shiftLeft), (">>", .shiftRight)],
  [("+", .add), ("-", .subtract)],
  [("*", .multiply), ("/", .divide), ("//", .floorDivide), ("%", .remainder)]]

/-- The operator of an assignment that changes its target. -/
def change? : Token → Option Operator
  | .sign "+=" => some .add
  | .sign "-=" => some .subtract
  | .sign "*=" => some .multiply
  | .sign "/=" => some .divide
  | .sign "//=" => some .floorDivide
  | .sign "%=" => some .remainder
  | .sign "**=" => some .power
  | .sign ">>=" => some .shiftRight
  | .sign "<<=" => some .shiftLeft
  | .sign "&=" => some .bitAnd
  | .sign "|=" => some .bitOr
  | .sign "^=" => some .bitXor
  | _ => none

/-- Reads a relation if it is next. -/
def relation? : Read (Option Relation) := do
  let found (relation : Relation) : Read (Option Relation) := do
    Read.skip
    return some relation
  match (← get).rest with
  | (.sign "<", _) :: _ => found .less
  | (.sign "<=", _) :: _ => found .atMost
  | (.sign "==", _) :: _ => found .equal
  | (.sign "!=", _) :: _ => found .different
  | (.sign ">=", _) :: _ => found .atLeast
  | (.sign ">", _) :: _ => found .greater
  | (.name "in", _) :: _ => found (.member false)
  | (.name "not", _) :: (.name "in", _) :: _ =>
    Read.skip
    found (.member true)
  | (.name "is", _) :: (.name "not", _) :: _ =>
    Read.skip
    found (.same true)
  | (.name "is", _) :: _ => found (.same false)
  | _ => return none

/-- The text of a field up to the character that ends it, outside of brackets and quotes. -/
def fieldText (fuel depth : Nat) (quote : Option Char) (found rest : List Char) :
    List Char × List Char :=
  match fuel, rest with
  | 0, _ | _, [] => (found.reverse, rest)
  | fuel + 1, c :: rest =>
    match quote with
    | some q => fieldText fuel depth (if c == q then none else quote) (c :: found) rest
    | none =>
      if c == '\'' || c == '"' then fieldText fuel depth (some c) (c :: found) rest
      else if "([\x7b".toList.contains c then fieldText fuel (depth + 1) none (c :: found) rest
      else if depth > 0 && ")]\x7d".toList.contains c then
        fieldText fuel (depth - 1) none (c :: found) rest
      else if depth == 0 && (c == '\x7d' || c == ':' || (c == '!' && rest.head? != some '=')) then
        (found.reverse, c :: rest)
      else fieldText fuel depth none (c :: found) rest

/-- The text of a form up to the brace that ends its field. -/
def formText (fuel depth : Nat) (found rest : List Char) : List Char × List Char :=
  match fuel, rest with
  | 0, _ | _, [] => (found.reverse, rest)
  | fuel + 1, c :: rest =>
    if c == '\x7d' && depth == 0 then (found.reverse, c :: rest)
    else
      let depth := if c == '\x7b' then depth + 1 else if c == '\x7d' then depth - 1 else depth
      formText fuel depth (c :: found) rest

mutual

/-- Reads a formula. -/
def formula (fuel : Nat) : Read Formula := do
  match fuel with
  | 0 => Read.refuse
  | fuel + 1 =>
    match (← get).rest with
    | (.name word, _) :: (.sign ":=", _) :: _ =>
      Read.skip
      Read.skip
      return .assigning word (← formula fuel)
    | (.name "lambda", _) :: _ =>
      Read.skip
      let found ← parameters fuel ":"
      Read.expect ":"
      return .function found (← formula fuel)
    | _ =>
      let yes ← either fuel
      if ← Read.acceptName "if" then
        let condition ← either fuel
        if !(← Read.acceptName "else") then Read.refuse
        return .choice condition yes (← formula fuel)
      else return yes

def either (fuel : Nat) : Read Formula := do
  match fuel with
  | 0 => Read.refuse
  | fuel + 1 =>
    let first ← both fuel
    if ← Read.acceptName "or" then return .either first (← either fuel) else return first

def both (fuel : Nat) : Read Formula := do
  match fuel with
  | 0 => Read.refuse
  | fuel + 1 =>
    let first ← denied fuel
    if ← Read.acceptName "and" then return .both first (← both fuel) else return first

def denied (fuel : Nat) : Read Formula := do
  match fuel with
  | 0 => Read.refuse
  | fuel + 1 =>
    if ← Read.acceptName "not" then return .signed .not (← denied fuel)
    else
      let first ← binary fuel levels
      match ← comparisons fuel with
      | [] => return first
      | rest => return .compare first rest

def comparisons (fuel : Nat) : Read (List (Relation × Formula)) := do
  match fuel with
  | 0 => Read.refuse
  | fuel + 1 =>
    match ← relation? with
    | none => return []
    | some relation =>
      let operand ← binary fuel levels
      return (relation, operand) :: (← comparisons fuel)

/-- Reads operands with operators of some levels between them. -/
def binary (fuel : Nat) (levels : List (List (String × Operator))) : Read Formula := do
  match fuel, levels with
  | 0, _ => Read.refuse
  | fuel + 1, [] => signed fuel
  | fuel + 1, level :: tighter => binaryRest fuel level tighter (← binary fuel tighter)

def binaryRest (fuel : Nat) (level : List (String × Operator))
    (tighter : List (List (String × Operator))) (first : Formula) : Read Formula := do
  match fuel with
  | 0 => Read.refuse
  | fuel + 1 =>
    let operator := match ← Read.peek with
      | some (.sign text) => level.lookup text
      | _ => none
    match operator with
    | none => return first
    | some operator =>
      Read.skip
      let second ← binary fuel tighter
      binaryRest fuel level tighter (.binary operator first second)

/-- Reads an operand with signs in front of it. -/
def signed (fuel : Nat) : Read Formula := do
  match fuel with
  | 0 => Read.refuse
  | fuel + 1 =>
    match ← Read.peek with
    | some (.sign "-") =>
      Read.skip
      return .signed .negative (← signed fuel)
    | some (.sign "+") =>
      Read.skip
      return .signed .positive (← signed fuel)
    | some (.sign "~") =>
      Read.skip
      return .signed .invert (← signed fuel)
    | _ =>
      let base ← trailing fuel (← operand fuel)
      if ← Read.accept "**" then return .binary .power base (← signed fuel) else return base

/-- Goes on behind an operand with calls, elements and attributes. -/
def trailing (fuel : Nat) (base : Formula) : Read Formula := do
  match fuel with
  | 0 => Read.refuse
  | fuel + 1 =>
    if ← Read.accept "(" then
      let found ← arguments fuel
      Read.expect ")"
      trailing fuel (.call base found)
    else if ← Read.accept "[" then
      let first ← index fuel
      if ← Read.accept "," then
        let rest ← items fuel ["]"]
        Read.expect "]"
        trailing fuel (.element base (.tuple (first :: rest)))
      else
        Read.expect "]"
        trailing fuel (.element base first)
    else if ← Read.accept "." then trailing fuel (.attribute base (← name))
    else return base

/-- Reads an index or a slice. -/
def index (fuel : Nat) : Read Formula := do
  match fuel with
  | 0 => Read.refuse
  | fuel + 1 =>
    let part : Read (Option Formula) := do
      if (← Read.isSign ":") || (← Read.isSign "]") then return none
      else return some (← formula fuel)
    let start ← part
    if ← Read.accept ":" then
      let stop ← part
      if ← Read.accept ":" then return .slice start stop (← part)
      else return .slice start stop none
    else
      match start with
      | some start => return start
      | none => Read.refuse

/-- Reads what is given to a function, up to the closing bracket. -/
def arguments (fuel : Nat) : Read (List Argument) := do
  match fuel with
  | 0 => Read.refuse
  | fuel + 1 =>
    if ← Read.isSign ")" then return []
    else
      let first : Argument ← match (← get).rest with
        | (.sign "*", _) :: _ => do
          Read.skip
          pure (.spread (← formula fuel))
        | (.sign "**", _) :: _ => do
          Read.skip
          pure (.spreadNamed (← formula fuel))
        | (.name word, _) :: (.sign "=", _) :: _ => do
          Read.skip
          Read.skip
          pure (.named word (← formula fuel))
        | _ => do
          let value ← formula fuel
          if ← Read.isName "for" then
            pure (.plain (.collected .generator none value (← clauses fuel)))
          else pure (.plain value)
      if ← Read.accept "," then return first :: (← arguments fuel) else return [first]

/-- Reads the clauses of a collection. -/
def clauses (fuel : Nat) : Read (List Clause) := do
  match fuel with
  | 0 => Read.refuse
  | fuel + 1 =>
    if ← Read.acceptName "for" then
      let target ← targets fuel
      if !(← Read.acceptName "in") then Read.refuse
      let source ← either fuel
      return .each target source :: (← clauses fuel)
    else if ← Read.acceptName "if" then
      let condition ← either fuel
      return .when condition :: (← clauses fuel)
    else return []

/-- Reads what a loop assigns to. -/
def targets (fuel : Nat) : Read Formula := do
  match fuel with
  | 0 => Read.refuse
  | fuel + 1 =>
    let first ← starred fuel
    if ← Read.isSign "," then return .tuple (first :: (← moreTargets fuel)) else return first

def moreTargets (fuel : Nat) : Read (List Formula) := do
  match fuel with
  | 0 => Read.refuse
  | fuel + 1 =>
    if ← Read.accept "," then
      if (← Read.isName "in") || (← Read.isSign "=") then return []
      else
        let first ← starred fuel
        return first :: (← moreTargets fuel)
    else return []

def starred (fuel : Nat) : Read Formula := do
  match fuel with
  | 0 => Read.refuse
  | fuel + 1 =>
    if ← Read.accept "*" then return .starred (← binary fuel levels) else binary fuel levels

/-- Reads formulas with commas between them, up to one of some signs. -/
def items (fuel : Nat) (stops : List String) : Read (List Formula) := do
  match fuel with
  | 0 => Read.refuse
  | fuel + 1 =>
    let stopped := match ← Read.peek with
      | some (.sign text) => stops.contains text
      | some .newLine | none => true
      | _ => false
    if stopped then return []
    else
      let first ← (if ← Read.accept "*" then do
        return .starred (← binary fuel levels) else formula fuel : Read Formula)
      if ← Read.accept "," then return first :: (← items fuel stops) else return [first]

/-- Reads an operand. -/
def operand (fuel : Nat) : Read Formula := do
  match fuel with
  | 0 => Read.refuse
  | fuel + 1 =>
    match ← Read.peek with
    | some (.int n) =>
      Read.skip
      return .int n
    | some (.float x) =>
      Read.skip
      return .float x
    | some (.bytes octets) =>
      Read.skip
      let rest ← moreBytes fuel
      return .bytes (octets ++ rest)
    | some (.text _) | some (.formatted _ _) =>
      match ← texts fuel with
      | [] => return .text []
      | [.text text] => return .text text
      | pieces => return .formatted pieces
    | some (.sign "(") =>
      Read.skip
      if ← Read.accept ")" then return .tuple []
      else
        let first ← (if ← Read.accept "*" then do
          return .starred (← binary fuel levels) else formula fuel : Read Formula)
        if ← Read.isName "for" then
          let found ← clauses fuel
          Read.expect ")"
          return .collected .generator none first found
        else if ← Read.accept "," then
          let rest ← items fuel [")"]
          Read.expect ")"
          return .tuple (first :: rest)
        else
          Read.expect ")"
          return first
    | some (.sign "[") =>
      Read.skip
      let found ← items fuel ["]"]
      match found with
      | [one] =>
        if ← Read.isName "for" then
          let found ← clauses fuel
          Read.expect "]"
          return .collected .list none one found
        else
          Read.expect "]"
          return .row .list [one]
      | found =>
        Read.expect "]"
        return .row .list found
    | some (.sign "\x7b") =>
      Read.skip
      braced fuel
    | some (.sign "...") =>
      Read.skip
      return .ellipsis
    | some (.name word) =>
      match word with
      | "None" =>
        Read.skip
        return .nothing
      | "True" =>
        Read.skip
        return .bool true
      | "False" =>
        Read.skip
        return .bool false
      | _ => return .name (← name)
    | _ => Read.refuse

/-- Reads a set or a dictionary. -/
def braced (fuel : Nat) : Read Formula := do
  match fuel with
  | 0 => Read.refuse
  | fuel + 1 =>
    if ← Read.accept "\x7d" then return .dict []
    else if ← Read.isSign "**" then
      let found ← entries fuel
      Read.expect "\x7d"
      return .dict found
    else
      let source ← get
      let first ← (if ← Read.accept "*" then do
        return .starred (← binary fuel levels) else formula fuel : Read Formula)
      if ← Read.accept ":" then
        let value ← formula fuel
        if ← Read.isName "for" then
          let found ← clauses fuel
          Read.expect "\x7d"
          return .collected .dict (some first) value found
        else
          set source
          let found ← entries fuel
          Read.expect "\x7d"
          return .dict found
      else if ← Read.isName "for" then
        let found ← clauses fuel
        Read.expect "\x7d"
        return .collected .set none first found
      else
        let rest ← (if ← Read.accept "," then items fuel ["\x7d"] else pure [] : Read (List Formula))
        Read.expect "\x7d"
        return .row .set (first :: rest)

def entries (fuel : Nat) : Read (List (Option Formula × Formula)) := do
  match fuel with
  | 0 => Read.refuse
  | fuel + 1 =>
    if ← Read.isSign "\x7d" then return []
    else
      let first ← (if ← Read.accept "**" then do
          return (none, ← binary fuel levels)
        else do
          let key ← formula fuel
          Read.expect ":"
          return (some key, ← formula fuel) : Read (Option Formula × Formula))
      if ← Read.accept "," then return first :: (← entries fuel) else return [first]

def moreBytes (fuel : Nat) : Read Octets := do
  match fuel with
  | 0 => Read.refuse
  | fuel + 1 =>
    match ← Read.peek with
    | some (.bytes octets) =>
      Read.skip
      let rest ← moreBytes fuel
      return octets ++ rest
    | _ => return []

/-- Reads texts that stand one behind the other. -/
def texts (fuel : Nat) : Read (List Piece) := do
  match fuel with
  | 0 => Read.refuse
  | fuel + 1 =>
    match ← Read.peek with
    | some (.text text) =>
      Read.skip
      match ← texts fuel with
      | .text more :: rest => return .text (text ++ more) :: rest
      | rest => return .text text :: rest
    | some (.formatted text raw) =>
      Read.skip
      let found ← pieces fuel raw [] text
      let rest ← texts fuel
      return found ++ rest
    | _ => return []

/-- Reads the parts of a text with fields in it; what was read of a part is given last character
first. -/
def pieces (fuel : Nat) (raw : Bool) (found : List Char) (text : List Char) : Read (List Piece) := do
  match fuel with
  | 0 => Read.refuse
  | fuel + 1 =>
    let plain : List Piece := if found.isEmpty then []
      else [.text (if raw then found.reverse
        else Token.unescaped (found.length + 1) found.reverse)]
    match text with
    | [] => return plain
    | '\x7b' :: '\x7b' :: rest => pieces fuel raw ('\x7b' :: found) rest
    | '\x7d' :: '\x7d' :: rest => pieces fuel raw ('\x7d' :: found) rest
    | '\x7d' :: _ => Read.refuse "f-string: single '\x7d' is not allowed"
    | '\x7b' :: rest =>
      let (inner, rest) := fieldText (rest.length + 1) 0 none [] rest
      let trimmed := Octets.trim inner
      let isShown := trimmed.getLast? == some '=' &&
        !(["==", "!=", "<=", ">="].any fun mark =>
          mark.toList == trimmed.drop (trimmed.length - 2))
      let inner' := if isShown then trimmed.dropLast else inner
      let value ← fieldFormula fuel inner'
      let (conversion, rest) := match rest with
        | '!' :: c :: rest => (some c, rest)
        | rest => (none, rest)
      let (form, rest) := match rest with
        | ':' :: rest => formText (rest.length + 1) 0 [] rest
        | rest => ([], rest)
      let conversion := if isShown && form.isEmpty && conversion.isNone then some 'r'
        else conversion
      match rest with
      | '\x7d' :: rest =>
        let form ← pieces fuel raw [] form
        let more ← pieces fuel raw [] rest
        let label : List Piece := if isShown then [.text inner] else []
        return plain ++ label ++ .field value conversion form :: more
      | _ => Read.refuse "f-string: expecting '\x7d'"
    | c :: rest => pieces fuel raw (c :: found) rest

/-- The formula in a field. -/
def fieldFormula (fuel : Nat) (text : List Char) : Read Formula := do
  match fuel with
  | 0 => Read.refuse
  | fuel + 1 =>
    let line ← Read.line
    match Token.ofText ('(' :: text ++ [')']) with
    | .error _ => throw ⟨line, "SyntaxError", "f-string: invalid syntax"⟩
    | .ok tokens =>
      if tokens.length ≤ 3 then
        throw ⟨line, "SyntaxError", "f-string: valid expression required before '\x7d'"⟩
      let source : TokenSource ← get
      let inner := tokens.map fun ((token, _) : Token × Nat) => (token, line)
      set { source with rest := inner }
      let found ← formula fuel
      let ended := match (← get).rest with
        | [(.newLine, _)] => true
        | _ => false
      if !ended then Read.refuse "f-string: invalid syntax"
      set source
      return found

/-- Reads parameters up to a sign. -/
def parameters (fuel : Nat) (stop : String) : Read (List Parameter) := do
  match fuel with
  | 0 => Read.refuse
  | fuel + 1 =>
    if ← Read.isSign stop then return []
    else
      let kind : ParameterKind ←
        if ← Read.accept "**" then pure ParameterKind.named
        else if ← Read.accept "*" then pure ParameterKind.rest
        else pure ParameterKind.single
      if (← Read.isSign ",") && kind == .rest || (← Read.isSign "/") then
        let _ ← Read.accept "/"
        let _ ← Read.accept ","
        parameters fuel stop
      else
        let found ← name
        if stop == ")" then
          if ← Read.accept ":" then
            let _ ← formula fuel
        let default ← (if ← Read.accept "=" then do
          return some (← formula fuel) else pure none : Read (Option Formula))
        let first := Parameter.mk kind found default
        if ← Read.accept "," then return first :: (← parameters fuel stop) else return [first]

end

/-! ## Statements -/

/-- How much may be read before a part is complete. -/
def depth : Read Nat := do return (← get).budget

/-- Reads one formula, or several that make a tuple with each other. -/
def formulas : Read Formula := do
  let fuel ← depth
  match ← items fuel ["=", ")", "]", ":", ";"] with
  | [] => Read.refuse
  | [.starred _] => Read.refuse "can't use starred expression here"
  | [one] => return one
  | several => return .tuple several

/-- Reads formulas; a comma behind a single one makes a tuple of it. -/
def testList : Read Formula := do
  let before : List (Token × Nat) := (← get).rest
  let found ← formulas
  let after : List (Token × Nat) := (← get).rest
  let used := before.take (before.length - after.length)
  match found, used.getLast? with
  | .tuple items, _ => return .tuple items
  | one, some (.sign ",", _) => return .tuple [one]
  | one, _ => return one

/-- Reads a name with points in it. -/
def dotted (fuel : Nat) : Read String := do
  match fuel with
  | 0 => Read.refuse
  | fuel + 1 =>
    let first ← name
    if ← Read.accept "." then return first ++ "." ++ (← dotted fuel) else return first

/-- Reads the names of modules. -/
def modules (fuel : Nat) : Read (List (String × String)) := do
  match fuel with
  | 0 => Read.refuse
  | fuel + 1 =>
    let source ← dotted (← Read.size)
    let known ← (if ← Read.acceptName "as" then name
      else pure ((source.splitOn ".").headD source) : Read String)
    if ← Read.accept "," then return (source, known) :: (← modules fuel)
    else return [(source, known)]

/-- Reads the names that are taken from a module. -/
def takenNames (fuel : Nat) : Read (List (String × String)) := do
  match fuel with
  | 0 => Read.refuse
  | fuel + 1 =>
    if ← Read.isSign ")" then return []
    else
      let found ← (if ← Read.accept "*" then pure "*" else name : Read String)
      let known ← (if ← Read.acceptName "as" then name else pure found : Read String)
      if ← Read.accept "," then return (found, known) :: (← takenNames fuel)
      else return [(found, known)]

/-- Whether a statement ends here. -/
def atEnd : Read Bool := do
  match ← Read.peek with
  | none | some .newLine | some (.sign ";") => return true
  | _ => return false

/-- Reads names with commas between them. -/
def nameList (fuel : Nat) : Read (List String) := do
  match fuel with
  | 0 => Read.refuse
  | fuel + 1 =>
    let first ← name
    if ← Read.accept "," then return first :: (← nameList fuel) else return [first]

/-- Whether a formula can be assigned to. -/
def isTarget (fuel : Nat) (formula : Formula) : Bool :=
  match fuel with
  | 0 => false
  | fuel + 1 =>
    match formula with
    | .name _ | .attribute _ _ | .element _ _ => true
    | .starred inner => isTarget fuel inner
    | .tuple items | .row .list items => items.all (isTarget fuel)
    | _ => false

/-- Reads the values of an assignment; what was read is given last formula first. -/
def assignment (fuel : Nat) (found : List Formula) : Read Statement := do
  match fuel with
  | 0 => Read.refuse
  | fuel + 1 =>
    let value ← testList
    if ← Read.accept "=" then
      if !isTarget 20 value then Read.refuse "cannot assign to expression here. Maybe you meant '==' instead of '='?"
      assignment fuel (value :: found)
    else return .assign found.reverse value

/-- Reads a statement on one line. -/
def simple : Read Statement := do
  let word := match ← Read.peek with
    | some (.name word) => word
    | _ => ""
  match word with
  | "pass" =>
    Read.skip
    return .pass
  | "break" =>
    Read.skip
    return .leave
  | "continue" =>
    Read.skip
    return .continue
  | "return" =>
    Read.skip
    if ← atEnd then return .give none else return .give (some (← testList))
  | "raise" =>
    Read.skip
    if ← atEnd then return .throw none
    else
      let value ← formula (← depth)
      if ← Read.acceptName "from" then
        let _ ← formula (← depth)
      return .throw (some value)
  | "import" =>
    Read.skip
    return .load (← modules (← Read.size))
  | "from" =>
    Read.skip
    let source ← dotted (← Read.size)
    if !(← Read.acceptName "import") then Read.refuse
    let isGrouped ← Read.accept "("
    let names ← takenNames (← Read.size)
    if isGrouped then Read.expect ")"
    return .loadFrom source names
  | "del" =>
    Read.skip
    match ← testList with
    | .tuple found => return .delete found
    | one => return .delete [one]
  | "assert" =>
    Read.skip
    let condition ← formula (← depth)
    if ← Read.accept "," then return .require condition (some (← formula (← depth)))
    else return .require condition none
  | "global" =>
    Read.skip
    return .global (← nameList (← Read.size))
  | "nonlocal" =>
    Read.skip
    return .nonlocal (← nameList (← Read.size))
  | _ =>
    let first ← testList
    match ← Read.peek with
    | some (.sign "=") =>
      if !isTarget 20 first then Read.refuse "cannot assign to expression here. Maybe you meant '==' instead of '='?"
      Read.skip
      assignment (← Read.size) [first]
    | some (.sign ":") =>
      Read.skip
      let _ ← formula (← depth)
      if ← Read.accept "=" then return .assign [first] (← testList) else return .pass
    | some token =>
      match change? token with
      | some operator =>
        Read.skip
        return .change operator first (← testList)
      | none => return .formula first
    | none => return .formula first

/-- Reads statements on one line, and its end. -/
def simples (fuel : Nat) : Read Block := do
  match fuel with
  | 0 => Read.refuse
  | fuel + 1 =>
    let line ← Read.line
    let first ← simple
    if ← Read.accept ";" then
      match ← Read.peek with
      | none => return [(line, first)]
      | some .newLine =>
        Read.skip
        return [(line, first)]
      | _ => return (line, first) :: (← simples fuel)
    else
      match ← Read.peek with
      | some .newLine =>
        Read.skip
        return [(line, first)]
      | none => return [(line, first)]
      | _ => Read.refuse

mutual

/-- Reads a statement that may have others in it. -/
def statement (fuel : Nat) : Read Block := do
  match fuel with
  | 0 => Read.refuse
  | fuel + 1 =>
    let line ← Read.line
    let word := match ← Read.peek with
      | some (.name word) => word
      | _ => ""
    match word with
    | "if" =>
      Read.skip
      return [(line, ← choice fuel)]
    | "while" =>
      Read.skip
      let condition ← formula (← depth)
      let body ← suite fuel
      let finish ← otherwise fuel "else"
      return [(line, .repeated condition body finish)]
    | "for" =>
      Read.skip
      let target ← targets (← depth)
      if !(← Read.acceptName "in") then Read.refuse
      let source ← testList
      let body ← suite fuel
      let finish ← otherwise fuel "else"
      return [(line, .each target source body finish)]
    | "def" =>
      Read.skip
      let found ← name
      Read.expect "("
      let parameters ← parameters (← depth) ")"
      Read.expect ")"
      if ← Read.accept "->" then
        let _ ← formula (← depth)
      return [(line, .define found parameters (← suite fuel))]
    | "try" =>
      Read.skip
      let body ← suite fuel
      let handlers ← handlers fuel
      let other ← otherwise fuel "else"
      let finish ← otherwise fuel "finally"
      return [(line, .guarded body handlers other finish)]
    | "with" =>
      Read.skip
      let items ← resources fuel
      return [(line, .during items (← suite fuel))]
    | _ =>
      match ← Read.peek with
      | some .indent => throw ⟨line, "IndentationError", "unexpected indent"⟩
      | _ => simples (← Read.size)

/-- Reads a choice behind its first word. -/
def choice (fuel : Nat) : Read Statement := do
  match fuel with
  | 0 => Read.refuse
  | fuel + 1 =>
    let condition ← formula (← depth)
    let yes ← suite fuel
    let line ← Read.line
    if ← Read.acceptName "elif" then return .choice condition yes [(line, ← choice fuel)]
    else return .choice condition yes (← otherwise fuel "else")

/-- Reads statements behind a word, if it is there. -/
def otherwise (fuel : Nat) (word : String) : Read Block := do
  match fuel with
  | 0 => Read.refuse
  | fuel + 1 => if ← Read.acceptName word then suite fuel else return []

/-- Reads what is done about exceptions. -/
def handlers (fuel : Nat) : Read (List (Option Formula × Option String × Block)) := do
  match fuel with
  | 0 => Read.refuse
  | fuel + 1 =>
    if ← Read.acceptName "except" then
      let kind ← (if ← Read.isSign ":" then pure none else do
        return some (← formula (← depth)) : Read (Option Formula))
      let known ← (if ← Read.acceptName "as" then do
        return some (← name) else pure none : Read (Option String))
      let body ← suite fuel
      return (kind, known, body) :: (← handlers fuel)
    else return []

/-- Reads what is used. -/
def resources (fuel : Nat) : Read (List (Formula × Option Formula)) := do
  match fuel with
  | 0 => Read.refuse
  | fuel + 1 =>
    let value ← formula (← depth)
    let target ← (if ← Read.acceptName "as" then do
      return some (← starred (← depth)) else pure none : Read (Option Formula))
    if ← Read.accept "," then return (value, target) :: (← resources fuel)
    else return [(value, target)]

/-- Reads the statements behind a colon. -/
def suite (fuel : Nat) : Read Block := do
  match fuel with
  | 0 => Read.refuse
  | fuel + 1 =>
    if !(← Read.accept ":") then Read.refuse "expected ':'"
    match ← Read.peek with
    | some .newLine =>
      Read.skip
      match ← Read.peek with
      | some .indent =>
        Read.skip
        statements fuel
      | _ => throw ⟨← Read.line, "IndentationError", "expected an indented block"⟩
    | _ => simples (← Read.size)

/-- Reads statements up to the end of an indent. -/
def statements (fuel : Nat) : Read Block := do
  match fuel with
  | 0 => Read.refuse
  | fuel + 1 =>
    match ← Read.peek with
    | none => return []
    | some .dedent =>
      Read.skip
      return []
    | some .newLine =>
      Read.skip
      statements fuel
    | _ =>
      let first ← statement fuel
      return first ++ (← statements fuel)

end

/-- Reads statements up to the end. -/
def allStatements (fuel : Nat) : Read Block := do
  match fuel with
  | 0 => Read.refuse
  | fuel + 1 =>
    match ← Read.peek with
    | none => return []
    | some .newLine =>
      Read.skip
      allStatements fuel
    | some .dedent => Read.refuse
    | _ =>
      let first ← statement fuel
      return first ++ (← allStatements fuel)

/-- The snippet that a text writes. -/
def Block.ofText (text : List Char) : Except Fault Block := do
  let tokens ← Token.ofText text
  let budget := 40 * text.length + 400
  let (found, _) ← (allStatements budget).run { rest := tokens, budget }
  return found

end TaskRunner.Shell.Snippet
