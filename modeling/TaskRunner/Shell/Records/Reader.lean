import TaskRunner.Shell.Records.Syntax
import TaskRunner.Shell.Records.Token
/- # TaskRunner.Shell.Records.Reader -- reading scripts for records

Operators bind, from the loosest to the tightest: choices, `||`, `&&`, membership, matching,
comparisons, joining, sums, products, signs, powers, steps and fields.  What can be assigned takes the
assignment behind it with it. -/

namespace TaskRunner.Shell.Records
set_option autoImplicit false

/-- The tokens that are left, and the line of the last one. -/
structure TokenSource where
  rest : List (Token × Nat)
  line : Nat := 1
  /-- How many braces are open. -/
  depth : Nat := 0
  /-- Whether the body of a function is read. -/
  inFunction : Bool := false
  /-- Whether a rule is read that comes in front of the records or behind them. -/
  outside : Bool := false
  /-- The functions that are called. -/
  called : List String := []

/-- Reads a part of a script. -/
abbrev Read := StateT TokenSource (Except Token.Fault)

namespace Read

def peek : Read (Option Token) := do return (← get).rest.head?.map Prod.fst

def skip : Read Unit := modify fun source =>
  match source.rest with
  | (_, line) :: rest => { source with rest, line }
  | [] => source

/-- Refuses the next token. -/
def refuse {α : Type} : Read α := do
  let source ← get
  match source.rest with
  | (token, line) :: _ =>
    throw ⟨line, s!"syntax error at or near {token.shown}"⟩
  | [] =>
    let problem := if source.depth > 0 then "missing \x7d near end of file"
      else "syntax error at or near end of file"
    throw ⟨source.line + 1, problem⟩

def isSign (text : String) : Read Bool := do
  match ← peek with
  | some (.sign other) => return other == text
  | _ => return false

def isKeyword (text : String) : Read Bool := do
  match ← peek with
  | some (.keyword other) => return other == text
  | _ => return false

/-- Reads a sign if it is next. -/
def accept (text : String) : Read Bool := do
  if ← isSign text then
    skip
    return true
  else return false

def acceptKeyword (text : String) : Read Bool := do
  if ← isKeyword text then
    skip
    return true
  else return false

def expect (text : String) : Read Unit := do
  if !(← accept text) then refuse

/-- Reads line ends. -/
def newLines (fuel : Nat) : Read Unit := do
  match fuel with
  | 0 => return ()
  | fuel + 1 =>
    match ← peek with
    | some .newLine =>
      skip
      newLines fuel
    | _ => return ()

/-- How many tokens are left. -/
def size : Read Nat := do return (← get).rest.length + 1

def lines : Read Unit := do newLines (← size)

/-- Reads line ends and semicolons. -/
def separators (fuel : Nat) : Read Unit := do
  match fuel with
  | 0 => return ()
  | fuel + 1 =>
    match ← peek with
    | some .newLine | some (.sign ";") =>
      skip
      separators fuel
    | _ => return ()

end Read

/-- What may not stand in a formula, because it has another meaning around it. -/
structure Setting where
  /-- Whether the sign for greater values means a file. -/
  printing : Bool := false

def comparison? : Token → Option Comparison
  | .sign "<" => some .less
  | .sign "<=" => some .atMost
  | .sign "==" => some .equal
  | .sign "!=" => some .different
  | .sign ">=" => some .atLeast
  | .sign ">" => some .greater
  | _ => none

/-- The operation of an assignment; a plain one has none. -/
def assignment? : Token → Option (Option Arithmetic)
  | .sign "=" => some none
  | .sign "+=" => some (some .add)
  | .sign "-=" => some (some .subtract)
  | .sign "*=" => some (some .multiply)
  | .sign "/=" => some (some .divide)
  | .sign "%=" => some (some .remainder)
  | .sign "^=" => some (some .power)
  | _ => none

/-- Whether a token begins an operand that can be joined to the one before it. -/
def beginsOperand : Token → Bool
  | .number _ | .text _ | .expression _ | .name _ | .function _ | .builtin _ => true
  | .sign text => ["$", "!", "(", "-", "+", "++", "--"].contains text
  | _ => false

/-- The expression that a text writes; one that it does not write matches nothing. -/
def expressionOf (text : Octets) : Except String Expression :=
  match Expression.ofText { Expression.Manner.extended with stray := .itself } (plain text) with
  | .ok e => .ok e
  | .error fault => .error fault.message
where
  /-- The text with the octets that letters behind backslashes stand for. -/
  plain : Octets → Octets
    | '\\' :: 'n' :: rest => '\n' :: plain rest
    | '\\' :: 't' :: rest => '\t' :: plain rest
    | '\\' :: 'r' :: rest => '\r' :: plain rest
    | '\\' :: 'f' :: rest => '\x0c' :: plain rest
    | '\\' :: '"' :: rest => '"' :: plain rest
    | '\\' :: '/' :: rest => '/' :: plain rest
    | '\\' :: c :: rest => '\\' :: c :: plain rest
    | c :: rest => c :: plain rest
    | [] => []

/-- An expression of a script. -/
def readExpression (text : Octets) : Read Formula := do
  match expressionOf text with
  | .ok e => return .expression e
  | .error message =>
    throw ⟨(← get).line, s!"regular expression compile failed ({message})\n{text.toText}"⟩

mutual

/-- Reads a formula. -/
def formula (fuel : Nat) (setting : Setting) : Read Formula := do
  match fuel with
  | 0 => Read.refuse
  | fuel + 1 =>
    let condition ← either fuel setting
    if ← Read.accept "?" then
      Read.lines
      let yes ← formula fuel setting
      Read.lines
      Read.expect ":"
      Read.lines
      return .choice condition yes (← formula fuel setting)
    else return condition

def either (fuel : Nat) (setting : Setting) : Read Formula := do
  match fuel with
  | 0 => Read.refuse
  | fuel + 1 =>
    let first ← both fuel setting
    if ← Read.accept "||" then
      Read.lines
      return .either first (← either fuel setting)
    else return first

def both (fuel : Nat) (setting : Setting) : Read Formula := do
  match fuel with
  | 0 => Read.refuse
  | fuel + 1 =>
    let first ← membership fuel setting (← matching fuel setting (← comparison fuel setting))
    if ← Read.accept "&&" then
      Read.lines
      return .both first (← both fuel setting)
    else return first

/-- Goes on behind what may be a member of an array. -/
def membership (fuel : Nat) (setting : Setting) (first : Formula) : Read Formula := do
  match fuel with
  | 0 => Read.refuse
  | fuel + 1 =>
    if ← Read.acceptKeyword "in" then
      match ← Read.peek with
      | some (.name array) =>
        Read.skip
        membership fuel setting (.member [first] array)
      | _ => Read.refuse
    else return first

/-- Goes on behind a text that may be matched. -/
def matching (fuel : Nat) (setting : Setting) (first : Formula) : Read Formula := do
  match fuel with
  | 0 => Read.refuse
  | fuel + 1 =>
    match ← Read.peek with
    | some (.sign "~") =>
      Read.skip
      matching fuel setting (.matching false first (← comparison fuel setting))
    | some (.sign "!~") =>
      Read.skip
      matching fuel setting (.matching true first (← comparison fuel setting))
    | _ => return first

def comparison (fuel : Nat) (setting : Setting) : Read Formula := do
  match fuel with
  | 0 => Read.refuse
  | fuel + 1 =>
    let first ← piped fuel (← joined fuel setting (← sum fuel setting (← product fuel setting
      (← signed fuel setting))))
    match ← Read.peek with
    | some token =>
      match comparison? token with
      | some found =>
        if found == .greater && setting.printing then return first
        else
          Read.skip
          let second ← joined fuel setting (← sum fuel setting (← product fuel setting
            (← signed fuel setting)))
          return .compare found first second
      | none => return first
    | none => return first

/-- Goes on behind a command whose output may be read. -/
def piped (fuel : Nat) (first : Formula) : Read Formula := do
  match fuel with
  | 0 => Read.refuse
  | fuel + 1 =>
    match (← get).rest with
    | (.sign "|", _) :: (.keyword "getline", _) :: _ =>
      Read.skip
      Read.skip
      let into ← target? fuel
      piped fuel (.readLine .command first into)
    | _ => return first

/-- Goes on behind a text that others may be joined to. -/
def joined (fuel : Nat) (setting : Setting) (first : Formula) : Read Formula := do
  match fuel with
  | 0 => Read.refuse
  | fuel + 1 =>
    match ← Read.peek with
    | some token =>
      if beginsOperand token then
        let second ← sum fuel setting (← product fuel setting (← signed fuel setting))
        joined fuel setting (.joined first second)
      else return first
    | none => return first

/-- Goes on behind the first part of a sum. -/
def sum (fuel : Nat) (setting : Setting) (first : Formula) : Read Formula := do
  match fuel with
  | 0 => Read.refuse
  | fuel + 1 =>
    let rest (operator : Arithmetic) : Read Formula := do
      Read.skip
      let second ← product fuel setting (← signed fuel setting)
      sum fuel setting (.arithmetic operator first second)
    match ← Read.peek with
    | some (.sign "+") => rest .add
    | some (.sign "-") => rest .subtract
    | _ => return first

/-- Goes on behind the first part of a product. -/
def product (fuel : Nat) (setting : Setting) (first : Formula) : Read Formula := do
  match fuel with
  | 0 => Read.refuse
  | fuel + 1 =>
    let rest (operator : Arithmetic) : Read Formula := do
      Read.skip
      product fuel setting (.arithmetic operator first (← signed fuel setting))
    match ← Read.peek with
    | some (.sign "*") => rest .multiply
    | some (.sign "/") => rest .divide
    | some (.sign "%") => rest .remainder
    | _ => return first

/-- Reads an operand with signs in front of it. -/
def signed (fuel : Nat) (setting : Setting) : Read Formula := do
  match fuel with
  | 0 => Read.refuse
  | fuel + 1 =>
    match ← Read.peek with
    | some (.sign "!") =>
      Read.skip
      return .not (← signed fuel setting)
    | some (.sign "-") =>
      Read.skip
      return .negative (← signed fuel setting)
    | some (.sign "+") =>
      Read.skip
      return .plain (← signed fuel setting)
    | _ =>
      let base ← operand fuel setting
      if ← Read.accept "^" then
        return .arithmetic .power base (← signed fuel setting)
      else return base

/-- Reads an operand, with the steps or the assignment behind it. -/
def operand (fuel : Nat) (setting : Setting) : Read Formula := do
  match fuel with
  | 0 => Read.refuse
  | fuel + 1 =>
    match ← Read.peek with
    | some (.sign "++") =>
      Read.skip
      return .step true 1 (← neededTarget fuel)
    | some (.sign "--") =>
      Read.skip
      return .step true (-1) (← neededTarget fuel)
    | some (.name _) | some (.sign "$") =>
      let found ← neededTarget fuel
      match ← Read.peek with
      | some (.sign "++") =>
        Read.skip
        return .step false 1 found
      | some (.sign "--") =>
        Read.skip
        return .step false (-1) found
      | some token =>
        match assignment? token with
        | some operator =>
          Read.skip
          Read.lines
          return .assign operator found (← formula fuel setting)
        | none => return .target found
      | none => return .target found
    | some (.number n) =>
      Read.skip
      return .number n
    | some (.text text) =>
      Read.skip
      return .text text
    | some (.expression text) =>
      Read.skip
      readExpression text
    | some (.builtin name) =>
      Read.skip
      if ← Read.accept "(" then
        let arguments ← list fuel ")"
        Read.expect ")"
        return .builtin name arguments
      else if name == "length" then return .builtin name []
      else Read.refuse
    | some (.function name) =>
      Read.skip
      Read.expect "("
      let arguments ← list fuel ")"
      Read.expect ")"
      modify fun source => { source with called := source.called ++ [name] }
      return .call name arguments
    | some (.keyword "getline") =>
      Read.skip
      let into ← target? fuel
      if ← Read.accept "<" then
        return .readLine .file (← operand fuel { setting with printing := true }) into
      else return .readLine .input (.number 0) into
    | some (.sign "(") =>
      Read.skip
      let inside ← list fuel ")"
      Read.expect ")"
      match inside with
      | [] => Read.refuse
      | [one] => return one
      | indices =>
        if ← Read.acceptKeyword "in" then
          match ← Read.peek with
          | some (.name array) =>
            Read.skip
            return .member indices array
          | _ => Read.refuse
        else Read.refuse
    | _ => Read.refuse

/-- Reads something that can be assigned, if it is next. -/
def target? (fuel : Nat) : Read (Option Target) := do
  match fuel with
  | 0 => Read.refuse
  | fuel + 1 =>
    match ← Read.peek with
    | some (.name name) =>
      Read.skip
      if ← Read.accept "[" then
        let indices ← list fuel "]"
        Read.expect "]"
        return some (.element name indices)
      else return some (.named name)
    | some (.sign "$") =>
      Read.skip
      return some (.field (← fieldIndex fuel))
    | _ => return none

def neededTarget (fuel : Nat) : Read Target := do
  match fuel with
  | 0 => Read.refuse
  | fuel + 1 =>
    match ← target? fuel with
    | some found => return found
    | none => Read.refuse

/-- Reads what says which field is meant. -/
def fieldIndex (fuel : Nat) : Read Formula := do
  match fuel with
  | 0 => Read.refuse
  | fuel + 1 =>
    match ← Read.peek with
    | some (.sign "++") =>
      Read.skip
      return .step true 1 (← neededTarget fuel)
    | some (.sign "--") =>
      Read.skip
      return .step true (-1) (← neededTarget fuel)
    | some (.sign "-") =>
      Read.skip
      return .negative (← fieldIndex fuel)
    | some (.sign "+") =>
      Read.skip
      fieldIndex fuel
    | some (.sign "!") =>
      Read.skip
      return .not (← fieldIndex fuel)
    | some (.name _) | some (.sign "$") => return .target (← neededTarget fuel)
    | _ => operand fuel {}

/-- Reads formulas with commas between them, up to a sign. -/
def list (fuel : Nat) (stop : String) : Read (List Formula) := do
  match fuel with
  | 0 => Read.refuse
  | fuel + 1 =>
    Read.lines
    if ← Read.isSign stop then return []
    else
      let first ← formula fuel {}
      Read.lines
      if ← Read.accept "," then
        let rest ← list fuel stop
        if rest.isEmpty then Read.refuse else return first :: rest
      else return [first]

end

/-! ## Statements -/

/-- How many tokens there are up to the bracket that closes one. -/
def closing (fuel depth count : Nat) : List (Token × Nat) → Nat
  | [] => count
  | (token, _) :: rest =>
    match fuel with
    | 0 => count
    | fuel + 1 =>
      match token with
      | .sign "(" | .function _ => closing fuel (depth + opening token) (count + 1) rest
      | .sign ")" => if depth ≤ 1 then count + 1 else closing fuel (depth - 1) (count + 1) rest
      | _ => closing fuel depth (count + 1) rest
where
  /-- The bracket behind the name of a function is a token of its own. -/
  opening : Token → Nat
    | .sign _ => 1
    | _ => 0

/-- Reads formulas to be written. -/
def printed (fuel : Nat) : Read (List Formula) := do
  match fuel with
  | 0 => Read.refuse
  | fuel + 1 =>
    let first ← formula fuel { printing := true }
    if ← Read.accept "," then
      Read.lines
      return first :: (← printed fuel)
    else return [first]

/-- Whether a token ends a statement, or begins what the output of one goes to. -/
def endsPrinted : Option Token → Bool
  | none | some .newLine => true
  | some (.sign text) => [";", "\x7d", ">", ">>", "|"].contains text
  | _ => false

/-- Reads what is to be written, and where to. -/
def printing (fuel : Nat) : Read (List Formula × PrintTarget × Formula) := do
  let source ← get
  let isGroup ← Read.isSign "("
  let size := closing (source.rest.length + 1) 0 0 source.rest
  let values ← (if endsPrinted (← Read.peek) then pure []
    else if isGroup && endsPrinted ((source.rest.drop size).head?.map Prod.fst) then do
      Read.skip
      let values ← list fuel ")"
      Read.expect ")"
      pure values
    else printed fuel : Read (List Formula))
  match ← Read.peek with
  | some (.sign ">") =>
    Read.skip
    return (values, .file, ← target fuel)
  | some (.sign ">>") =>
    Read.skip
    return (values, .append, ← target fuel)
  | some (.sign "|") =>
    Read.skip
    return (values, .command, ← target fuel)
  | _ => return (values, .output, .number 0)
where
  target (fuel : Nat) : Read Formula := do
    joined fuel { printing := true } (← operand fuel { printing := true })

/-- Reads the end of a statement. -/
def ending : Read Unit := do
  match ← Read.peek with
  | none | some (.sign "\x7d") => return ()
  | some .newLine | some (.sign ";") =>
    Read.skip
    Read.lines
  | _ => Read.refuse

/-- Whether a statement ends here. -/
def atEnding : Read Bool := do
  match ← Read.peek with
  | none | some .newLine | some (.sign ";") | some (.sign "\x7d") => return true
  | _ => return false

/-- Reads a statement without what ends it. -/
def simple (fuel : Nat) : Read Statement := do
  let whole : Read Formula := formula fuel {}
  match ← Read.peek with
  | some (.keyword "print") =>
    Read.skip
    let (values, target, destination) ← printing fuel
    return .print values target destination
  | some (.keyword "printf") =>
    Read.skip
    let (values, target, destination) ← printing fuel
    if values.isEmpty then Read.refuse
    return .printFormatted values target destination
  | some (.keyword "next") =>
    if (← get).outside then throw ⟨(← get).line, "improper use of next"⟩
    Read.skip
    return .next
  | some (.keyword "nextfile") =>
    Read.skip
    return .nextFile
  | some (.keyword "break") =>
    Read.skip
    return .leave
  | some (.keyword "continue") =>
    Read.skip
    return .continue
  | some (.keyword "exit") =>
    Read.skip
    if ← atEnding then return .exit none else return .exit (some (← whole))
  | some (.keyword "return") =>
    if !(← get).inFunction then throw ⟨(← get).line, "return outside function body"⟩
    Read.skip
    if ← atEnding then return .give none else return .give (some (← whole))
  | some (.keyword "delete") =>
    Read.skip
    match ← target? fuel with
    | some (.named array) => return .delete array []
    | some (.element array indices) => return .delete array indices
    | _ => Read.refuse
  | _ => return .formula (← whole)

mutual

/-- Reads a statement. -/
def statement (fuel : Nat) : Read Statement := do
  match fuel with
  | 0 => Read.refuse
  | fuel + 1 =>
    let whole : Read Formula := do formula (8 * (← Read.size) + 50) {}
    match ← Read.peek with
    | some (.sign "\x7b") =>
      let found ← block fuel
      Read.separators 1
      Read.lines
      return found
    | some (.sign ";") =>
      Read.skip
      Read.lines
      return .block []
    | some (.keyword "if") =>
      Read.skip
      Read.expect "("
      let condition ← whole
      Read.expect ")"
      Read.lines
      let yes ← statement fuel
      let source ← get
      Read.separators (← Read.size)
      if ← Read.acceptKeyword "else" then
        Read.lines
        return .choice condition yes (← statement fuel)
      else
        set source
        return .choice condition yes (.block [])
    | some (.keyword "while") =>
      Read.skip
      Read.expect "("
      let condition ← whole
      Read.expect ")"
      Read.lines
      return .repeated condition (← statement fuel)
    | some (.keyword "do") =>
      Read.skip
      Read.lines
      let body ← statement fuel
      Read.separators (← Read.size)
      if !(← Read.acceptKeyword "while") then Read.refuse
      Read.expect "("
      let condition ← whole
      Read.expect ")"
      ending
      return .repeatedAfter body condition
    | some (.keyword "for") =>
      Read.skip
      Read.expect "("
      match (← get).rest with
      | (.name name, _) :: (.keyword "in", _) :: (.name array, _) :: (.sign ")", _) :: _ =>
        Read.skip
        Read.skip
        Read.skip
        Read.skip
        Read.lines
        return .each name array (← statement fuel)
      | _ =>
        let part (stop : String) : Read Statement := do
          if ← Read.isSign stop then return .block []
          else simple (8 * (← Read.size) + 50)
        let start ← part ";"
        Read.expect ";"
        Read.lines
        let condition ← (if ← Read.isSign ";" then pure none else do
          return some (← whole) : Read (Option Formula))
        Read.expect ";"
        Read.lines
        let step ← part ")"
        Read.expect ")"
        Read.lines
        return .counted start condition step (← statement fuel)
    | _ =>
      let found ← simple (8 * (← Read.size) + 50)
      ending
      return found

/-- Reads statements in braces. -/
def block (fuel : Nat) : Read Statement := do
  match fuel with
  | 0 => Read.refuse
  | fuel + 1 =>
    Read.expect "\x7b"
    modify fun source => { source with depth := source.depth + 1 }
    let found ← statements fuel
    Read.expect "\x7d"
    modify fun source => { source with depth := source.depth - 1 }
    return .block found

/-- Reads statements up to a closing brace. -/
def statements (fuel : Nat) : Read (List Statement) := do
  match fuel with
  | 0 => Read.refuse
  | fuel + 1 =>
    Read.separators (← Read.size)
    if ← Read.isSign "\x7d" then return []
    else
      let first ← statement fuel
      return first :: (← statements fuel)

end

/-! ## Rules -/

/-- Reads the names of parameters. -/
def parameters (fuel : Nat) : Read (List String) := do
  match fuel with
  | 0 => Read.refuse
  | fuel + 1 =>
    Read.lines
    match ← Read.peek with
    | some (.name name) =>
      Read.skip
      Read.lines
      if ← Read.accept "," then return name :: (← parameters fuel) else return [name]
    | _ => return []

/-- Reads a rule or a function. -/
def item (script : Script) : Read Script := do
  let size := 8 * (← Read.size) + 50
  let body : Read Statement := block size
  let rule (occasion : Occasion) (body : Option Statement) : Script :=
    { script with rules := script.rules.push { occasion, body } }
  let outer (occasion : Occasion) : Read Script := do
    Read.skip
    modify fun source => { source with outside := true }
    let found ← body
    modify fun source => { source with outside := false }
    return rule occasion (some found)
  match ← Read.peek with
  | some (.keyword "BEGIN") => outer .beginning
  | some (.keyword "END") => outer .ending
  | some (.keyword "function") =>
    Read.skip
    match ← Read.peek with
    | some (.name name) | some (.function name) =>
      Read.skip
      Read.expect "("
      let parameters ← parameters size
      Read.expect ")"
      Read.lines
      modify fun source => { source with inFunction := true }
      let body ← body
      modify fun source => { source with inFunction := false }
      return { script with functions := (name, { parameters, body }) :: script.functions }
    | _ => Read.refuse
  | some (.sign "\x7b") => return rule .always (some (← body))
  | _ =>
    let first ← formula size {}
    let occasion ← (if ← Read.accept "," then do
        Read.lines
        return .between first (← formula size {})
      else pure (.when first) : Read Occasion)
    if ← Read.isSign "\x7b" then return rule occasion (some (← body))
    else return rule occasion none

/-- Reads rules up to the end. -/
def items (fuel : Nat) (script : Script) : Read Script := do
  match fuel with
  | 0 => return script
  | fuel + 1 =>
    Read.separators (← Read.size)
    match ← Read.peek with
    | none => return script
    | some _ => items fuel (← item script)

/-- The script that a text writes. -/
def Script.ofText (text : Octets) : Except Token.Fault Script := do
  let tokens ← Token.ofText text
  let (script, source) ← (items (tokens.length + 1) { rules := #[], functions := [] }).run
    { rest := tokens }
  match source.called.find? fun name => (script.functions.lookup name).isNone with
  | some name => throw ⟨source.line + 1, s!"function {name} never defined"⟩
  | none => return script

end TaskRunner.Shell.Records
