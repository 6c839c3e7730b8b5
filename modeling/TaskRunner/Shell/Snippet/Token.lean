import TaskRunner.Shell.Decimal
/- # TaskRunner.Shell.Snippet.Token -- the words and signs of snippets

Line ends and indents are tokens; inside of brackets they are blanks. -/

namespace TaskRunner.Shell.Snippet
set_option autoImplicit false

inductive Token where
  | int (value : Int)
  | float (value : Float)
  | text (text : List Char)
  | bytes (octets : Octets)
  /-- The inside of a text with fields in it, and whether backslashes stand for themselves. -/
  | formatted (text : List Char) (raw : Bool)
  | name (name : String)
  | sign (text : String)
  | newLine
  | indent
  | dedent
  deriving Inhabited

/-- A text that is no snippet: its line, and what is wrong there. -/
structure Fault where
  line : Nat
  kind : String := "SyntaxError"
  problem : String

namespace Token

/-- The signs, longer ones in front of those they begin with. -/
def signs : List String :=
  ["**=", "//=", ">>=", "<<=", "...", "!=", "==", "<=", ">=", "->", ":=", "+=", "-=", "*=", "/=",
    "%=", "&=", "|=", "^=", "@=", "**", "//", "<<", ">>", "+", "-", "*", "/", "%", "&", "|", "^",
    "~", "<", ">", "(", ")", "[", "]", "\x7b", "\x7d", ",", ":", ".", ";", "=", "@"]

def isWordChar (c : Char) : Bool := c.isAlphanum || c == '_' || c.toNat ≥ 128

/-- What is behind a backslash, and what follows it. -/
def escaped (rest : List Char) : List Char × List Char :=
  let hexadecimal (count : Nat) (c : Char) (rest : List Char) : List Char × List Char :=
    let digits := (rest.take count).takeWhile fun d => (Octets.hexDigit? d).isSome
    if digits.length == count then ([Char.ofNat (Octets.hexValue digits)], rest.drop count)
    else (['\\', c], rest)
  match rest with
  | '\n' :: rest => ([], rest)
  | '\\' :: rest => (['\\'], rest)
  | '\'' :: rest => (['\''], rest)
  | '"' :: rest => (['"'], rest)
  | 'a' :: rest => (['\x07'], rest)
  | 'b' :: rest => (['\x08'], rest)
  | 'f' :: rest => (['\x0c'], rest)
  | 'n' :: rest => (['\n'], rest)
  | 'r' :: rest => (['\r'], rest)
  | 't' :: rest => (['\t'], rest)
  | 'v' :: rest => (['\x0b'], rest)
  | 'x' :: rest => hexadecimal 2 'x' rest
  | 'u' :: rest => hexadecimal 4 'u' rest
  | 'U' :: rest => hexadecimal 8 'U' rest
  | c :: rest =>
    let octal := ((c :: rest).take 3).takeWhile Octets.isOctal
    if octal.isEmpty then (['\\', c], rest)
    else ([Char.ofNat (Octets.octalValue octal)], (c :: rest).drop octal.length)
  | [] => (['\\'], [])

/-- A text without its backslashes. -/
def unescaped (fuel : Nat) (text : List Char) : List Char :=
  match fuel, text with
  | 0, text => text
  | fuel + 1, '\\' :: rest => (escaped rest).1 ++ unescaped fuel (escaped rest).2
  | fuel + 1, c :: rest => c :: unescaped fuel rest
  | _, [] => []

/-- The inside of a text up to its closing quotes, and what follows them; nothing if there are none.
Quotes in fields do not close it. -/
def inside (fuel : Nat) (quote : List Char) (hasFields : Bool) (depth : Nat) (found rest : List Char) :
    Option (List Char × List Char) :=
  match fuel, rest with
  | 0, _ | _, [] => none
  | fuel + 1, c :: rest =>
    if depth == 0 && quote.isPrefixOf (c :: rest) then
      some (found.reverse, (c :: rest).drop quote.length)
    else if c == '\n' && quote.length == 1 then none
    else
      match c, rest with
      | '\\', d :: rest => inside fuel quote hasFields depth (d :: '\\' :: found) rest
      | '\x7b', '\x7b' :: rest =>
        if hasFields && depth == 0 then
          inside fuel quote hasFields depth ('\x7b' :: '\x7b' :: found) rest
        else inside fuel quote hasFields depth ('\x7b' :: found) ('\x7b' :: rest)
      | '\x7b', rest => inside fuel quote hasFields (if hasFields then depth + 1 else 0)
          ('\x7b' :: found) rest
      | '\x7d', rest => inside fuel quote hasFields (depth - 1) ('\x7d' :: found) rest
      | c, rest => inside fuel quote hasFields depth (c :: found) rest

/-- The letters in front of a text that say how it is read, if there is a quote behind them. -/
def lead? (text : List Char) : Option (List Char × List Char) :=
  let letters := (text.takeWhile "rRbBfFuU".toList.contains).map Char.toLower
  let rest := text.drop letters.length
  match rest with
  | '\'' :: _ | '"' :: _ => if letters.length ≤ 2 then some (letters, rest) else none
  | _ => none

/-- A text with its quotes, and what follows it; nothing if it has no end. -/
def quoted? (letters rest : List Char) : Option (Token × List Char) :=
  let quote := match rest with
    | q :: r :: s :: _ => if q == r && r == s then [q, q, q] else [q]
    | q :: _ => [q]
    | [] => []
  let hasFields := letters.contains 'f'
  let raw := letters.contains 'r'
  match inside (rest.length + 1) quote hasFields 0 [] (rest.drop quote.length) with
  | none => none
  | some (body, rest) =>
    let plain := if raw then body else unescaped (body.length + 1) body
    some (if hasFields then .formatted body raw
      else if letters.contains 'b' then .bytes plain else .text plain, rest)

/-- A number, and what follows it. -/
def number (text : List Char) : Token × List Char :=
  let isBase (c : Char) : Option Nat := match c.toLower with
    | 'x' => some 16
    | 'o' => some 8
    | 'b' => some 2
    | _ => none
  let based : Option (Token × List Char) := match text with
    | '0' :: c :: rest =>
      (isBase c).map fun base =>
        let digits := rest.takeWhile fun d => (Octets.hexDigit? d).isSome || d == '_'
        let value := (digits.filter (· != '_')).foldl
          (fun n d => n * base + (Octets.hexDigit? d).getD 0) 0
        (.int value, rest.drop digits.length)
    | _ => none
  match based with
  | some found => found
  | none =>
    let isDigit (c : Char) : Bool := c.isDigit || c == '_'
    let whole := text.takeWhile isDigit
    let rest := text.drop whole.length
    let (part, rest) := match rest with
      | '.' :: rest =>
        let digits := rest.takeWhile isDigit
        ('.' :: digits, rest.drop digits.length)
      | rest => ([], rest)
    let power (e : Char) (sign rest : List Char) : Option (List Char × List Char) :=
      let digits := rest.takeWhile isDigit
      if digits.isEmpty then none else some (e :: sign ++ digits, rest.drop digits.length)
    let (exponent, rest) := match rest with
      | e :: s :: more =>
        if e != 'e' && e != 'E' then ([], rest)
        else if s == '+' || s == '-' then (power e [s] more).getD ([], rest)
        else (power e [] (s :: more)).getD ([], rest)
      | rest => ([], rest)
    let digits := (whole ++ part ++ exponent).filter (· != '_')
    if part.isEmpty && exponent.isEmpty then (.int (Octets.digitsValue digits), rest)
    else
      match Fraction.read? Fraction.doubleBits digits with
      | some (fraction, _) => (.float fraction.toFloat, rest)
      | none => (.float 0, rest)

/-- Where a reader of tokens has come to: the tokens come the latest first. -/
structure Scan where
  line : Nat := 1
  /-- The brackets that are open with their lines, the latest first. -/
  brackets : List (String × Nat) := []
  /-- The indents that are open, the latest first. -/
  indents : List Nat := [0]
  found : List (Token × Nat) := []

def Scan.add (scan : Scan) (token : Token) : Scan :=
  { scan with found := (token, scan.line) :: scan.found }

/-- Opens or closes a bracket, if a sign is one. -/
def Scan.bracket (scan : Scan) (mark : String) : Except Fault Scan :=
  let opening? : Option String := [(")", "("), ("]", "["), ("\x7d", "\x7b")].lookup mark
  match opening?, scan.brackets with
  | none, brackets =>
    if ["(", "[", "\x7b"].contains mark then
      .ok { scan with brackets := (mark, scan.line) :: brackets }
    else .ok scan
  | some _, [] => .error ⟨scan.line, "SyntaxError", s!"unmatched '{mark}'"⟩
  | some opening, (open_, _) :: rest =>
    if open_ == opening then .ok { scan with brackets := rest }
    else
      .error ⟨scan.line, "SyntaxError",
        s!"closing parenthesis '{mark}' does not match opening parenthesis '{open_}'"⟩

/-- Opens or closes indents at the beginning of a line. -/
def Scan.indent (scan : Scan) (width : Nat) : Except Fault Scan :=
  let current := (scan.indents.head?).getD 0
  if width == current then .ok scan
  else if width > current then .ok { scan.add .indent with indents := width :: scan.indents }
  else
    let closed := scan.indents.takeWhile (· > width)
    let rest := scan.indents.drop closed.length
    if rest.head? != some width then
      .error ⟨scan.line, "IndentationError", "unindent does not match any outer indentation level"⟩
    else
      .ok (closed.foldl (fun scan _ => scan.add .dedent) { scan with indents := rest })

/-- Reads tokens; `fresh` says whether a line begins. -/
def scan (fuel : Nat) (fresh : Bool) (state : Scan) (whole : List Char) : Except Fault Scan :=
  match fuel with
  | 0 => .ok state
  | fuel + 1 => do
    if fresh then
      let blanks := whole.takeWhile fun c => c == ' ' || c == '\t' || c == '\x0c'
      let rest := whole.drop blanks.length
      let rest := if rest.head? == some '#' then rest.dropWhile (· != '\n') else rest
      match rest with
      | [] => return state
      | '\n' :: rest => scan fuel true { state with line := state.line + 1 } rest
      | rest =>
        let width := blanks.foldl (fun n c => if c == '\t' then (n / 8 + 1) * 8 else n + 1) 0
        scan fuel false (← state.indent width) rest
    else
      match whole with
      | [] => return state
      | c :: rest =>
        if c == '\n' then
          let next := { state with line := state.line + 1 }
          if !state.brackets.isEmpty then scan fuel false next rest
          else scan fuel true { state.add .newLine with line := state.line + 1 } rest
        else if c == ' ' || c == '\t' || c == '\r' || c == '\x0c' then scan fuel false state rest
        else if c == '#' then scan fuel false state (rest.dropWhile (· != '\n'))
        else if c == '\\' && rest.head? == some '\n' then
          scan fuel false { state with line := state.line + 1 } (rest.drop 1)
        else
          match lead? whole with
          | some (letters, quotes) =>
            match quoted? letters quotes with
            | none =>
              throw ⟨state.line, "SyntaxError", s!"unterminated string literal (detected at line {
                state.line})"⟩
            | some (token, rest) =>
              let used := (quotes.take (quotes.length - rest.length)).count '\n'
              scan fuel false { state.add token with line := state.line + used } rest
          | none =>
            if c.isDigit || (c == '.' && (rest.head?).any Char.isDigit) then
              let (token, rest) := number whole
              scan fuel false (state.add token) rest
            else if isWordChar c then
              let word := whole.takeWhile isWordChar
              scan fuel false (state.add (.name (String.ofList word))) (whole.drop word.length)
            else
              match signs.find? fun mark => mark.toList.isPrefixOf whole with
              | none => throw ⟨state.line, "SyntaxError", "invalid syntax"⟩
              | some mark =>
                let state ← state.bracket mark
                scan fuel false (state.add (.sign mark)) (whole.drop mark.length)

/-- The tokens of a text with the lines that they are on; every line has an end. -/
def ofText (text : List Char) : Except Fault (List (Token × Nat)) := do
  let state ← scan (2 * text.length + 2) true {} text
  match state.brackets with
  | (mark, line) :: _ => throw ⟨line, "SyntaxError", s!"'{mark}' was never closed"⟩
  | [] => pure ()
  let state := match state.found.head? with
    | some (.newLine, _) | none => state
    | some _ => state.add .newLine
  let state ← state.indent 0
  return state.found.reverse

end Token
end TaskRunner.Shell.Snippet
