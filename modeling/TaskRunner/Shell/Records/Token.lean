import TaskRunner.Shell.Records.Value
/- # TaskRunner.Shell.Records.Token -- the words and signs of scripts for records

A slash begins an expression where an operand can stand, and divides behind one. -/

namespace TaskRunner.Shell.Records
set_option autoImplicit false

inductive Token where
  | number (number : Float)
  | text (text : Octets)
  | expression (text : Octets)
  | name (name : String)
  /-- A name with an opening bracket behind it. -/
  | function (name : String)
  | builtin (name : String)
  | keyword (name : String)
  | sign (text : String)
  | newLine
  deriving Inhabited

namespace Token

def keywords : List String :=
  ["BEGIN", "END", "function", "if", "else", "while", "for", "do", "break", "continue",
    "next", "nextfile", "exit", "return", "delete", "in", "getline", "print", "printf"]

def builtins : List String :=
  ["length", "substr", "index", "split", "sub", "gsub", "match", "sprintf", "sin", "cos", "atan2",
    "exp", "log", "sqrt", "int", "rand", "srand", "tolower", "toupper", "system", "close", "fflush",
    "systime", "strftime"]

/-- The signs, longer ones in front of those they begin with. -/
def signs : List String :=
  ["&&", "||", "++", "--", "+=", "-=", "*=", "/=", "%=", "^=", "==", "<=", ">=", "!=", "!~", ">>",
    "\x7b", "\x7d", "(", ")", "[", "]", ";", ",", "+", "-", "*", "/", "%", "^", "!", ">", "<", "|",
    "?", ":", "~", "$", "="]

/-- A token as a complaint shows it. -/
def shown : Token → String
  | .number n => Octets.toText (Fraction.digits 'g' none false (.ofFloat n))
  | .text octets => s!"\"{octets.toText}\""
  | .expression octets => s!"/{octets.toText}/"
  | .name word | .function word | .builtin word | .keyword word => word
  | .sign word => word
  | .newLine => "end of line"

/-- Whether an operand can end with a token. -/
def endsOperand : Token → Bool
  | .number _ | .text _ | .name _ | .builtin _ | .expression _ => true
  | .sign word => [")", "]", "$", "++", "--"].contains word
  | _ => false

/-- The octets that what is behind a backslash stands for, and what follows them. -/
def escaped (rest : Octets) : Octets × Octets :=
  match rest with
  | '"' :: rest => (['"'], rest)
  | '\\' :: rest => (['\\'], rest)
  | '/' :: rest => (['\\', '/'], rest)
  | 'a' :: rest => (['\x07'], rest)
  | 'b' :: rest => (['\x08'], rest)
  | 'f' :: rest => (['\x0c'], rest)
  | 'n' :: rest => (['\n'], rest)
  | 'r' :: rest => (['\r'], rest)
  | 't' :: rest => (['\t'], rest)
  | 'v' :: rest => (['\x0b'], rest)
  | '\n' :: rest => ([], rest)
  | c :: rest =>
    let octal := ((c :: rest).take 3).takeWhile Octets.isOctal
    let hex := if c == 'x' then (rest.take 2).takeWhile fun d => (Octets.hexDigit? d).isSome else []
    if !octal.isEmpty then
      ([Char.ofNat (Octets.octalValue octal % 256)], (c :: rest).drop octal.length)
    else if !hex.isEmpty then ([Char.ofNat (Octets.hexValue hex)], rest.drop hex.length)
    else (['\\', c], rest)
  | [] => (['\\'], [])

/-- A text without its backslashes. -/
def unescaped (fuel : Nat) (text : Octets) : Octets :=
  match fuel, text with
  | 0, text => text
  | fuel + 1, '\\' :: rest => (escaped rest).1 ++ unescaped fuel (escaped rest).2
  | fuel + 1, c :: rest => c :: unescaped fuel rest
  | _, [] => []

/-- A text between quotes, and what follows it; nothing if it has no end. -/
def quoted (fuel : Nat) (found rest : Octets) : Option (Octets × Octets) :=
  match fuel, rest with
  | 0, _ | _, [] | _, '\n' :: _ => none
  | _, '"' :: rest => some (found.reverse, rest)
  | fuel + 1, '\\' :: rest =>
    let (octets, rest) := escaped rest
    quoted fuel (octets.reverse ++ found) rest
  | fuel + 1, c :: rest => quoted fuel (c :: found) rest

/-- An expression between slashes, and what follows it. -/
def slashed (fuel : Nat) (inSet : Bool) (found rest : Octets) : Option (Octets × Octets) :=
  match fuel, rest with
  | 0, _ | _, [] | _, '\n' :: _ => none
  | fuel + 1, '\\' :: '/' :: rest => slashed fuel inSet ('/' :: found) rest
  | fuel + 1, '\\' :: c :: rest => slashed fuel inSet (c :: '\\' :: found) rest
  | fuel + 1, '[' :: rest =>
    if inSet then slashed fuel true ('[' :: found) rest
    else
      let (lead, rest) := match rest with
        | '^' :: ']' :: rest => (['^', ']'], rest)
        | ']' :: rest => ([']'], rest)
        | rest => ([], rest)
      slashed fuel (rest.contains ']') (lead.reverse ++ '[' :: found) rest
  | fuel + 1, c :: rest =>
    if c == '/' && !inSet then some (found.reverse, rest)
    else slashed fuel (inSet && c != ']') (c :: found) rest

/-- A text that cannot be cut into tokens: its line, and what is wrong there. -/
structure Fault where
  line : Nat
  problem : String

/-- The tokens of a text with the lines that they are on, the latest first. -/
def scan (fuel line : Nat) (found : List (Token × Nat)) (whole : Octets) :
    Except Fault (List (Token × Nat)) :=
  match fuel, whole with
  | 0, _ | _, [] => .ok found
  | fuel + 1, c :: rest =>
    let mayOperate := (found.head?.map fun entry => entry.1.endsOperand).getD false
    let add (token : Token) (rest : Octets) : Except Fault (List (Token × Nat)) :=
      scan fuel line ((token, line) :: found) rest
    if c == '\n' then scan fuel (line + 1) ((.newLine, line) :: found) rest
    else if c == ' ' || c == '\t' || c == '\r' then scan fuel line found rest
    else if c == '#' then scan fuel line found (rest.dropWhile (· != '\n'))
    else if c == '\\' && rest.head? == some '\n' then scan fuel (line + 1) found (rest.drop 1)
    else if c == '"' then
      let remaining := Octets.toText (rest.takeWhile (· != '\n'))
      match quoted (rest.length + 1) [] rest with
      | some (inside, rest) => add (.text inside) rest
      | none => .error ⟨line, s!"runaway string constant \"{remaining} ..."⟩
    else if c == '/' && !mayOperate then
      let remaining := Octets.toText (rest.takeWhile (· != '\n'))
      match slashed (rest.length + 1) false [] rest with
      | some (inside, rest) => add (.expression inside) rest
      | none => .error ⟨line, s!"runaway regular expression /{remaining} ..."⟩
    else if c.isDigit || (c == '.' && (rest.head?.map Char.isDigit).getD false) then
      match Fraction.read? Fraction.doubleBits whole with
      | some (fraction, rest) => add (.number fraction.toFloat) rest
      | none => .error ⟨line, "syntax error"⟩
    else if c.isAlpha || c == '_' then
      let word := whole.takeWhile isWordOctet
      let rest := whole.drop word.length
      let known := String.ofList word
      if keywords.contains known then add (.keyword known) rest
      else if builtins.contains known then add (.builtin known) rest
      else if rest.head? == some '(' then add (.function known) rest
      else add (.name known) rest
    else
      match signs.find? fun mark => mark.toList.isPrefixOf whole with
      | some mark => add (.sign mark) (whole.drop mark.length)
      | none => .error ⟨line, s!"unexpected character '{c}'"⟩
where
  isWordOctet (c : Char) : Bool := c.isAlphanum || c == '_'

/-- The tokens of a text with the lines that they are on. -/
def ofText (whole : Octets) : Except Fault (List (Token × Nat)) :=
  (scan (whole.length + 1) 1 [] whole).map List.reverse

end Token
end TaskRunner.Shell.Records
