import TaskRunner.Shell.Octets
/- # TaskRunner.Shell.Quoting -- texts as the shell would read them back

A quoted text is one word to a shell, whatever is in it. -/

namespace TaskRunner.Shell.Quoting
set_option autoImplicit false

/-- An octet that has no meaning of its own to a shell. -/
def isPlain (c : Char) : Bool := c.isAlphanum || "%+,-./:=@_".toList.contains c

def isControl (c : Char) : Bool := c.toNat < 32 || c.toNat == 127

/-- A text in single quotes; those inside of it are put into double quotes. -/
def single (text : Octets) : Octets :=
  let (found, last) := text.foldr
    (fun c (state : List Octets × Octets) =>
      if c == '\'' then (state.2 :: state.1, []) else (state.1, c :: state.2))
    ([], [])
  let quoted (part : Octets) : Octets := if part.isEmpty then [] else '\'' :: part ++ ['\'']
  match found with
  | [] => '\'' :: last ++ ['\'']
  | _ => Octets.join "\"'\"".toList ((last :: found).map quoted)

/-- A text in single quotes; one inside of it has a backslash between two quoted parts. -/
def singleEscaped (text : Octets) : Octets :=
  '\'' :: text.flatMap (fun c => if c == '\'' then "'\\''".toList else [c]) ++ ['\'']

/-- An octet of a text in the quotes in which backslashes stand for control characters. -/
def escapedOctet (c : Char) : Octets :=
  match c with
  | '\n' => "\\n".toList
  | '\t' => "\\t".toList
  | '\r' => "\\r".toList
  | '\x07' => "\\a".toList
  | '\x08' => "\\b".toList
  | '\x0b' => "\\v".toList
  | '\x0c' => "\\f".toList
  | '\x1b' => "\\E".toList
  | '\'' => "\\'".toList
  | '\\' => "\\\\".toList
  | c =>
    if isControl c || c.toNat > 126 then
      '\\' :: Octets.padStart 3 (Nat.toDigits 8 c.toNat) '0'
    else [c]

def dollarQuoted (text : Octets) : Octets :=
  "$'".toList ++ text.flatMap escapedOctet ++ ['\'']

/-- A text with backslashes in front of octets that have a meaning. -/
def backslashed (text : Octets) : Octets :=
  if text.isEmpty then ['\'', '\'']
  else if text.any fun c => isControl c || c.toNat > 126 then dollarQuoted text
  else text.flatMap fun c => if isPlain c then [c] else ['\\', c]

/-- A text in single quotes, or in those with backslashes if it has control characters. -/
def always (text : Octets) : Octets :=
  if text.any isControl then dollarQuoted text else singleEscaped text

/-- A text in quotes only where it needs them. -/
def whereNeeded (text : Octets) : Octets :=
  if !text.isEmpty && text.all isPlain then text else always text

/-- The inside of single quotes, with control characters in quotes in which backslashes stand for
them; `outside` says whether such quotes are open. -/
def segments (outside : Bool) : Octets → Octets
  | [] => ['\'']
  | c :: rest =>
    if isControl c || c.toNat > 126 then
      (if outside then [] else "'$'".toList) ++ escapedOctet c ++ segments true rest
    else
      (if outside then ['\'', '\''] else []) ++
        (if c == '\'' then "'\\''".toList else [c]) ++ segments false rest

/-- An octet that is written alike in single and in double quotes. -/
def isShared (c : Char) : Bool := c.isAlphanum || "%+,-./:@_] '".toList.contains c

/-- A text between quotes, as programs write it in what they report: in double ones where single ones
are inside of it and nothing else needs care. -/
def reported (text : Octets) : Octets :=
  if text.contains '\'' && text.all isShared then '"' :: text ++ ['"']
  else '\'' :: segments false text

/-- Whether a text can be named without quotes. -/
def isSafe (text : Octets) : Bool :=
  let isSafeOctet (c : Char) : Bool := isPlain c && c != '=' || "]\x7b\x7d#~".toList.contains c
  !text.isEmpty && text.all isSafeOctet && text.head? != some '#' && text.head? != some '~' &&
    text != ['{'] && text != ['\x7d']

/-- A text in the form in which a shell reads it back, in quotes only where it needs them. -/
def named (text : Octets) : Octets := if isSafe text then text else reported text

/-- The name of a file in what programs report, where a colon comes behind it. -/
def labelled (text : Octets) : Octets :=
  if isSafe text && !text.contains ':' then text else reported text

/-- A text between quotes in which control characters are written with backslashes. -/
def quoted (text : Octets) : Octets := '\'' :: text.flatMap escapedOctet ++ ['\'']

/-- A text in double quotes. -/
def double (text : Octets) : Octets :=
  if text.any isControl then dollarQuoted text
  else '"' :: text.flatMap (fun c => if "$\x60\"\\".toList.contains c then ['\\', c] else [c]) ++ ['"']

end TaskRunner.Shell.Quoting
