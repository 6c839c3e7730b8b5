import TaskRunner.Json.Basic
/- # TaskRunner.Json.Parser -- reading JSON

`Json.parse?` reads one value with blanks around it and nothing else.  The grammar is the strict
one: no comments, no trailing commas, no leading zeros, no control characters inside a string.  An
escaped surrogate that is not half of a pair makes its string, or the object that it names a part
of, unreadable. -/

namespace TaskRunner.Json
set_option autoImplicit false

namespace Parser

def isBlank (c : Char) : Bool := c == ' ' || c == '\n' || c == '\t' || c == '\r'

def skipBlanks (text : List Char) : List Char := text.dropWhile isBlank

/-- The number of a hexadecimal digit. -/
def hexDigit? (c : Char) : Option Nat :=
  if '0' ≤ c ∧ c ≤ '9' then some (c.toNat - '0'.toNat)
  else if 'a' ≤ c ∧ c ≤ 'f' then some (c.toNat - 'a'.toNat + 10)
  else if 'A' ≤ c ∧ c ≤ 'F' then some (c.toNat - 'A'.toNat + 10)
  else none

/-- The number that four hexadecimal digits write. -/
def hex4? (a b c d : Char) : Option Nat := do
  return (((← hexDigit? a) * 16 + (← hexDigit? b)) * 16 + (← hexDigit? c)) * 16 + (← hexDigit? d)

/-- The character of a code point that is not a surrogate. -/
def scalar? (code : Nat) : Option Char :=
  if h : code.isValidChar then some (Char.ofNatAux code h) else none

/-- The character that a pair of surrogates stands for. -/
def surrogates? (high low : Nat) : Option Char :=
  if 0xD800 ≤ high ∧ high < 0xDC00 ∧ 0xDC00 ≤ low ∧ low < 0xE000 then
    scalar? (0x10000 + (high - 0xD800) * 0x400 + (low - 0xDC00))
  else none

/-- The character of a one-letter escape. -/
def escape? : Char → Option Char
  | '"' => some '"'
  | '\\' => some '\\'
  | '/' => some '/'
  | 'b' => some '\x08'
  | 'f' => some '\x0c'
  | 'n' => some '\n'
  | 'r' => some '\r'
  | 't' => some '\t'
  | _ => none

/-- The inside of a string and what follows its closing quote; `read` holds what was read, last
character first, unless a surrogate stood alone. -/
def stringBody (read : Option (List Char)) : List Char → Option (Option String × List Char)
  | '"' :: rest => some (read.map (String.ofList ·.reverse), rest)
  | '\\' :: 'u' :: a :: b :: c :: d :: '\\' :: 'u' :: e :: f :: g :: h :: rest =>
    match hex4? a b c d with
    | none => none
    | some code =>
      match scalar? code, (hex4? e f g h).bind (surrogates? code) with
      | some char, _ =>
        stringBody (read.map (char :: ·)) ('\\' :: 'u' :: e :: f :: g :: h :: rest)
      | none, some char => stringBody (read.map (char :: ·)) rest
      | none, none => stringBody none ('\\' :: 'u' :: e :: f :: g :: h :: rest)
  | '\\' :: 'u' :: a :: b :: c :: d :: rest =>
    match hex4? a b c d with
    | none => none
    | some code =>
      match scalar? code with
      | some char => stringBody (read.map (char :: ·)) rest
      | none => stringBody none rest
  | '\\' :: c :: rest =>
    match escape? c with
    | some char => stringBody (read.map (char :: ·)) rest
    | none => none
  | c :: rest =>
    if c == '\\' || c.toNat < 0x20 then none else stringBody (read.map (c :: ·)) rest
  | [] => none

/-- The value of a string that was read. -/
def ofString : Option String → Json
  | some text => .string text
  | none => .unreadable

/-- The value of an object that was read, whose fields are given last one first. -/
def ofFields (fields : List (Option String × Json)) : Json :=
  match fields.reverse.mapM fun (name, content) => name.map (·, content) with
  | some fields => .object fields
  | none => .unreadable

def isDigit (c : Char) : Bool := '0' ≤ c && c ≤ '9'

/-- The number that a run of digits writes. -/
def digits (text : List Char) : Nat :=
  text.foldl (fun n c => n * 10 + (c.toNat - '0'.toNat)) 0

/-- The digits before the point: a zero alone, or a run without a leading zero. -/
def wholePart? (text : List Char) : Option (List Char × List Char) :=
  match text with
  | '0' :: rest =>
    match rest with
    | c :: _ => if isDigit c then none else some (['0'], rest)
    | [] => some (['0'], rest)
  | _ =>
    let run := text.takeWhile isDigit
    if run.isEmpty then none else some (run, text.dropWhile isDigit)

/-- The digits after a point, none if there is no point. -/
def fraction? : List Char → Option (List Char × List Char)
  | '.' :: rest =>
    let run := rest.takeWhile isDigit
    if run.isEmpty then none else some (run, rest.dropWhile isDigit)
  | rest => some ([], rest)

/-- The power of ten written after a number, zero if there is none. -/
def exponent? : List Char → Option (Int × List Char)
  | e :: rest =>
    if e == 'e' || e == 'E' then
      let (negative, rest) : Bool × List Char :=
        match rest with
        | '-' :: rest => (true, rest)
        | '+' :: rest => (false, rest)
        | rest => (false, rest)
      let run := rest.takeWhile isDigit
      if run.isEmpty then none
      else
        let n : Int := digits run
        some (if negative then -n else n, rest.dropWhile isDigit)
    else some (0, e :: rest)
  | [] => some (0, [])

/-- A number without its sign. -/
def unsigned? (negative : Bool) (text : List Char) : Option (Json × List Char) := do
  let (whole, rest) ← wholePart? text
  let (fraction, rest) ← fraction? rest
  let (power, rest) ← exponent? rest
  let mantissa : Int := digits (whole ++ fraction)
  return (.number (if negative then -mantissa else mantissa) (power - fraction.length), rest)

mutual

/-- Reads a value at the start of a text.  `fuel` bounds how deeply it nests and how many items it
has; a value has fewer of both than characters. -/
def value (fuel : Nat) (text : List Char) : Option (Json × List Char) :=
  match fuel with
  | 0 => none
  | fuel + 1 =>
    match text with
    | 'n' :: 'u' :: 'l' :: 'l' :: rest => some (.null, rest)
    | 't' :: 'r' :: 'u' :: 'e' :: rest => some (.bool true, rest)
    | 'f' :: 'a' :: 'l' :: 's' :: 'e' :: rest => some (.bool false, rest)
    | '"' :: rest => (stringBody (some []) rest).map fun (text, rest) => (ofString text, rest)
    | '[' :: rest =>
      match skipBlanks rest with
      | ']' :: rest => some (.array [], rest)
      | rest => items fuel [] rest
    | '{' :: rest =>
      match skipBlanks rest with
      | '}' :: rest => some (.object [], rest)
      | rest => fields fuel [] rest
    | '-' :: rest => unsigned? true rest
    | rest => unsigned? false rest

/-- The items of an array from one of them on. -/
def items (fuel : Nat) (read : List Json) (text : List Char) : Option (Json × List Char) :=
  match fuel with
  | 0 => none
  | fuel + 1 =>
    match value fuel (skipBlanks text) with
    | none => none
    | some (item, rest) =>
      match skipBlanks rest with
      | ',' :: rest => items fuel (item :: read) rest
      | ']' :: rest => some (.array (item :: read).reverse, rest)
      | _ => none

/-- The fields of an object from one of them on. -/
def fields (fuel : Nat) (read : List (Option String × Json)) (text : List Char) :
    Option (Json × List Char) :=
  match fuel with
  | 0 => none
  | fuel + 1 =>
    match skipBlanks text with
    | '"' :: rest =>
      match stringBody (some []) rest with
      | none => none
      | some (name, rest) =>
        match skipBlanks rest with
        | ':' :: rest =>
          match value fuel (skipBlanks rest) with
          | none => none
          | some (content, rest) =>
            match skipBlanks rest with
            | ',' :: rest => fields fuel ((name, content) :: read) rest
            | '}' :: rest => some (ofFields ((name, content) :: read), rest)
            | _ => none
        | _ => none
    | _ => none

end

end Parser

/-- The value that a text writes. -/
def parse? (text : String) : Option Json :=
  let chars := text.toList
  match Parser.value (chars.length + 1) (Parser.skipBlanks chars) with
  | some (value, rest) => if (Parser.skipBlanks rest).isEmpty then some value else none
  | none => none

end TaskRunner.Json
