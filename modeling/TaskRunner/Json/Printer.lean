import TaskRunner.Json.Basic
/- # TaskRunner.Json.Printer -- writing JSON

Two layouts of one value: `compress` puts it on one line without blanks, `pretty` gives each item a
line and indents by two blanks.  Inside a string only quotes, backslashes and control characters are
escaped; all other characters are written as they are. -/

namespace TaskRunner.Json
set_option autoImplicit false

namespace Printer

def hexDigit (n : Nat) : Char := Char.ofNat (if n < 10 then n + 48 else n + 87)

/-- One character inside a string. -/
def escape (c : Char) : List Char :=
  match c with
  | '"' => ['\\', '"']
  | '\\' => ['\\', '\\']
  | '\x08' => ['\\', 'b']
  | '\x0c' => ['\\', 'f']
  | '\n' => ['\\', 'n']
  | '\r' => ['\\', 'r']
  | '\t' => ['\\', 't']
  | c =>
    if c.toNat < 0x20 then
      ['\\', 'u', '0', '0', hexDigit (c.toNat / 16), hexDigit (c.toNat % 16)]
    else [c]

/-- A text as a JSON string. -/
def quote (text : String) : String :=
  String.ofList ('"' :: text.toList.flatMap escape ++ ['"'])

/-- A number; the power of ten is written out only where there is one. -/
def number (mantissa exponent : Int) : String :=
  if exponent = 0 then toString mantissa else toString mantissa ++ "e" ++ toString exponent

/-- A line break followed by `depth` steps of indentation. -/
def newline (depth : Nat) : String := String.ofList ('\n' :: List.replicate (2 * depth) ' ')

mutual

def compress : Json → String
  | .null => "null"
  | .bool value => if value then "true" else "false"
  | .number mantissa exponent => number mantissa exponent
  | .string text => quote text
  | .unreadable => quote "\ufffd"
  | .array items => "[" ++ ",".intercalate (compressItems items) ++ "]"
  | .object fields => "\x7b" ++ ",".intercalate (compressFields fields) ++ "\x7d"

def compressItems : List Json → List String
  | [] => []
  | item :: rest => compress item :: compressItems rest

def compressFields : List (String × Json) → List String
  | [] => []
  | (name, value) :: rest => (quote name ++ ":" ++ compress value) :: compressFields rest

end

mutual

/-- A value whose lines after the first are indented by `depth` steps. -/
def pretty (depth : Nat) : Json → String
  | .null => "null"
  | .bool value => if value then "true" else "false"
  | .number mantissa exponent => number mantissa exponent
  | .string text => quote text
  | .unreadable => quote "\ufffd"
  | .array [] => "[]"
  | .array (item :: rest) =>
    "[" ++ newline (depth + 1) ++ pretty (depth + 1) item ++ prettyItems (depth + 1) rest ++
      newline depth ++ "]"
  | .object [] => "\x7b\x7d"
  | .object ((name, value) :: rest) =>
    "\x7b" ++ newline (depth + 1) ++ quote name ++ ": " ++ pretty (depth + 1) value ++
      prettyFields (depth + 1) rest ++ newline depth ++ "\x7d"

/-- The items after the first, each on a line of its own. -/
def prettyItems (depth : Nat) : List Json → String
  | [] => ""
  | item :: rest => "," ++ newline depth ++ pretty depth item ++ prettyItems depth rest

/-- The fields after the first, each on a line of its own. -/
def prettyFields (depth : Nat) : List (String × Json) → String
  | [] => ""
  | (name, value) :: rest =>
    "," ++ newline depth ++ quote name ++ ": " ++ pretty depth value ++ prettyFields depth rest

end

end Printer

/-- A value on one line. -/
def compress (value : Json) : String := Printer.compress value

/-- A value with one item to a line. -/
def pretty (value : Json) : String := Printer.pretty 0 value

end TaskRunner.Json
