import Std.Data.HashMap
import TaskRunner.Shell.Decimal
import TaskRunner.Shell.Snippet.Syntax
/- # TaskRunner.Shell.Snippet.Value -- the values of snippets

Numbers, texts and tuples are what they are; what can change is kept apart, under a number, so that all
who know it see the change.  Values are written in two ways: as they are meant to be read, and as they
would be written in a snippet. -/

namespace TaskRunner.Shell.Snippet
set_option autoImplicit false

inductive Value where
  | nothing
  | ellipsis
  | bool (value : Bool)
  | int (value : Int)
  | float (value : Float)
  | text (text : List Char)
  | bytes (octets : Octets)
  | tuple (items : List Value)
  | range (start stop step : Int)
  /-- Something that can change. -/
  | object (number : Nat)
  /-- A function, a class or an object of the language. -/
  | builtin (name : String)
  | method (self : Value) (name : String)
  | module (name : String)
  | exception (kind : String) (arguments : List Value)
  | path (path : List Char)
  deriving Inhabited

/-- A file that is open. -/
structure OpenFile where
  number : Nat
  name : List Char
  reads : Bool
  writes : Bool
  binary : Bool := false
  isOpen : Bool := true

/-- Something that can change. -/
inductive Object where
  | list (items : Array Value)
  | dict (entries : Array (Value × Value))
  | set (items : Array Value)
  | function (name : String) (parameters : List (ParameterKind × String × Option Value))
      (body : Block) (scope : Nat)
  | file (file : OpenFile)
  /-- Values that are still to come, with the word that tells what they come from. -/
  | iterator (kind : String) (items : List Value)
  /-- What has become of a command. -/
  | ended (words : Value) (status : Int) (output errors : Value)
  deriving Inhabited

abbrev Heap := Std.HashMap Nat Object

namespace Value

def ofString (text : String) : Value := .text text.toList

/-- The class of an exception, and the one above it. -/
def exceptionKinds : List (String × String) := [
  ("BaseException", ""), ("SystemExit", "BaseException"), ("KeyboardInterrupt", "BaseException"),
  ("Exception", "BaseException"), ("ArithmeticError", "Exception"),
  ("ZeroDivisionError", "ArithmeticError"), ("OverflowError", "ArithmeticError"),
  ("AssertionError", "Exception"), ("AttributeError", "Exception"), ("EOFError", "Exception"),
  ("ImportError", "Exception"), ("ModuleNotFoundError", "ImportError"),
  ("LookupError", "Exception"), ("IndexError", "LookupError"), ("KeyError", "LookupError"),
  ("MemoryError", "Exception"), ("NameError", "Exception"), ("UnboundLocalError", "NameError"),
  ("OSError", "Exception"), ("BlockingIOError", "OSError"), ("BrokenPipeError", "OSError"),
  ("FileExistsError", "OSError"), ("FileNotFoundError", "OSError"),
  ("IsADirectoryError", "OSError"), ("NotADirectoryError", "OSError"),
  ("PermissionError", "OSError"), ("ProcessLookupError", "OSError"), ("TimeoutError", "OSError"),
  ("UnsupportedOperation", "OSError"),
  ("RuntimeError", "Exception"), ("NotImplementedError", "RuntimeError"),
  ("RecursionError", "RuntimeError"), ("StopIteration", "Exception"), ("SyntaxError", "Exception"),
  ("TypeError", "Exception"), ("ValueError", "Exception"), ("UnicodeError", "ValueError"),
  ("UnicodeDecodeError", "UnicodeError"), ("CalledProcessError", "Exception"),
  ("Warning", "Exception")]

/-- The class that a name of one stands for. -/
def exceptionKind? (name : String) : Option String :=
  if name == "IOError" || name == "EnvironmentError" then some "OSError"
  else if (exceptionKinds.lookup name).isSome then some name else none

/-- Whether a class of exceptions belongs to another one. -/
def belongsTo (fuel : Nat) (kind whole : String) : Bool :=
  match fuel with
  | 0 => false
  | fuel + 1 =>
    if kind == whole then true
    else
      match exceptionKinds.lookup kind with
      | some above => above != "" && belongsTo fuel above whole
      | none => false

/-- The classes of values. -/
def classes : List String :=
  ["bool", "bytes", "dict", "float", "int", "list", "object", "range", "set", "str", "tuple", "type",
    "frozenset"]

/-- The class of a value. -/
def kind (heap : Heap) : Value → String
  | nothing => "NoneType"
  | ellipsis => "ellipsis"
  | bool _ => "bool"
  | int _ => "int"
  | float _ => "float"
  | text _ => "str"
  | bytes _ => "bytes"
  | tuple _ => "tuple"
  | range _ _ _ => "range"
  | builtin name =>
    if classes.contains name || (exceptionKind? name).isSome then "type"
    else "builtin_function_or_method"
  | method _ _ => "builtin_function_or_method"
  | module _ => "module"
  | exception kind _ => kind
  | path _ => "PosixPath"
  | object number =>
    match heap[number]? with
    | some (.list _) => "list"
    | some (.dict _) => "dict"
    | some (.set _) => "set"
    | some (.function _ _ _ _) => "function"
    | some (.file file) => if file.binary then "_io.BufferedReader" else "_io.TextIOWrapper"
    | some (.iterator kind _) => kind
    | some (.ended _ _ _ _) => "CompletedProcess"
    | none => "object"

/-! ## Numbers -/

/-- The whole number that a value is. -/
def int? : Value → Option Int
  | int n => some n
  | bool b => some (if b then 1 else 0)
  | _ => none

/-- The nearest number of the machine to a whole one. -/
def floatOfInt (n : Int) : Float :=
  (Fraction.ofRatio Fraction.doubleBits (n < 0) n.natAbs 1).toFloat

def float? : Value → Option Float
  | float x => some x
  | value => value.int?.map floatOfInt

/-- The whole number next to a number of the machine, towards zero. -/
def intOfFloat? (x : Float) : Option Int :=
  match Fraction.ofFloat x with
  | .finite negative mantissa exponent =>
    let (n, d) := Fraction.ratio mantissa exponent
    some (if negative then -((n / d : Nat) : Int) else ((n / d : Nat) : Int))
  | _ => none

/-- Whether a whole number and a number of the machine are the same, and whether the first is
less. -/
def compareIntFloat (n : Int) (x : Float) : Bool × Bool :=
  match Fraction.ofFloat x with
  | .finite negative mantissa exponent =>
    let (p, q) := Fraction.ratio mantissa exponent
    let p : Int := if negative then -(p : Int) else p
    (n * q == p, n * q < p)
  | .infinite negative => (false, !negative)
  | .undefined _ => (false, false)

/-! ## Texts of numbers -/

/-- The fewest digits that read back as a number that is not zero, and the power of ten of the first
of them. -/
def shortest (mantissa : Nat) (exponent : Int) : Octets × Int :=
  let value := (Fraction.finite false mantissa exponent).toFloat
  let fits (places : Nat) : Option (Octets × Int) :=
    let (digits, power) := Fraction.leadingDigits places mantissa exponent
    let n := Octets.digitsValue digits
    let scale := power - (digits.length - 1 : Nat)
    let back := if scale < 0 then
        Fraction.ofRatio Fraction.doubleBits false n (Nat.pow 10 (-scale).toNat)
      else Fraction.ofRatio Fraction.doubleBits false (n * Nat.pow 10 scale.toNat) 1
    if back.toFloat == value then some (digits, power) else none
  ((List.range 17).findSome? fits).getD (Fraction.leadingDigits 16 mantissa exponent)

/-- A number with the fewest digits that read back, positional where its power of ten is small. -/
def floatText (x : Float) : List Char :=
  let sign (negative : Bool) : List Char := if negative then ['-'] else []
  match Fraction.ofFloat x with
  | .infinite negative => sign negative ++ "inf".toList
  | .undefined _ => "nan".toList
  | .finite negative mantissa exponent =>
    if mantissa == 0 then sign negative ++ "0.0".toList
    else
      let (digits, power) := shortest mantissa exponent
      let digits := (digits.reverse.dropWhile (· == '0')).reverse
      let digits := if digits.isEmpty then ['0'] else digits
      let body : List Char :=
        if power < -4 || power ≥ 16 then
          let part := if digits.length > 1 then '.' :: digits.drop 1 else []
          let shown := Octets.padStart 2 (Octets.ofNat power.natAbs) '0'
          digits.take 1 ++ part ++ ['e', if power < 0 then '-' else '+'] ++ shown
        else if power < 0 then
          "0.".toList ++ List.replicate (power.natAbs - 1) '0' ++ digits
        else
          let whole := Octets.padStart 0 (digits.take (power.toNat + 1))
          let whole := whole ++ List.replicate (power.toNat + 1 - whole.length) '0'
          let part := digits.drop (power.toNat + 1)
          whole ++ '.' :: (if part.isEmpty then ['0'] else part)
      sign negative ++ body

/-! ## Texts of texts -/

def hexadecimal (width n : Nat) : List Char :=
  Octets.padStart width (Nat.toDigits 16 n) '0'

/-- The quote for a text, and a character in it. -/
def quoteFor (text : List Char) : Char :=
  if text.contains '\'' && !text.contains '"' then '"' else '\''

def quotedChar (quote c : Char) : List Char :=
  if c == quote || c == '\\' then ['\\', c]
  else if c == '\n' then ['\\', 'n']
  else if c == '\r' then ['\\', 'r']
  else if c == '\t' then ['\\', 't']
  else if c.toNat < 32 || (c.toNat ≥ 127 && c.toNat < 161) || c.toNat == 173 then
    '\\' :: 'x' :: hexadecimal 2 c.toNat
  else [c]

/-- A text as a snippet writes it. -/
def quotedText (text : List Char) : List Char :=
  let quote := quoteFor text
  quote :: text.flatMap (quotedChar quote) ++ [quote]

def quotedBytes (octets : Octets) : List Char :=
  let quote := quoteFor octets
  let shown (c : Char) : List Char :=
    if c.toNat ≥ 127 then '\\' :: 'x' :: hexadecimal 2 c.toNat else quotedChar quote c
  'b' :: quote :: octets.flatMap shown ++ [quote]

/-! ## Texts of values -/

def joined (between : String) (texts : List (List Char)) : List Char :=
  between.toList.intercalate texts

mutual

/-- A value as a snippet writes it. -/
def written (heap : Heap) (fuel : Nat) (value : Value) : List Char :=
  match fuel with
  | 0 => "...".toList
  | fuel + 1 =>
    match value with
    | nothing => "None".toList
    | ellipsis => "Ellipsis".toList
    | bool b => (if b then "True" else "False").toList
    | int n => Octets.ofInt n
    | float x => floatText x
    | text t => quotedText t
    | bytes octets => quotedBytes octets
    | tuple items =>
      match writtenAll heap fuel items with
      | [one] => '(' :: one ++ ",)".toList
      | several => '(' :: joined ", " several ++ [')']
    | range start stop step =>
      let step := if step == 1 then [] else ", ".toList ++ Octets.ofInt step
      "range(".toList ++ Octets.ofInt start ++ ", ".toList ++ Octets.ofInt stop ++ step ++ [')']
    | builtin name =>
      if classes.contains name || (exceptionKind? name).isSome then s!"<class '{name}'>".toList
      else s!"<built-in function {name}>".toList
    | method _ name => s!"<built-in method {name}>".toList
    | module name => s!"<module '{name}' (built-in)>".toList
    | exception kind items =>
      kind.toList ++ '(' :: joined ", " (writtenAll heap fuel items) ++ [')']
    | path p => "PosixPath(".toList ++ quotedText p ++ [')']
    | object number =>
      match heap[number]? with
      | some (.list items) => '[' :: joined ", " (writtenAll heap fuel items.toList) ++ [']']
      | some (.set items) =>
        if items.isEmpty then "set()".toList
        else '\x7b' :: joined ", " (writtenAll heap fuel items.toList) ++ ['\x7d']
      | some (.dict entries) =>
        let keys := writtenAll heap fuel (entries.toList.map Prod.fst)
        let values := writtenAll heap fuel (entries.toList.map Prod.snd)
        let shown := (keys.zip values).map fun (key, value) => key ++ ": ".toList ++ value
        '\x7b' :: joined ", " shown ++ ['\x7d']
      | some (.function name _ _ _) => s!"<function {name} at 0x7f0000000000>".toList
      | some (.file file) =>
        "<_io.TextIOWrapper name=".toList ++ quotedText file.name ++ ['>']
      | some (.iterator kind _) => s!"<{kind} object at 0x7f0000000000>".toList
      | some (.ended words status _ _) =>
        "CompletedProcess(args=".toList ++ written heap fuel words ++ ", returncode=".toList ++
          Octets.ofInt status ++ [')']
      | none => "<object>".toList

/-- Values as a snippet writes them. -/
def writtenAll (heap : Heap) (fuel : Nat) (values : List Value) : List (List Char) :=
  match fuel, values with
  | 0, _ | _, [] => []
  | fuel + 1, value :: rest => written heap fuel value :: writtenAll heap fuel rest

end

/-- How deep values are looked into. -/
def maxDepth : Nat := 1000000

/-- A value as a snippet writes it. -/
def repr (heap : Heap) (value : Value) : List Char := written heap maxDepth value

/-- A value as it is meant to be read. -/
def shown (heap : Heap) : Value → List Char
  | text t => t
  | path p => p
  | exception kind items =>
    match items with
    | [] => []
    | [one] =>
      if kind == "KeyError" then repr heap one
      else match one with
        | text t => t
        | other => repr heap other
    | [int n, text problem] =>
      if belongsTo 10 kind "OSError" then
        "[Errno ".toList ++ Octets.ofInt n ++ "] ".toList ++ problem
      else repr heap (.tuple items)
    | [int n, text problem, name] =>
      if belongsTo 10 kind "OSError" then
        "[Errno ".toList ++ Octets.ofInt n ++ "] ".toList ++ problem ++ ": ".toList ++
          repr heap name
      else repr heap (.tuple items)
    | [int n, text problem, name, nothing, other] =>
      if belongsTo 10 kind "OSError" then
        "[Errno ".toList ++ Octets.ofInt n ++ "] ".toList ++ problem ++ ": ".toList ++
          repr heap name ++ " -> ".toList ++ repr heap other
      else repr heap (.tuple items)
    | several => repr heap (.tuple several)
  | value => repr heap value

/-- Whether a value counts as true. -/
def isTrue (heap : Heap) : Value → Bool
  | nothing => false
  | bool b => b
  | int n => n != 0
  | float x => x != 0
  | text t => !t.isEmpty
  | bytes octets => !octets.isEmpty
  | tuple items => !items.isEmpty
  | range start stop step => if step > 0 then start < stop else start > stop
  | object number =>
    match heap[number]? with
    | some (.list items) => !items.isEmpty
    | some (.dict entries) => !entries.isEmpty
    | some (.set items) => !items.isEmpty
    | _ => true
  | _ => true

/-! ## Comparing -/

/-- Whether two rows have equal members at the same places. -/
def allSame (same : Value → Value → Bool) : List Value → List Value → Bool
  | [], [] => true
  | a :: as, b :: bs => same a b && allSame same as bs
  | _, _ => false

/-- Whether two values are equal. -/
def same (heap : Heap) (fuel : Nat) (a b : Value) : Bool :=
  match fuel with
  | 0 => false
  | fuel + 1 =>
    let same := same heap fuel
    match a, b with
    | nothing, nothing => true
    | ellipsis, ellipsis => true
    | text s, text t => s == t
    | bytes s, bytes t => s == t
    | path s, path t => s == t
    | tuple s, tuple t => allSame same s t
    | range a b c, range a' b' c' => a == a' && b == b' && c == c'
    | builtin s, builtin t => s == t
    | module s, module t => s == t
    | float x, float y => x == y
    | object m, object n =>
      if m == n then true
      else
        match heap[m]?, heap[n]? with
        | some (.list s), some (.list t) => allSame same s.toList t.toList
        | some (.set s), some (.set t) =>
          s.size == t.size && s.all fun x => t.any fun y => same x y
        | some (.dict s), some (.dict t) =>
          s.size == t.size && s.all fun (key, value) =>
            t.any fun (key', value') => same key key' && same value value'
        | _, _ => false
    | a, b =>
      match a.int?, b.int? with
      | some m, some n => m == n
      | some m, none =>
        match b with
        | float y => (compareIntFloat m y).1
        | _ => false
      | none, some n =>
        match a with
        | float x => (compareIntFloat n x).1
        | _ => false
      | none, none => false

def equals (heap : Heap) (a b : Value) : Bool := same heap 10000 a b

/-- Whether a row comes in front of another one; nothing if members cannot be compared. -/
def rowLess? (same : Value → Value → Bool) (less? : Value → Value → Option Bool) :
    List Value → List Value → Option Bool
  | [], [] => some false
  | [], _ => some true
  | _, [] => some false
  | a :: as, b :: bs => if same a b then rowLess? same less? as bs else less? a b

/-- Whether a text comes in front of another one. -/
def textLess : List Char → List Char → Bool
  | [], [] => false
  | [], _ => true
  | _, [] => false
  | a :: as, b :: bs => a < b || (a == b && textLess as bs)

/-- Whether a value is less than another one; nothing if they cannot be compared. -/
def less? (heap : Heap) (fuel : Nat) (a b : Value) : Option Bool :=
  match fuel with
  | 0 => none
  | fuel + 1 =>
    match a, b with
    | text s, text t => some (textLess s t)
    | bytes s, bytes t => some (textLess s t)
    | path s, path t => some (textLess s t)
    | float x, float y => some (x < y)
    | tuple s, tuple t => rowLess? (equals heap) (less? heap fuel) s t
    | object m, object n =>
      match heap[m]?, heap[n]? with
      | some (.list s), some (.list t) => rowLess? (equals heap) (less? heap fuel) s.toList t.toList
      | some (.set s), some (.set t) =>
        some (s.size < t.size && s.all fun x => t.any fun y => equals heap x y)
      | _, _ => none
    | a, b =>
      match a.int?, b.int? with
      | some m, some n => some (m < n)
      | some m, none =>
        match b with
        | float y => some (compareIntFloat m y).2
        | _ => none
      | none, some n =>
        match a with
        | float x =>
          let (equal, less) := compareIntFloat n x
          some (!equal && !less && x == x)
        | _ => none
      | none, none => none

end Value
end TaskRunner.Shell.Snippet
