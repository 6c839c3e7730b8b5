import TaskRunner.FileSystem
import TaskRunner.Shell.Octets
/- # TaskRunner.Shell.Condition -- conditions on texts, numbers and files

The conditions that `test` and its bracket decide: comparisons, questions about files, and their
combinations.  A word that looks like an operator may stand for itself, depending on what is around
it; the two dialects differ in when it does. -/

namespace TaskRunner.Shell.Condition
set_option autoImplicit false

/-- What a condition may look at. -/
structure View where
  files : FileSystem
  place : Location
  /-- Whether a variable is set, and an option. -/
  isSet : Octets → Bool := fun _ => false
  hasOption : Octets → Bool := fun _ => false

/-- What is wrong with a condition. -/
inductive Fault where
  | badNumber (text : Octets)
  | unexpected (word : Octets)
  | noArgument (operator : Octets)
  | noClosing
  | noOperator (word : Octets) (between : Bool)
  | tooMany
  deriving DecidableEq, Repr

namespace View

/-- What a path leads to. -/
def node? (view : View) (path : Octets) (follow : Bool := true) : Option Node :=
  ((view.files.find view.place path.toText follow).toOption).map (·.2)

end View

/-! ## Questions -/

def unaryOperators : List Char := "rwxefdcbpugkstznhOGLS".toList

def isNonEmpty (node : Node) : Bool :=
  match node.content with
  | .file bytes => bytes.size != 0
  | .directory => true
  | _ => false

/-- Whether one of some bits of the permissions is set. -/
def hasMode (bits : Nat) (node : Node) : Bool := node.mode &&& bits != 0

/-- A question about one word. -/
def unary (view : View) (operator : Char) (word : Octets) : Bool :=
  let ask (question : Node → Bool) : Bool := (view.node? word).any question
  match operator with
  | 'n' => !word.isEmpty
  | 'z' => word.isEmpty
  | 'f' => ask Node.isFile
  | 'd' => ask Node.isDirectory
  | 'x' => ask fun node => node.isDirectory || (node.isFile && node.isExecutable)
  | 's' => ask isNonEmpty
  | 'L' | 'h' => (view.node? word false).any Node.isLink
  | 'c' => ask fun node => node.device?.isSome
  | 'u' => ask (hasMode 0o4000)
  | 'g' => ask (hasMode 0o2000)
  | 'k' => ask (hasMode 0o1000)
  | 'v' => view.isSet word
  | 'o' => view.hasOption word
  | 'e' | 'a' | 'r' | 'w' | 'O' | 'G' | 'N' => ask fun _ => true
  | _ => false

/-- Whether an operator compares two numbers, and how. -/
def numeric? : String → Option (Int → Int → Bool)
  | "-eq" => some (· == ·)
  | "-ne" => some (· != ·)
  | "-lt" => some fun a b => decide (a < b)
  | "-le" => some fun a b => decide (a ≤ b)
  | "-gt" => some fun a b => decide (a > b)
  | "-ge" => some fun a b => decide (a ≥ b)
  | _ => none

/-- A number with blanks around it. -/
def number (text : Octets) : Except Fault Int :=
  let body := ((text.dropWhile Octets.isSpace).reverse.dropWhile Octets.isSpace).reverse
  match Octets.integer? body with
  | some n => .ok n
  | none => .error (.badNumber text)

/-- Whether a file was changed after another.  In the extended dialect it is enough that the other one
is not there. -/
def isNewer (view : View) (dialect : Bool) (a b : Octets) : Bool :=
  match (view.node? a).map Node.modified, (view.node? b).map Node.modified with
  | some s, some t => decide (t < s)
  | some _, none => dialect
  | _, _ => false

def binaryOperators (extended : Bool) : List String :=
  ["=", "!=", "<", ">", "-eq", "-ne", "-ge", "-gt", "-le", "-lt", "-nt", "-ot", "-ef"] ++
    (if extended then ["=="] else [])

def isBinary (extended : Bool) (word : Octets) : Bool :=
  (binaryOperators extended).any (·.toList == word)

/-- A comparison of two words. -/
def binary (view : View) (extended : Bool) (a operator b : Octets) : Except Fault Bool :=
  match String.ofList operator with
  | "=" | "==" => .ok (a == b)
  | "!=" => .ok (a != b)
  | "<" => .ok (Octets.isOrdered a b && a != b)
  | ">" => .ok (Octets.isOrdered b a && a != b)
  | "-nt" => .ok (isNewer view extended a b)
  | "-ot" => .ok (isNewer view extended b a)
  | "-ef" =>
    let node (path : Octets) : Option Nat :=
      ((view.files.find view.place path.toText).toOption).bind fun found =>
        view.files.number? found.1
    .ok ((node a).isSome && node a == node b)
  | operator =>
    match numeric? operator with
    | some compare => do return compare (← number a) (← number b)
    | none => .ok false

/-! ## The plain dialect -/

/-- What a word is where a condition is read. -/
inductive Sign where
  | nothing
  | operand
  | unary (letter : Char)
  | binary
  | not
  | and
  | or
  | opening
  | closing
  deriving DecidableEq

/-- What a word would be by itself. -/
def signOf (word : Octets) : Sign :=
  match word with
  | ['-', 'a'] => .and
  | ['-', 'o'] => .or
  | ['!'] => .not
  | ['('] => .opening
  | [')'] => .closing
  | ['-', c] => if unaryOperators.contains c then .unary c else .operand
  | word => if isBinary false word then .binary else .operand

/-- What the first of some words is: an operator on one word stands for itself where nothing follows
it, or where the next word compares it with another. -/
def sign (words : List Octets) : Sign :=
  match words with
  | [] => .nothing
  | word :: rest =>
    match signOf word, rest with
    | .unary _, [] => .operand
    | .unary letter, [_] => .unary letter
    | .unary letter, next :: _ => if signOf next == .binary then .operand else .unary letter
    | .opening, [] => .operand
    | sign, _ => sign

mutual

/-- Reads conditions one of which is to hold.  The words that are left start with the last one that
was read. -/
def readAny (view : View) (fuel : Nat) (sign_ : Sign) (words : List Octets) :
    Except Fault (Bool × List Octets) :=
  match fuel with
  | 0 => .error .tooMany
  | fuel + 1 => do
    let (first, words) ← readAll view fuel sign_ words
    if sign words.tail == .or then
      let rest := words.drop 2
      let (second, words) ← readAny view fuel (sign rest) rest
      return (first || second, words)
    else return (first, words)

/-- Reads conditions that are to hold together. -/
def readAll (view : View) (fuel : Nat) (sign_ : Sign) (words : List Octets) :
    Except Fault (Bool × List Octets) :=
  match fuel with
  | 0 => .error .tooMany
  | fuel + 1 => do
    let (first, words) ← readOne view fuel sign_ words
    if sign words.tail == .and then
      let rest := words.drop 2
      let (second, words) ← readAll view fuel (sign rest) rest
      return (first && second, words)
    else return (first, words)

/-- Reads one condition. -/
def readOne (view : View) (fuel : Nat) (sign_ : Sign) (words : List Octets) :
    Except Fault (Bool × List Octets) :=
  match fuel with
  | 0 => .error .tooMany
  | fuel + 1 => do
    match sign_ with
    | .not =>
      let next := sign words.tail
      let (value, words) ← readOne view fuel next (if next == .nothing then words else words.tail)
      return (!value, words)
    | .nothing => return (false, words)
    | .opening =>
      let inside := words.tail
      if sign inside == .closing then return (false, inside)
      else
        let (value, words) ← readAny view fuel (sign inside) inside
        if sign words.tail == .closing then return (value, words.tail) else .error .noClosing
    | .unary letter =>
      match words with
      | _ :: word :: _ => return (unary view letter word, words.tail)
      | operator => .error (.noArgument (operator.head?.getD []))
    | _ =>
      match words with
      | [] => return (false, [])
      | word :: rest =>
        if sign rest == .binary then
          match rest with
          | operator :: other :: _ => return (← binary view false word operator other, rest.tail)
          | operator => .error (.noArgument (operator.head?.getD []))
        else return (!word.isEmpty, words)

end

/-- Whether the condition that words write holds in the plain dialect. -/
def decidePlain (view : View) (words : List Octets) : Except Fault Bool := do
  let compares : Bool := match words with
    | [_, operator, _] => signOf operator == .binary
    | _ => false
  let short := (words.length == 3 && !compares) || words.length == 4
  let bracketed := short && words.head? == some ['('] && words.getLast? == some [')']
  let negated := short && !bracketed && words.head? == some ['!']
  let words := if bracketed then words.tail.dropLast else if negated then words.tail else words
  if words.isEmpty then return false
  let first := if compares then Sign.operand else sign words
  let (value, rest) ← readAny view (8 * words.length + 8) first words
  match rest with
  | word :: _ :: _ => .error (.unexpected word)
  | _ => return value != negated

/-! ## The extended dialect -/

/-- The letter of an operator on one word. -/
def unaryLetter? (word : Octets) : Option Char :=
  match word with
  | ['-', c] => if c == 'a' || c == 'o' || c == 'v' || c == 'N' || unaryOperators.contains c
    then some c else none
  | _ => none

mutual

/-- Reads conditions of any length, one of which is to hold. -/
def parseAny (view : View) (fuel : Nat) (words : List Octets) :
    Except Fault (Bool × List Octets) :=
  match fuel with
  | 0 => .error .tooMany
  | fuel + 1 => do
    let (first, rest) ← parseAll view fuel words
    match rest with
    | ['-', 'o'] :: rest =>
      let (second, rest) ← parseAny view fuel rest
      return (first || second, rest)
    | rest => return (first, rest)

def parseAll (view : View) (fuel : Nat) (words : List Octets) :
    Except Fault (Bool × List Octets) :=
  match fuel with
  | 0 => .error .tooMany
  | fuel + 1 => do
    let (first, rest) ← parseOne view fuel words
    match rest with
    | ['-', 'a'] :: rest =>
      let (second, rest) ← parseAll view fuel rest
      return (first && second, rest)
    | rest => return (first, rest)

def parseOne (view : View) (fuel : Nat) (words : List Octets) :
    Except Fault (Bool × List Octets) :=
  match fuel, words with
  | 0, _ => .error .tooMany
  | _ + 1, [] => .error (.noArgument [])
  | fuel + 1, word :: rest => do
    match rest with
    | operator :: other :: after =>
      if isBinary true operator then
        return (← binary view true word operator other, after)
    | _ => pure ()
    if word == ['!'] then
      let (value, rest) ← parseOne view fuel rest
      return (!value, rest)
    else if word == ['('] then
      match ← parseAny view fuel rest with
      | (value, [')'] :: rest) => return (value, rest)
      | _ => .error .noClosing
    else
      match unaryLetter? word, rest with
      | some letter, other :: rest => return (unary view letter other, rest)
      | _, _ => return (!word.isEmpty, rest)

end

/-- A condition of two words. -/
def decideTwo (view : View) (first second : Octets) : Except Fault Bool :=
  if first == ['!'] then .ok second.isEmpty
  else
    match unaryLetter? first with
    | some letter => .ok (unary view letter second)
    | none => .error (.noOperator first false)

/-- A condition of three words. -/
def decideThree (view : View) (first second third : Octets) : Except Fault Bool :=
  if isBinary true second then binary view true first second third
  else if second == ['-', 'a'] then .ok (!first.isEmpty && !third.isEmpty)
  else if second == ['-', 'o'] then .ok (!first.isEmpty || !third.isEmpty)
  else if first == ['!'] then (decideTwo view second third).map (!·)
  else if first == ['('] && third == [')'] then .ok !second.isEmpty
  else .error (.noOperator second true)

/-- A condition of more words. -/
def decideLong (view : View) (words : List Octets) : Except Fault Bool := do
  let (value, rest) ← parseAny view (8 * words.length + 8) words
  if rest.isEmpty then return value else .error .tooMany

/-- Whether the condition that words write holds in the extended dialect. -/
def decideExtended (view : View) (words : List Octets) : Except Fault Bool :=
  match words with
  | [] => .ok false
  | [word] => .ok !word.isEmpty
  | [first, second] => decideTwo view first second
  | [first, second, third] => decideThree view first second third
  | [first, second, third, fourth] =>
    if first == ['!'] then (decideThree view second third fourth).map (!·)
    else if first == ['('] && fourth == [')'] then decideTwo view second third
    else decideLong view words
  | words => decideLong view words

namespace Fault

/-- A fault in the words of the plain dialect. -/
def message : Fault → String
  | badNumber text => s!"Illegal number: {text.toText}"
  | unexpected word => s!"{word.toText}: unexpected operator"
  | noArgument operator => s!"{operator.toText}: argument expected"
  | noClosing => "closing paren expected"
  | noOperator word _ => s!"{word.toText}: unexpected operator"
  | tooMany => "unexpected operator"

/-- A fault in the words of the extended dialect. -/
def extendedMessage : Fault → String
  | badNumber text => s!"{text.toText}: integer expression expected"
  | unexpected word => s!"{word.toText}: unexpected operator"
  | noArgument _ => "argument expected"
  | noClosing => "\x60)' expected"
  | noOperator word true => s!"{word.toText}: binary operator expected"
  | noOperator word false => s!"{word.toText}: unary operator expected"
  | tooMany => "too many arguments"

end Fault
end TaskRunner.Shell.Condition
