import TaskRunner.Shell.Expression
import TaskRunner.Shell.Tool.Options
/- # TaskRunner.Shell.Utility.Evaluation -- expressions of words

An expression is a row of words, each an operand or an operator.  From the weakest to the strongest,
the operators choose, compare, add, multiply and match; a word of letters may be the name of a
function.  What is not needed for a choice is read and not evaluated. -/

namespace TaskRunner.Shell.Utility.Evaluation
set_option autoImplicit false

/-- The words that are left, and the one that was read last. -/
structure Words where
  rest : List Octets
  last : Octets := []

/-- Reading and evaluating; a text says what is wrong. -/
abbrev Evaluate := StateT Words (Except String)

def syntaxError {α : Type} (text : String) : Evaluate α := throw ("syntax error: " ++ text)

/-- Reads the next word if it is as wanted. -/
def accept (wanted : Octets) : Evaluate Bool := do
  match (← get).rest with
  | word :: rest =>
    if word == wanted then
      set ({ rest, last := word } : Words)
      return true
    else return false
  | [] => return false

/-- Reads one of some words. -/
def acceptOne (wanted : List String) : Evaluate (Option String) := do
  match (← get).rest with
  | word :: rest =>
    match wanted.find? (·.toList == word) with
    | some found =>
      set ({ rest, last := word } : Words)
      return some found
    | none => return none
  | [] => return none

/-- Reads any word. -/
def next : Evaluate Octets := do
  match (← get).rest with
  | word :: rest =>
    set ({ rest, last := word } : Words)
    return word
  | [] => syntaxError s!"missing argument after {Tool.quoted (← get).last}"

/-- A word as a number, if it is one. -/
def integer? (word : Octets) : Option Int :=
  if word.head? == some '+' then none else Octets.integer? word

def integer (word : Octets) : Evaluate Int :=
  match integer? word with
  | some n => pure n
  | none => throw "non-integer argument"

/-- Whether a value counts as nothing. -/
def isNull (word : Octets) : Bool :=
  let digits := if word.head? == some '-' then word.drop 1 else word
  word.isEmpty || (!digits.isEmpty && digits.all (· == '0'))

def ofBool (holds : Bool) : Octets := if holds then ['1'] else ['0']

/-- Whether an expression has groups. -/
def hasGroups : Expression → Bool
  | .group _ _ => true
  | .sequence a b | .either a b => hasGroups a || hasGroups b
  | .repeated _ _ body => hasGroups body
  | _ => false

/-- Matches the beginning of a text: the first group of what matches, or its length. -/
def matchStart (text pattern : Octets) : Evaluate Octets := do
  match Expression.ofText .basic pattern with
  | .error fault => throw fault.message
  | .ok e =>
    let subject : Expression.Subject := { text := text.toArray }
    match Expression.matchAt? subject e 0 with
    | some found =>
      return if hasGroups e then found.group subject 1 else Octets.ofNat (found.stop - found.start)
    | none => return if hasGroups e then [] else ['0']

/-- A comparison: of numbers if both words are numbers, else of texts. -/
def compare (operator : String) (a b : Octets) : Bool :=
  let decide (less equal : Bool) : Bool :=
    match operator with
    | "<" => less
    | "<=" => less || equal
    | "=" | "==" => equal
    | "!=" => !equal
    | ">=" => !less
    | _ => !(less || equal)
  match integer? a, integer? b with
  | some n, some m => decide (n < m) (n == m)
  | _, _ => decide (Octets.isOrdered a b && a != b) (a == b)

/-- The part of a text that begins at a place, counted from one, and has a length. -/
def part (text start length : Octets) : Octets :=
  match integer? start, integer? length with
  | some start, some length =>
    if start ≤ 0 || length ≤ 0 then [] else (text.drop (start.toNat - 1)).take length.toNat
  | _, _ => []

/-- The place of the first octet of a text that is one of some; zero if there is none. -/
def place (text members : Octets) : Octets :=
  match text.findIdx? members.contains with
  | some i => Octets.ofNat (i + 1)
  | none => ['0']

/-- The operators from the weakest to the strongest. -/
def levels : List (List String) := [
  ["|"], ["&"], ["<", "<=", "=", "==", "!=", ">=", ">"], ["+", "-"], ["*", "/", "%"], [":"]]

/-- The value of an operator between two values. -/
def apply (operator : String) (a b : Octets) : Evaluate Octets := do
  match operator with
  | "|" => return if !isNull a then a else if isNull b then ['0'] else b
  | "&" => return if isNull a || isNull b then ['0'] else a
  | "+" => return Octets.ofInt ((← integer a) + (← integer b))
  | "-" => return Octets.ofInt ((← integer a) - (← integer b))
  | "*" => return Octets.ofInt ((← integer a) * (← integer b))
  | ":" => matchStart a b
  | "/" | "%" =>
    let n ← integer a
    let m ← integer b
    if m == 0 then throw "division by zero"
    else return Octets.ofInt (if operator == "/" then n.tdiv m else n.tmod m)
  | operator => return ofBool (compare operator a b)

mutual

/-- Reads an expression of a level; what is not evaluated has no value. -/
def level (fuel : Nat) (evaluates : Bool) (operators : List (List String)) : Evaluate Octets :=
  match fuel with
  | 0 => syntaxError "too long"
  | fuel + 1 =>
    match operators with
    | [] => operand fuel evaluates
    | here :: stronger => do
      let first ← level fuel evaluates stronger
      moreOf fuel evaluates here stronger first

/-- Reads what follows the first operand of a level. -/
def moreOf (fuel : Nat) (evaluates : Bool) (here : List String) (stronger : List (List String))
    (value : Octets) : Evaluate Octets :=
  match fuel with
  | 0 => syntaxError "too long"
  | fuel + 1 => do
    match ← acceptOne here with
    | none => return value
    | some operator =>
      let isNeeded := match operator with
        | "|" => isNull value
        | "&" => !isNull value
        | _ => true
      let second ← level fuel (evaluates && isNeeded) stronger
      let value ← if !evaluates then pure value
        else if operator == "|" && !isNeeded then pure value
        else if operator == "&" && !isNeeded then pure ['0']
        else apply operator value second
      moreOf fuel evaluates here stronger value

/-- Reads an operand, or a function with its arguments. -/
def operand (fuel : Nat) (evaluates : Bool) : Evaluate Octets :=
  match fuel with
  | 0 => syntaxError "too long"
  | fuel + 1 => do
    match ← acceptOne ["+", "length", "match", "index", "substr"] with
    | some "+" => next
    | some "length" => return Octets.ofNat (← operand fuel evaluates).length
    | some "match" =>
      let text ← operand fuel evaluates
      let pattern ← operand fuel evaluates
      if evaluates then matchStart text pattern else return []
    | some "index" =>
      let text ← operand fuel evaluates
      return place text (← operand fuel evaluates)
    | some _ =>
      let text ← operand fuel evaluates
      let start ← operand fuel evaluates
      return part text start (← operand fuel evaluates)
    | none =>
      if ← accept ['('] then
        let value ← level fuel evaluates levels
        match (← get).rest with
        | [] => syntaxError s!"expecting ')' after {Tool.quoted (← get).last}"
        | word :: _ =>
          if ← accept [')'] then return value
          else syntaxError s!"expecting ')' instead of {Tool.quoted word}"
      else if ← accept [')'] then syntaxError "unexpected ')'"
      else next

end

/-- The value of the expression that words write. -/
def ofWords (words : List Octets) : Except String Octets := do
  let (value, left) ← (level (20 * words.length + 100) true levels).run { rest := words }
  match left.rest with
  | [] => return value
  | word :: _ => throw s!"syntax error: unexpected argument {Tool.quoted word}"

end Evaluation

def expr (arguments : List Octets) : Tool Unit := do
  let words := if arguments.head? == some ['-', '-'] then arguments.tail else arguments
  if words.isEmpty then Tool.lackOperand 2
  match Evaluation.ofWords words with
  | .error text => Tool.fail 2 text
  | .ok value =>
    Tool.putLine value
    Tool.setStatus (if Evaluation.isNull value then 1 else 0)

end TaskRunner.Shell.Utility
