import TaskRunner.Shell.Syntax
import TaskRunner.Shell.Variable
/- # TaskRunner.Shell.Arithmetic -- whole numbers in commands

Expressions over signed words of 64 bits, with the operators and the precedence that they have in
most programming languages.  A name stands for the number that its variable holds, zero if it is
empty or unset.  In the extended dialect the variable may hold an expression as well, and there are
powers, steps up and down, elements of arrays, and lists of expressions. -/

namespace TaskRunner.Shell
set_option autoImplicit false

/-- An operator between two numbers. -/
inductive BinaryOp where
  | or | and | bitOr | bitXor | bitAnd | eq | ne | le | ge | lt | gt | shiftLeft | shiftRight
  | add | sub | mul | div | mod | pow
  deriving DecidableEq, Repr

/-- An operator in front of a number. -/
inductive UnaryOp where
  | minus | plus | not | complement
  deriving DecidableEq, Repr

/-- A variable, or an element with the text of its index. -/
structure Target where
  name : Octets
  index : Option Octets := none
  deriving DecidableEq, Repr, Inhabited

/-- An arithmetic expression. -/
inductive Expr where
  | number (n : Int)
  | variable (target : Target)
  | unary (op : UnaryOp) (e : Expr)
  | binary (op : BinaryOp) (a b : Expr)
  | choice (condition yes no : Expr)
  /-- Gives a variable the value of an expression, combined with its own if there is an operator. -/
  | assign (target : Target) (op : Option BinaryOp) (e : Expr)
  /-- Makes a variable larger by a number; the value is the one before or the one behind. -/
  | step (target : Target) (by_ : Int) (before : Bool)
  | list (first second : Expr)
  deriving Repr, Inhabited

/-- What is wrong with a calculation. -/
inductive ArithmeticFault where
  | noOperand (rest : Octets)
  | noBracket (rest : Octets)
  | noColon (rest : Octets)
  | surplus (rest : Octets)
  | badDigit (token : Octets)
  | divisionByZero
  | negativePower
  /-- A variable holds no number. -/
  | noNumber (text : Octets)
  | readOnly (name : Octets)
  | unset (name : Octets)
  deriving Repr, Inhabited

namespace Expr

/-! ## Reading -/

/-- The operators between two numbers, with how tightly they bind.  Of two that start alike the
longer comes first. -/
def operators (dialect : Dialect) : List (String × Nat × BinaryOp) :=
  (if dialect == .extended then [("**", 11, .pow)] else []) ++ [
  ("||", 1, .or), ("&&", 2, .and), ("<<", 8, .shiftLeft), (">>", 8, .shiftRight),
  ("==", 6, .eq), ("!=", 6, .ne), ("<=", 7, .le), (">=", 7, .ge),
  ("|", 3, .bitOr), ("^", 4, .bitXor), ("&", 5, .bitAnd), ("<", 7, .lt), (">", 7, .gt),
  ("+", 9, .add), ("-", 9, .sub), ("*", 10, .mul), ("/", 10, .div), ("%", 10, .mod)]

def skipBlanks (text : Octets) : Octets := text.dropWhile Octets.isBlank

/-- The operator at the start of a text. -/
def operator? (dialect : Dialect) (text : Octets) : Option ((Nat × BinaryOp) × Octets) :=
  ((operators dialect).find? fun entry => entry.1.toList.isPrefixOf text).map
    fun (sign, entry) => (entry, text.drop sign.length)

/-- The assignment operator at the start of a text. -/
def assignment? (dialect : Dialect) (text : Octets) : Option (Option BinaryOp × Octets) :=
  match text with
  | '=' :: rest => if rest.head? == some '=' then none else some (none, rest)
  | _ =>
    match operator? dialect text with
    | some ((_, op), '=' :: rest) =>
      if [.add, .sub, .mul, .div, .mod, .bitAnd, .bitOr, .bitXor, .shiftLeft,
        .shiftRight].contains op then some (some op, rest) else none
    | _ => none

/-- The number of a digit: letters stand for the numbers behind nine. -/
def digit? (base : Nat) (c : Char) : Option Nat :=
  let n := if c.isDigit then c.toNat - '0'.toNat
    else if c.isLower then c.toNat - 'a'.toNat + 10
    else if c.isUpper then c.toNat - 'A'.toNat + (if base ≤ 36 then 10 else 36)
    else if c == '@' then 62
    else if c == '_' then 63
    else 64
  if n < base then some n else none

/-- A number to a base. -/
def toBase? (base : Nat) (digits : Octets) : Option Nat :=
  if digits.isEmpty then none
  else digits.foldlM (fun n c => (digit? base c).map (n * base + ·)) 0

/-- The digits at the start of a text. -/
def leading (base : Nat) (text : Octets) : Octets := text.takeWhile fun c => (digit? base c).isSome

/-- The greatest number of a word. -/
def maxNumber : Nat := 0x7fffffffffffffff

/-- A constant at the start of a text: decimal, or to the base eight behind a zero or sixteen behind
`0x`. -/
def plainConstant? (text : Octets) : Option (Nat × Octets) :=
  let read (base : Nat) (text : Octets) : Option (Nat × Octets) :=
    let digits := leading base text
    (toBase? base digits).map fun n => (min n maxNumber, text.drop digits.length)
  match text with
  | '0' :: x :: rest =>
    if (x == 'x' || x == 'X') && !(leading 16 rest).isEmpty then read 16 rest
    else read 8 text
  | '0' :: rest => some (0, rest)
  | text => read 10 text

/-- A constant of the extended dialect, which may name its base. -/
def extendedConstant? (text : Octets) : Except ArithmeticFault (Nat × Octets) :=
  let token := text.takeWhile fun c => c.isAlphanum || c == '_' || c == '#' || c == '@'
  let rest := text.drop token.length
  let value? : Option Nat := match token with
    | '0' :: x :: digits =>
      if x == 'x' || x == 'X' then toBase? 16 digits else toBase? 8 (x :: digits)
    | token =>
      match Octets.cut? '#' token with
      | some (base, digits) =>
        (Octets.natural? base).bind fun base =>
          if 2 ≤ base && base ≤ 64 then toBase? base digits else none
      | none => toBase? 10 token
  match value? with
  | some n => .ok (n, rest)
  | none => .error (.badDigit token)

/-- The index in brackets at the start of a text, behind the opening one. -/
def indexText (fuel depth : Nat) (read : Octets) (text : Octets) : Option (Octets × Octets) :=
  match fuel, text with
  | fuel + 1, c :: rest =>
    if c == ']' && depth == 0 then some (read.reverse, rest)
    else
      let depth := if c == '[' then depth + 1 else if c == ']' then depth - 1 else depth
      indexText fuel depth (c :: read) rest
  | _, _ => none

/-- A variable or an element at the start of a text. -/
def target? (dialect : Dialect) (text : Octets) : Option (Target × Octets) :=
  let name := text.takeWhile isNameChar
  let rest := text.drop name.length
  if !isName name then none
  else
    match dialect, rest with
    | .extended, '[' :: inside =>
      match indexText (inside.length + 1) 0 [] inside with
      | some (index, rest) => some ({ name, index }, rest)
      | none => some ({ name }, rest)
    | _, _ => some ({ name }, rest)

mutual

/-- Reads an expression without a comma. -/
def read (dialect : Dialect) (fuel : Nat) (text : Octets) :
    Except ArithmeticFault (Expr × Octets) :=
  match fuel with
  | 0 => .error (.noOperand text)
  | fuel + 1 =>
    let text := skipBlanks text
    let assigned := (target? dialect text).bind fun (target, rest) =>
      (assignment? dialect (skipBlanks rest)).map (target, ·)
    match assigned with
    | some (target, op, rest) =>
      match read dialect fuel rest with
      | .error fault => .error fault
      | .ok (e, rest) => .ok (.assign target op e, rest)
    | none =>
      match operand dialect fuel text with
      | .error fault => .error fault
      | .ok (first, rest) =>
        match more dialect fuel 1 first rest with
        | .error fault => .error fault
        | .ok (condition, rest) =>
          match skipBlanks rest with
          | '?' :: rest =>
            match readList dialect fuel rest with
            | .error fault => .error fault
            | .ok (yes, rest) =>
              match skipBlanks rest with
              | ':' :: rest =>
                match read dialect fuel rest with
                | .error fault => .error fault
                | .ok (no, rest) => .ok (.choice condition yes no, rest)
              | rest => .error (.noColon rest)
          | _ => .ok (condition, rest)

/-- Reads expressions with commas between them. -/
def readList (dialect : Dialect) (fuel : Nat) (text : Octets) :
    Except ArithmeticFault (Expr × Octets) :=
  match fuel with
  | 0 => .error (.noOperand text)
  | fuel + 1 =>
    match read dialect fuel text with
    | .error fault => .error fault
    | .ok (first, rest) =>
      match dialect, skipBlanks rest with
      | .extended, ',' :: rest =>
        match readList dialect fuel rest with
        | .error fault => .error fault
        | .ok (second, rest) => .ok (.list first second, rest)
      | _, _ => .ok (first, rest)

/-- Reads the operators behind an operand that bind as tightly as `level`, or more. -/
def more (dialect : Dialect) (fuel : Nat) (level : Nat) (left : Expr) (text : Octets) :
    Except ArithmeticFault (Expr × Octets) :=
  match fuel with
  | 0 => .error (.noOperand text)
  | fuel + 1 =>
    match operator? dialect (skipBlanks text) with
    | none => .ok (left, text)
    | some ((tightness, op), rest) =>
      if tightness < level || (assignment? dialect (skipBlanks text)).isSome then .ok (left, text)
      else
        match operand dialect fuel rest with
        | .error fault => .error fault
        | .ok (right, rest) =>
          match more dialect fuel (if op == .pow then tightness else tightness + 1) right rest with
          | .error fault => .error fault
          | .ok (right, rest) => more dialect fuel level (.binary op left right) rest

/-- Reads an operand with the operators in front of it. -/
def operand (dialect : Dialect) (fuel : Nat) (text : Octets) :
    Except ArithmeticFault (Expr × Octets) :=
  match fuel with
  | 0 => .error (.noOperand text)
  | fuel + 1 =>
    let text := skipBlanks text
    let fronted (op : UnaryOp) (rest : Octets) : Except ArithmeticFault (Expr × Octets) :=
      match operand dialect fuel rest with
      | .error fault => .error fault
      | .ok (e, rest) => .ok (.unary op e, rest)
    let stepped? : Option (Expr × Octets) :=
      match dialect, text with
      | .extended, '+' :: '+' :: rest =>
        (target? dialect (skipBlanks rest)).map fun (target, rest) => (.step target 1 true, rest)
      | .extended, '-' :: '-' :: rest =>
        (target? dialect (skipBlanks rest)).map fun (target, rest) => (.step target (-1) true, rest)
      | _, _ => none
    match stepped?, text with
    | some found, _ => .ok found
    | none, '-' :: rest => fronted .minus rest
    | none, '+' :: rest => fronted .plus rest
    | none, '!' :: rest => fronted .not rest
    | none, '~' :: rest => fronted .complement rest
    | none, '(' :: rest =>
      match readList dialect fuel rest with
      | .error fault => .error fault
      | .ok (e, rest) =>
        match skipBlanks rest with
        | ')' :: rest => .ok (e, rest)
        | rest => .error (.noBracket rest)
    | none, text =>
      match target? dialect text with
      | some (target, rest) =>
        match dialect, skipBlanks rest with
        | .extended, '+' :: '+' :: rest => .ok (.step target 1 false, rest)
        | .extended, '-' :: '-' :: rest => .ok (.step target (-1) false, rest)
        | _, _ => .ok (.variable target, rest)
      | none =>
        if !(text.head?.any Char.isDigit) then .error (.noOperand text)
        else
          match dialect with
          | .plain =>
            match plainConstant? text with
            | some (n, rest) => .ok (.number n, rest)
            | none => .error (.noOperand text)
          | .extended => (extendedConstant? text).map fun (n, rest) => (.number n, rest)

end

/-- The expression that a text writes.  In the extended dialect an empty one is zero. -/
def parse (dialect : Dialect) (text : Octets) : Except ArithmeticFault Expr :=
  if dialect == .extended && (skipBlanks text).isEmpty then .ok (.number 0)
  else
    match readList dialect (6 * text.length + 16) text with
    | .error fault => .error fault
    | .ok (e, rest) =>
      if (skipBlanks rest).isEmpty then .ok e else .error (.surplus (skipBlanks rest))

/-! ## Values -/

/-- How many words there are. -/
def wordCount : Nat := 0x10000000000000000

/-- A number as a signed word. -/
def wrap (n : Int) : Int := n.bmod wordCount

def ofBool (b : Bool) : Int := if b then 1 else 0

/-- The bits of a signed word. -/
def bits (n : Int) : Nat := (n % (wordCount : Int)).toNat

/-- A power by repeated squares, as a signed word. -/
def power (fuel : Nat) (base : Int) (n : Nat) : Int :=
  match fuel with
  | 0 => 1
  | fuel + 1 =>
    if n == 0 then 1
    else
      let half := power fuel (wrap (base * base)) (n / 2)
      if n % 2 == 0 then half else wrap (half * base)

/-- The value of an operator that always looks at both operands. -/
def apply (op : BinaryOp) (a b : Int) : Except ArithmeticFault Int :=
  match op with
  | .or => .ok (ofBool (a != 0 || b != 0))
  | .and => .ok (ofBool (a != 0 && b != 0))
  | .bitOr => .ok (wrap (bits a ||| bits b))
  | .bitXor => .ok (wrap (bits a ^^^ bits b))
  | .bitAnd => .ok (wrap (bits a &&& bits b))
  | .eq => .ok (ofBool (a == b))
  | .ne => .ok (ofBool (a != b))
  | .le => .ok (ofBool (a ≤ b))
  | .ge => .ok (ofBool (a ≥ b))
  | .lt => .ok (ofBool (a < b))
  | .gt => .ok (ofBool (a > b))
  | .shiftLeft => .ok (wrap (a * ((1 <<< (bits b % 64) : Nat) : Int)))
  | .shiftRight => .ok (a / ((1 <<< (bits b % 64) : Nat) : Int))
  | .add => .ok (wrap (a + b))
  | .sub => .ok (wrap (a - b))
  | .mul => .ok (wrap (a * b))
  | .div => if b == 0 then .error .divisionByZero else .ok (wrap (a.tdiv b))
  | .mod => if b == 0 then .error .divisionByZero else .ok (wrap (a.tmod b))
  | .pow => if b < 0 then .error .negativePower else .ok (power 64 a b.toNat)

def applyUnary (op : UnaryOp) (a : Int) : Int :=
  match op with
  | .minus => wrap (-a)
  | .plus => a
  | .not => ofBool (a == 0)
  | .complement => -a - 1

/-- A number in decimal digits. -/
def render (n : Int) : Octets := Octets.ofInt n

/-- The number that the text of a variable is in the plain dialect. -/
def plainNumber? (text : Octets) : Option Int :=
  let trimmed := Octets.trim text
  let (negative, digits) := match trimmed with
    | '-' :: rest => (true, rest)
    | '+' :: rest => (false, rest)
    | rest => (false, rest)
  if trimmed.isEmpty then some 0
  else
    match plainConstant? digits with
    | some (n, []) => some (if negative then -(n : Int) else n)
    | _ => none

mutual

/-- The value of an expression, and the variables after it.  Where `strict` is set an unset variable
is a mistake. -/
def eval (dialect : Dialect) (strict : Bool) (fuel : Nat) (bindings : Variables) (e : Expr) :
    Except ArithmeticFault (Int × Variables) :=
  match fuel with
  | 0 => .error (.noOperand [])
  | fuel + 1 =>
    match e with
    | .number n => .ok (wrap n, bindings)
    | .variable target => valueOf dialect strict fuel bindings target
    | .unary op e => do
      let (n, bindings) ← eval dialect strict fuel bindings e
      return (applyUnary op n, bindings)
    | .binary op a b => do
      let (m, bindings) ← eval dialect strict fuel bindings a
      if op = .or && m != 0 then return (1, bindings)
      else if op = .and && m == 0 then return (0, bindings)
      else
        let (n, bindings) ← eval dialect strict fuel bindings b
        return (← apply op m n, bindings)
    | .choice condition yes no => do
      let (n, bindings) ← eval dialect strict fuel bindings condition
      eval dialect strict fuel bindings (if n != 0 then yes else no)
    | .assign target op e => do
      let (n, bindings) ← eval dialect strict fuel bindings e
      let (n, bindings) ← match op with
        | none => pure (n, bindings)
        | some op => do
          let (m, bindings) ← valueOf dialect strict fuel bindings target
          pure (← apply op m n, bindings)
      return (n, ← store dialect strict fuel bindings target n)
    | .step target by_ before => do
      let (m, bindings) ← valueOf dialect strict fuel bindings target
      let n := wrap (m + by_)
      return (if before then n else m, ← store dialect strict fuel bindings target n)
    | .list first second => do
      let (_, bindings) ← eval dialect strict fuel bindings first
      eval dialect strict fuel bindings second

/-- The index that a text writes. -/
def indexOf (dialect : Dialect) (strict : Bool) (fuel : Nat) (bindings : Variables)
    (name text : Octets) : Except ArithmeticFault (Octets × Variables) :=
  match fuel with
  | 0 => .error (.noOperand text)
  | fuel + 1 =>
    if bindings.isKeyed name then .ok (text, bindings)
    else do
      let (n, bindings) ← eval dialect strict fuel bindings (← parse dialect text)
      let next : Int := (((bindings.find name).value.map Value.next).getD 0 : Nat)
      return (render (if n < 0 then next + n else n), bindings)

/-- The number that a variable or an element holds. -/
def valueOf (dialect : Dialect) (strict : Bool) (fuel : Nat) (bindings : Variables)
    (target : Target) : Except ArithmeticFault (Int × Variables) :=
  match fuel with
  | 0 => .error (.noOperand target.name)
  | fuel + 1 => do
    let name := bindings.target target.name
    let (found, bindings) ← match target.index with
      | none => pure (bindings.text? name, bindings)
      | some index => do
        let (index, bindings) ← indexOf dialect strict fuel bindings name index
        pure (bindings.element? name index, bindings)
    match found with
    | none => if strict then .error (.unset target.name) else return (0, bindings)
    | some text =>
      match dialect with
      | .plain =>
        match plainNumber? text with
        | some n => return (n, bindings)
        | none => .error (.noNumber text)
      | .extended => do eval dialect strict fuel bindings (← parse dialect text)

/-- Gives a variable or an element a number. -/
def store (dialect : Dialect) (strict : Bool) (fuel : Nat) (bindings : Variables)
    (target : Target) (n : Int) : Except ArithmeticFault Variables :=
  match fuel with
  | 0 => .error (.noOperand target.name)
  | fuel + 1 => do
    let name := bindings.target target.name
    if (bindings.find name).readOnly then .error (.readOnly name)
    else
      match target.index with
      | none => return bindings.set name (render n)
      | some index => do
        let (index, bindings) ← indexOf dialect strict fuel bindings name index
        return bindings.setElement name index (render n)

end

/-- How deep values of variables refer to others, at most, with the depth of one expression. -/
def maxDepth : Nat := 4096

/-- The value of a text, and the variables after it. -/
def calculate (dialect : Dialect) (strict : Bool) (bindings : Variables) (text : Octets) :
    Except ArithmeticFault (Int × Variables) := do
  eval dialect strict maxDepth bindings (← parse dialect text)

end Expr

namespace ArithmeticFault

/-- A fault of the calculation of a text, in the words of a dialect. -/
def message (dialect : Dialect) (text : Octets) (fault : ArithmeticFault) : String :=
  let plain (what : String) : String := s!"arithmetic expression: {what}: \"{text.toText}\""
  let at_ (what : String) (rest : Octets) : String :=
    let rest := if rest.isEmpty then text.drop (text.length - 1) else rest
    s!"{Octets.toText (Expr.skipBlanks text)}: {what} (error token is \"{Octets.toText rest}\")"
  match dialect, fault with
  | .plain, noOperand _ => plain "expecting primary"
  | .plain, noBracket _ => plain "expecting ')'"
  | .plain, noColon _ => plain "expecting ':'"
  | .plain, surplus _ | .plain, badDigit _ => plain "expecting EOF"
  | .plain, divisionByZero => plain "division by zero"
  | .plain, negativePower => plain "exponent less than 0"
  | .plain, readOnly name => s!"{name.toText}: is read only"
  | .plain, unset name => s!"{name.toText}: parameter not set"
  | .extended, noOperand rest => at_ "syntax error: operand expected" rest
  | .extended, noBracket rest => at_ "missing \x60)'" rest
  | .extended, noColon rest => at_ "\x60:' expected for conditional expression" rest
  | .extended, surplus rest =>
    match rest with
    | '=' :: _ => at_ "attempted assignment to non-variable" rest
    | c :: _ =>
      if c.isAlphanum || c == '(' then at_ "syntax error in expression" rest
      else at_ "syntax error: invalid arithmetic operator" rest
    | [] => at_ "syntax error in expression" rest
  | .extended, badDigit token =>
    s!"{token.toText}: value too great for base (error token is \"{token.toText}\")"
  | .extended, divisionByZero => at_ "division by 0" []
  | .extended, negativePower => at_ "exponent less than 0" []
  | .extended, readOnly name => s!"{name.toText}: readonly variable"
  | .extended, unset name => s!"{name.toText}: unbound variable"
  | _, noNumber text => s!"Illegal number: {text.toText}"

end ArithmeticFault
end TaskRunner.Shell
