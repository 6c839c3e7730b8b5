import TaskRunner.Yaml.Node
/- # TaskRunner.Yaml.Resolution -- what plain scalars stand for

A plain scalar without a tag stands for null, a truth value or a number if it is spelt like one, and
for its text otherwise.  A run of digits with a needless leading zero is a text, and so is a
number that is too large: a decimal one for a double, one with a mark for its base for 128 bits. -/

namespace TaskRunner.Yaml
set_option autoImplicit false

namespace Resolution

/-! ## Null and truth values -/

def isNull (text : String) : Bool :=
  text == "null" || text == "Null" || text == "NULL" || text == "~"

/-- The truth value that a word stands for. -/
def bool? (text : String) : Option Bool :=
  if text == "true" || text == "True" || text == "TRUE" then some true
  else if text == "false" || text == "False" || text == "FALSE" then some false
  else none

/-! ## Numbers -/

def digits (text : List Char) : Nat :=
  text.foldl (fun n c => n * 10 + (c.toNat - '0'.toNat)) 0

/-- The number that a text writes to a base, with at least one digit. -/
def natural? (base : Nat) (text : List Char) : Option Nat :=
  if text.isEmpty then none
  else
    text.foldlM (fun n c => do
      let digit ← (Scalar.hexDigit? c).filter (· < base)
      return n * base + digit) 0

def isSign (c : Char) : Bool := c == '+' || c == '-'

/-- A text without the sign in front of it. -/
def unsigned (text : List Char) : List Char :=
  match text with
  | c :: rest => if isSign c then rest else text
  | [] => []

/-- Whether a text is a run of digits with a needless zero in front. -/
def hasLeadingZero (text : List Char) : Bool :=
  match unsigned text with
  | '0' :: rest => !rest.isEmpty && rest.all Char.isDigit
  | _ => false

/-- The whole number that a text, without its sign, writes with a mark for its base. -/
def markedNatural? (text : List Char) : Option Nat :=
  match text with
  | '0' :: 'x' :: rest => natural? 16 rest
  | '0' :: 'o' :: rest => natural? 8 rest
  | '0' :: 'b' :: rest => natural? 2 rest
  | _ => none

/-- How many whole numbers there are: those of 128 bits, signed or not. -/
def wholeCount : Nat := 1 <<< 128

/-- Whether a text is a whole number with a mark for its base. -/
def isMarkedWhole (text : List Char) : Bool :=
  match markedNatural? (unsigned text) with
  | some n => if text.head? == some '-' then n ≤ wholeCount / 2 else n < wholeCount
  | none => false

/-- The least number that rounds to no finite double. -/
def doubleLimit : Nat := (1 <<< 1024) - (1 <<< 970)

/-- Whether `mantissa * 10 ^ exponent` rounds to a finite double. -/
def isFinite (mantissa : Nat) (exponent : Int) : Bool :=
  if mantissa == 0 then true
  else if 400 < exponent then false
  else if 0 ≤ exponent then mantissa * Nat.pow 10 exponent.toNat < doubleLimit
  else if (mantissa.log2 : Int) < -exponent then true
  else mantissa < doubleLimit * Nat.pow 10 (-exponent).toNat

/-- The exponent of a decimal number; the rest of the text must be nothing else. -/
def exponent? (text : List Char) : Option Int :=
  match text with
  | [] => some 0
  | e :: rest =>
    let run := unsigned rest
    if (e == 'e' || e == 'E') && !run.isEmpty && run.all Char.isDigit then
      some (if rest.head? == some '-' then -digits run else digits run)
    else none

/-- Whether a text, without its sign, is a decimal number that a finite double stands for. -/
def isDecimal (text : List Char) : Bool :=
  let whole := text.takeWhile Char.isDigit
  let rest := text.dropWhile Char.isDigit
  let (fraction, rest) := match rest with
    | '.' :: rest => (rest.takeWhile Char.isDigit, rest.dropWhile Char.isDigit)
    | rest => ([], rest)
  if whole.isEmpty && fraction.isEmpty then false
  else
    match exponent? rest with
    | some exponent => isFinite (digits (whole ++ fraction)) (exponent - fraction.length)
    | none => false

/-- Whether a text, without its sign, is infinity. -/
def isInfinity (text : String) : Bool := text == ".inf" || text == ".Inf" || text == ".INF"

def isNaN (text : String) : Bool := text == ".nan" || text == ".NaN" || text == ".NAN"

/-- Whether a text is a whole number with a mark for its base, or a decimal number. -/
def isNumber (text : String) : Bool :=
  let chars := text.toList
  let body := unsigned chars
  isMarkedWhole chars || isInfinity (String.ofList body) || isNaN text ||
    (!hasLeadingZero chars && isDecimal body)

end Resolution

/-- The tag of a type that is known to every reader. -/
def commonTag (name : String) : String := "tag:yaml.org,2002:" ++ name

/-- Whether a tag is one that only its author knows the meaning of. -/
def isLocalTag : Option String → Bool
  | some tag => tag.startsWith "!"
  | none => false

open Resolution in
/-- The text of a scalar that stands for a text, and for nothing else. -/
def Value.string? : Value → Option String
  | .scalar (some tag) _ text =>
    let others := ["null", "bool", "int", "float"].map commonTag
    if tag.startsWith "!" || others.contains tag then none else some text
  | .scalar none .plain text =>
    if text.isEmpty || isNull text || (bool? text).isSome || isNumber text then none
    else some text
  | .scalar none _ text => some text
  | _ => none

end TaskRunner.Yaml
