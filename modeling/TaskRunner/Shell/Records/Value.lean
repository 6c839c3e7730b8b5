import TaskRunner.Shell.Decimal
/- # TaskRunner.Shell.Records.Value -- the values of scripts for records

A value is a number or a text.  Texts that were read count as numbers where they look like some, and
what was never assigned is an empty text and zero. -/

namespace TaskRunner.Shell.Records
set_option autoImplicit false

inductive Value where
  | unset
  | number (number : Float)
  | text (text : Octets)
  /-- A text that was read. -/
  | read (text : Octets)
  deriving Inhabited

/-- The number at the start of a text, behind blanks, and what follows it. -/
def leadingNumber (text : Octets) : Float × Octets :=
  let body := text.dropWhile Octets.isSpace
  let digits := match body with
    | '-' :: rest | '+' :: rest => rest
    | rest => rest
  let isNumber := match digits with
    | '.' :: c :: _ => c.isDigit
    | c :: _ => c.isDigit
    | [] => false
  if isNumber then
    match Fraction.read? Fraction.doubleBits body with
    | some (fraction, rest) => (fraction.toFloat, rest)
    | none => (0, text)
  else (0, text)

/-- Whether a text is a number, with nothing but blanks around it. -/
def isNumber (text : Octets) : Bool :=
  let (_, rest) := leadingNumber text
  rest.length < text.length && rest.all Octets.isSpace

/-- The whole number that is nearest to a number towards zero, if it is not too large. -/
def whole? (number : Float) : Option Int :=
  match Fraction.ofFloat number with
  | .finite negative mantissa exponent =>
    let (n, d) := Fraction.ratio mantissa exponent
    some (if negative then -((n / d : Nat) : Int) else ((n / d : Nat) : Int))
  | _ => none

/-- The same, with a bound for numbers that are too large. -/
def wholeOf (number : Float) : Int :=
  match whole? number with
  | some n => max (-9223372036854775808) (min n 9223372036854775807)
  | none => if number > 0 then 9223372036854775807 else -9223372036854775808

namespace Value

def toNumber : Value → Float
  | .unset => 0
  | .number n => n
  | .text s | .read s => (leadingNumber s).1

/-- Whether a value counts as a number. -/
def isNumeric : Value → Bool
  | .unset | .number _ => true
  | .text _ => false
  | .read s => isNumber s

def isTrue : Value → Bool
  | .unset => false
  | .number n => n != 0
  | .text s => !s.isEmpty
  | .read s => if isNumber s then (leadingNumber s).1 != 0 else !s.isEmpty

def ofInt (n : Int) : Value := .number (Float.ofInt n)

def ofNat (n : Nat) : Value := .number n.toFloat

def ofBool (holds : Bool) : Value := .number (if holds then 1 else 0)

end Value

end TaskRunner.Shell.Records
