import TaskRunner.Shell.Printing
import TaskRunner.Shell.Records.Value
/- # TaskRunner.Shell.Records.Formatting -- the texts of values

A whole number is written with its digits, another one by a format, and a format is a text with
directives that values are filled into. -/

namespace TaskRunner.Shell.Records
set_option autoImplicit false

/-- The value that is filled into a format fits no directive, or there is none. -/
inductive FormatFault where
  | lacksValue
  /-- The directive of a number is none. -/
  | badDirective (number : Nat)

/-- The whole number that a number is, if that is written with its digits. -/
def digitsOf? (number : Float) : Option Octets :=
  match whole? number with
  | some n =>
    if Float.ofInt n != number || n < -9223372036854775808 || n > 18446744073709551616 then none
    else some (Octets.ofInt (min n 18446744073709551615))
  | none => none

/-- A number filled into a directive for numbers with a fraction; what is no number is written with
a minus sign. -/
def fillFraction (directive : Printing.Directive) (number : Float) : Octets :=
  let fraction := Fraction.ofFloat number
  let (isFinite, isNegative) := match fraction with
    | .finite negative _ _ => (true, negative)
    | .infinite negative => (false, negative)
    | .undefined _ => (false, true)
  Printing.pad directive isFinite (Printing.signOf directive isNegative)
    (fraction.digits directive.letter directive.precision directive.alternate)

/-- A number filled into a directive for whole numbers. -/
def fillWhole (directive : Printing.Directive) (number : Float) : Octets :=
  let n := match whole? number with
    | some n => max (-9223372036854775808) (min n 18446744073709551615)
    | none => if number > 0 then 9223372036854775807 else -9223372036854775808
  let signed := directive.letter == 'd' || directive.letter == 'i'
  let n := if signed then min n 9223372036854775807 else n % 18446744073709551616
  (Printing.fillNumber directive (Octets.ofInt n)).text

/-- A value filled into a directive; nothing if its letter is not known. -/
def fillValue? (convert : Value → Octets) (directive : Printing.Directive) (value : Value) :
    Option Octets :=
  let limited (text : Octets) : Octets := match directive.precision with
    | some n => text.take n
    | none => text
  match directive.letter with
  | 's' => some (Printing.pad directive false [] (limited (convert value)))
  | 'c' =>
    let text := match value with
      | .number n => [Char.ofNat (wholeOf n % 256).toNat]
      | other => [((convert other).head?).getD '\x00']
    some (Printing.pad directive false [] text)
  | letter =>
    if Printing.numberLetters.contains letter then some (fillWhole directive value.toNumber)
    else if Printing.fractionLetters.contains letter then
      some (fillFraction directive value.toNumber)
    else none

/-- A size in a directive, where a star stands for a value. -/
def readSize (text : Octets) (values : List Value) :
    Except FormatFault (Option Int × Octets × List Value) :=
  match text with
  | '*' :: rest =>
    match values with
    | value :: values => .ok (some (wholeOf value.toNumber), rest, values)
    | [] => .error .lacksValue
  | _ =>
    let run := text.takeWhile Char.isDigit
    .ok ((Octets.natural? run).map fun n => (n : Int), text.drop run.length, values)

/-- Reads a directive behind its percent sign, with the values for its sizes. -/
def readDirective (number : Nat) (text : Octets) (values : List Value) :
    Except FormatFault (Printing.Directive × Octets × List Value) := do
  let (base, text) := Printing.flags { letter := 's' } text
  let (width, text, values) ← readSize text values
  let width := width.getD 0
  let base := { base with left := base.left || width < 0, width := width.natAbs }
  let (precision, text, values) ← (match text with
    | '.' :: rest => do
      let (precision, rest, values) ← readSize rest values
      return (some (precision.getD 0), rest, values)
    | rest => .ok (none, rest, values) : Except FormatFault (Option Int × Octets × List Value))
  let precision := precision.bind fun n => if n < 0 then none else some n.toNat
  match text.dropWhile "hlL".toList.contains with
  | letter :: rest => return ({ base with precision, letter }, rest, values)
  | [] => throw (.badDirective number)

/-- Fills values into a format, up to what cannot be filled. -/
def fillFormat (convert : Value → Octets) (fuel number : Nat) (found format : Octets)
    (values : List Value) : Octets × Option FormatFault :=
  match fuel, format with
  | 0, _ | _, [] => (found.reverse, none)
  | fuel + 1, '%' :: '%' :: rest => fillFormat convert fuel number ('%' :: found) rest values
  | fuel + 1, '%' :: rest =>
    match readDirective (number + 1) rest values with
    | .error fault => (found.reverse, some fault)
    | .ok (directive, rest, values) =>
      if !("sc".toList ++ Printing.numberLetters ++ Printing.fractionLetters).contains
          directive.letter then
        (found.reverse, some (.badDirective (number + 1)))
      else
        match values with
        | [] => (found.reverse, some .lacksValue)
        | value :: values =>
          let text := (fillValue? convert directive value).getD []
          fillFormat convert fuel (number + 1) (text.reverse ++ found) rest values
  | fuel + 1, c :: rest => fillFormat convert fuel number (c :: found) rest values

/-- A number as a text, with a format for those that are not whole. -/
def textOfNumber (format : Octets) (number : Float) : Octets :=
  match digitsOf? number with
  | some digits => digits
  | none =>
    (fillFormat (fun _ => []) (format.length + 1) 0 [] format [.number number]).1

/-- A value as a text. -/
def Value.toOctets (format : Octets) : Value → Octets
  | .unset => []
  | .number n => textOfNumber format n
  | .text s | .read s => s

/-- Values filled into a format, and what is wrong if not all of it could be filled. -/
def filled (numbers format : Octets) (values : List Value) : Octets × Option FormatFault :=
  fillFormat (Value.toOctets numbers) (format.length + 1) 0 [] format values

end TaskRunner.Shell.Records
