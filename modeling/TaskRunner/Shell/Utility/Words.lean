import TaskRunner.Shell.Condition
import TaskRunner.Shell.Printing
import TaskRunner.Shell.Startup
import TaskRunner.Shell.Tool.Options
/- # TaskRunner.Shell.Utility.Words -- programs that go by their arguments alone

What these programs print or decide depends on their arguments, and on the files that a condition asks
about. -/

namespace TaskRunner.Shell.Utility
set_option autoImplicit false

def echo (arguments : List Octets) : Tool Unit :=
  Tool.put (Printing.echoWithOptions Printing.programEcho arguments)

/-- A program that does nothing but end with a status. -/
def ending (status : Nat) (_ : List Octets) : Tool Unit := Tool.setStatus status

/-! ## Formats -/

/-- A complaint about a format or its arguments. -/
def complaintText : Printing.Complaint → String
  | .noNumber text => s!"{Tool.quoted text}: expected a numeric value"
  | .incomplete text => s!"{Tool.quoted text}: value not completely converted"
  | .outOfRange text => s!"{Tool.quoted text}: Numerical result out of range"
  | .badDirective text | .noDirective text => s!"{text.toText}: invalid conversion specification"

def printf (arguments : List Octets) : Tool Unit := do
  let words := if arguments.head? == some ['-', '-'] then arguments.tail else arguments
  match words with
  | [] => Tool.lackOperand 1
  | format :: arguments =>
    let (text, complaints, rest) := Printing.fillIn .program format arguments
    Tool.put text
    for complaint in complaints do
      Tool.blame 1 (complaintText complaint)
    match rest with
    | [] => pure ()
    | word :: _ =>
      if complaints.isEmpty then
        Tool.complain s!"warning: ignoring excess arguments, starting with {Tool.quoted word}"

/-! ## Conditions -/

/-- What is wrong with a condition. -/
def faultText : Condition.Fault → String
  | .badNumber text => s!"invalid integer {Tool.quoted text}"
  | .unexpected word => s!"extra argument {Tool.quoted word}"
  | .noArgument operator => s!"missing argument after {Tool.quoted operator}"
  | .noClosing => "')' expected"
  | .noOperator word true => s!"{Tool.quoted word}: binary operator expected"
  | .noOperator word false => s!"{Tool.quoted word}: unary operator expected"
  | .tooMany => "extra argument"

/-- Decides a condition; `closed` asks for a bracket behind it. -/
def test (closed : Bool) (arguments : List Octets) : Tool Unit := do
  if closed && arguments.getLast? != some [']'] then Tool.fail 2 "missing ']'"
  else
    let words := if closed then arguments.dropLast else arguments
    let view : Condition.View ← Tool.look fun machine =>
      { files := machine.files, place := machine.place }
    match Condition.decideExtended view words with
    | .ok holds => Tool.setStatus (if holds then 0 else 1)
    | .error fault => Tool.fail 2 (faultText fault)

/-! ## Over and over -/

def yes (arguments : List Octets) : Tool Unit := do
  let words := if arguments.head? == some ['-', '-'] then arguments.tail else arguments
  let line := if words.isEmpty then ['y', '\n'] else Octets.join [' '] words ++ ['\n']
  let count := Tool.bufferSize / line.length + 1
  repeatFor Action.maxBlocks (List.replicate count line).flatten
where
  repeatFor (fuel : Nat) (text : Octets) : Tool Unit :=
    match fuel with
    | 0 => return ()
    | fuel + 1 => do
      Tool.put text
      repeatFor fuel text

/-- A decimal number: an integer and how many of its digits stand behind the point. -/
structure Scaled where
  value : Int
  places : Nat

namespace Scaled

/-- A decimal number without an exponent. -/
def ofText? (text : Octets) : Option Scaled :=
  let negative := text.head? == some '-'
  let digits := if negative || text.head? == some '+' then text.drop 1 else text
  let whole := digits.takeWhile Char.isDigit
  let rest := digits.drop whole.length
  let fraction? : Option Octets := match rest with
    | [] => some []
    | '.' :: fraction => if fraction.all Char.isDigit then some fraction else none
    | _ => none
  match fraction? with
  | some fraction =>
    if whole.isEmpty && fraction.isEmpty then none
    else
      let n : Int := Octets.digitsValue (whole ++ fraction)
      some { value := if negative then -n else n, places := fraction.length }
  | none =>
    -- A number with an exponent has as many places as it needs.
    match Fraction.read? Fraction.doubleBits text with
    | some (.finite negative mantissa exponent, []) =>
      let (n, d) := Fraction.ratio mantissa exponent
      if n % d == 0 then some { value := if negative then -(n / d : Nat) else (n / d : Nat), places := 0 }
      else none
    | _ => none

/-- The integer that the number is with so many places. -/
def atPlaces (number : Scaled) (places : Nat) : Int :=
  number.value * (Nat.pow 10 (places - number.places) : Nat)

/-- An integer with a point in front of the last places. -/
def text (width places : Nat) (value : Int) : Octets :=
  let digits := Octets.padStart (places + 1) (Octets.ofNat value.natAbs) '0'
  let shown := if places == 0 then digits
    else digits.take (digits.length - places) ++ '.' :: digits.drop (digits.length - places)
  if value < 0 then '-' :: Octets.padStart (width - 1) shown '0' else Octets.padStart width shown '0'

end Scaled

/-- The options of `seq`, up to the first number. -/
def sequenceOptions (fuel : Nat) (found : Options.Found) (words : List Octets) : Tool Options.Found :=
  match fuel, words with
  | fuel + 1, word@('-' :: c :: _) :: rest => do
    if c.isDigit || c == '.' then return { found with operands := words }
    else if word == ['-', '-'] then return { found with operands := rest }
    else
      let next ← Options.ofWords ["f format=", "s separator=", "w equal-width"] words 1 true
      let used := words.length - next.operands.length
      let given := found.given ++ next.given
      if used == 0 then return { given, operands := words }
      else sequenceOptions fuel { given } next.operands
  | _, words => return { found with operands := words }

/-- Prints the numbers from one to another. -/
def seq (arguments : List Octets) : Tool Unit := do
  let found ← sequenceOptions (arguments.length + 1) {} arguments
  let separator := (found.value? "s").getD ['\n']
  let number (text : Octets) : Tool Scaled := do
    match Scaled.ofText? text with
    | some number => return number
    | none => Tool.misuse 1 s!"invalid floating point argument: {Tool.quoted text}"
  let one : Scaled := { value := 1, places := 0 }
  let (first, step, last) ← match found.operands with
    | [] => Tool.lackOperand 1
    | [last] => do pure (one, one, ← number last)
    | [first, last] => do pure (← number first, one, ← number last)
    | [first, step, last] => do pure (← number first, ← number step, ← number last)
    | _ :: _ :: _ :: extra :: _ => Tool.extraOperand 1 extra
  if step.value == 0 then
    let text := (found.operands[1]?).getD []
    Tool.misuse 1 s!"invalid Zero increment value: {Tool.quoted text}"
  let places := max first.places step.places
  let exact := max places last.places
  let start := first.atPlaces places
  let increment := step.atPlaces places
  let scale : Int := (Nat.pow 10 (exact - places) : Nat)
  let stop := last.atPlaces exact
  let distance := if increment > 0 then stop - start * scale else start * scale - stop
  if distance ≥ 0 then
    let count := (distance / (increment.natAbs * scale)).toNat + 1
    let final := start + increment * ((count - 1 : Nat) : Int)
    let width := if found.has "w" then
        max ((Scaled.text 0 places start).length) ((Scaled.text 0 places final).length)
      else 0
    let shown (value : Int) : Octets :=
      match found.value? "f" with
      | some format =>
        (Printing.fillIn .program format [Scaled.text 0 places value]).1
      | none => Scaled.text width places value
    putAll separator shown increment count start
    Tool.put ['\n']
where
  putAll (separator : Octets) (shown : Int → Octets) (increment : Int) (count : Nat) (value : Int) :
      Tool Unit :=
    match count with
    | 0 => return ()
    | 1 => Tool.put (shown value)
    | count + 2 => do
      Tool.put (shown value ++ separator)
      if count % 1000 == 0 then Tool.breathe
      putAll separator shown increment (count + 1) (value + increment)

/-! ## Paths -/

/-- A text without the slashes at its end. -/
def withoutSlashes (path : Octets) : Octets := (path.reverse.dropWhile (· == '/')).reverse

/-- The last name of a path. -/
def lastName (path : Octets) : Octets :=
  let path := withoutSlashes path
  (path.reverse.takeWhile (· != '/')).reverse

def baseName (path : Octets) : Octets :=
  if path.isEmpty then []
  else
    let name := lastName path
    if name.isEmpty then ['/'] else name

/-- A path without its last name. -/
def directoryName (path : Octets) : Octets :=
  let path' := withoutSlashes path
  if path'.isEmpty then (if path.isEmpty then ['.'] else ['/'])
  else if !path'.contains '/' then ['.']
  else
    let directory := withoutSlashes (path'.take (path'.length - (lastName path').length))
    if directory.isEmpty then ['/'] else directory

def basename (arguments : List Octets) : Tool Unit := do
  let found ← Options.ofWords ["a multiple", "s suffix=", "z zero"] arguments 1 true
  let ending := if found.has "z" then '\x00' else '\n'
  let strip (suffix name : Octets) : Octets :=
    if name != suffix && suffix.isSuffixOf name then name.take (name.length - suffix.length) else name
  let suffix := (found.value? "s").getD []
  if found.has "a" || found.has "s" then
    if found.operands.isEmpty then Tool.lackOperand 1
    for path in found.operands do
      Tool.put (strip suffix (baseName path) ++ [ending])
  else
    match found.operands with
    | [] => Tool.lackOperand 1
    | [path] => Tool.put (baseName path ++ [ending])
    | [path, suffix] => Tool.put (strip suffix (baseName path) ++ [ending])
    | _ :: _ :: extra :: _ => Tool.extraOperand 1 extra

def dirname (arguments : List Octets) : Tool Unit := do
  let found ← Options.ofWords ["z zero"] arguments
  let ending := if found.has "z" then '\x00' else '\n'
  if found.operands.isEmpty then Tool.lackOperand 1
  for path in found.operands do
    Tool.put (directoryName path ++ [ending])

def pwd (arguments : List Octets) : Tool Unit := do
  let found ← Options.ofWords ["L logical", "P physical"] arguments
  let environment := (← Tool.progress).invocation.environment
  let path ← Tool.look fun machine =>
    match found.last? ["L", "P"] with
    | some ("L", _) => Startup.directory environment machine
    | _ => Startup.pathOf machine.place
  Tool.putLine path

/-! ## Who and where -/

def whoami (_ : List Octets) : Tool Unit := Tool.putText "root\n"

def userNumber (arguments : List Octets) : Tool Unit := do
  let found ← Options.ofWords
    ["u user", "g group", "G groups", "n name", "r real", "z zero", "a", "Z context"] arguments
  if ["u", "g", "G"].any found.has then
    Tool.putText (if found.has "n" then "root\n" else "0\n")
  else Tool.putText "uid=0(root) gid=0(root) groups=0(root)\n"

/-- The parts of what `uname` says. -/
def machineParts : List (String × String) := [
  ("s", "Linux"), ("n", "localhost"), ("r", "5.15.0"), ("v", "#1 SMP"), ("m", "x86_64"),
  ("p", "x86_64"), ("i", "x86_64"), ("o", "GNU/Linux")]

def uname (arguments : List Octets) : Tool Unit := do
  let found ← Options.ofWords
    ["a all", "s kernel-name", "n nodename", "r kernel-release", "v kernel-version", "m machine",
      "p processor", "i hardware-platform", "o operating-system"] arguments
  let chosen := if found.given.isEmpty then machineParts.take 1
    else if found.has "a" then machineParts
    else machineParts.filter fun part => found.has part.1
  Tool.putText (" ".intercalate (chosen.map (·.2)) ++ "\n")

def nproc (_ : List Octets) : Tool Unit := Tool.putText "4\n"

def hostname (_ : List Octets) : Tool Unit := Tool.putText "localhost\n"

def tty (_ : List Octets) : Tool Unit := do
  Tool.putText "not a tty\n"
  Tool.setStatus 1

/-- Prints what variables hold that the program sees. -/
def printenv (arguments : List Octets) : Tool Unit := do
  let found ← Options.ofWords ["0 null"] arguments 2 true
  let ending := if found.has "0" then '\x00' else '\n'
  let environment := (← Tool.progress).invocation.environment
  if found.operands.isEmpty then
    for (name, value) in environment do
      Tool.put (name ++ '=' :: value ++ [ending])
  else
    for name in found.operands do
      match environment.lookup name with
      | some value => Tool.put (value ++ [ending])
      | none => Tool.setStatus 1

/-- The numbers of a product of primes. -/
def factors (fuel : Nat) (divisor n : Nat) : List Nat :=
  match fuel with
  | 0 => if n > 1 then [n] else []
  | fuel + 1 =>
    if n ≤ 1 then []
    else if divisor * divisor > n then [n]
    else if n % divisor == 0 then divisor :: factors fuel divisor (n / divisor)
    else factors fuel (if divisor == 2 then 3 else divisor + 2) n

/-- Prints numbers as products of primes. -/
def factor (arguments : List Octets) : Tool Unit := do
  let words ← if arguments.isEmpty then do
      pure (Octets.words ((← Tool.contents? ['-']).getD []))
    else pure arguments
  for word in words do
    match Octets.natural? word with
    | some n =>
      let found := (factors 10000000 2 n).map Octets.ofNat
      Tool.putLine (Octets.join [' '] ((Octets.ofNat n ++ [':']) :: found))
    | none => Tool.blame 1 s!"{Tool.quoted word} is not a valid positive integer"

end TaskRunner.Shell.Utility
