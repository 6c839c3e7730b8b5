import TaskRunner.Shell.Decimal
import TaskRunner.Shell.Quoting
/- # TaskRunner.Shell.Printing -- texts with escapes, and formats

Escapes are characters behind a backslash that stand for others; which ones there are differs from
one command to the next.  A format is a text with escapes and with directives, each of which is
replaced by an argument in the form that it describes.  The format is gone through again while
arguments are left. -/

namespace TaskRunner.Shell.Printing
set_option autoImplicit false

/-! ## Escapes -/

/-- How octal numbers are written behind a backslash: at most three digits, or at most three behind a
zero. -/
inductive OctalRule where
  | digits
  /-- Behind a zero, or without one. -/
  | either
  | behindZero
  deriving DecidableEq, Repr

/-- Which escapes there are. -/
structure Escapes where
  octal : OctalRule
  /-- Whether hexadecimal numbers stand for octets and characters. -/
  hex : Bool := false
  characters : Bool := false
  /-- The letters for the escape character. -/
  escape : List Char := []
  /-- What stands for itself behind a backslash. -/
  quotes : List Char := []
  /-- Whether an escape ends all output. -/
  stop : Bool := false

/-- The octet of an escape by letter. -/
def letter? : Char → Option Char
  | 'a' => some '\x07'
  | 'b' => some '\x08'
  | 'f' => some '\x0c'
  | 'n' => some '\n'
  | 'r' => some '\r'
  | 't' => some '\t'
  | 'v' => some '\x0b'
  | '\\' => some '\\'
  | _ => none

/-- The octet of a number. -/
def octet (n : Nat) : Octets := [Char.ofNat (n % 256)]

/-- What a backslash and the text behind it stand for, how much of that text is used, and whether all
output ends. -/
def escape (rules : Escapes) (text : Octets) : Octets × Nat × Bool :=
  match text with
  | [] => (['\\'], 0, false)
  | c :: rest =>
    let hex (most : Nat) (encode : Nat → Octets) : Octets × Nat × Bool :=
      let digits := (rest.take most).takeWhile fun d => (Octets.hexDigit? d).isSome
      if digits.isEmpty then (['\\', c], 1, false)
      else (encode (Octets.hexValue digits), digits.length + 1, false)
    let octal (skip : Nat) (text : Octets) : Octets × Nat × Bool :=
      let digits := (text.take 3).takeWhile Octets.isOctal
      (octet (Octets.octalValue digits), digits.length + skip, false)
    if c == 'c' && rules.stop then ([], 1, true)
    else if c == '0' && rules.octal != .digits then octal 1 rest
    else if Octets.isOctal c && rules.octal != .behindZero then octal 0 text
    else if rules.quotes.contains c then ([c], 1, false)
    else if rules.escape.contains c then (['\x1b'], 1, false)
    else if rules.hex && c == 'x' then hex 2 octet
    else if rules.characters && c == 'u' then
      hex 4 fun n => Octets.ofText (String.ofList [Char.ofNat n])
    else if rules.characters && c == 'U' then
      hex 8 fun n => Octets.ofText (String.ofList [Char.ofNat n])
    else
      match letter? c with
      | some d => ([d], 1, false)
      | none => (['\\', c], 1, false)

/-- A text with its escapes replaced, behind what was read before it, and whether all output ends. -/
def unescapeFrom (rules : Escapes) (fuel : Nat) (read : Octets) (text : Octets) : Octets × Bool :=
  match fuel, text with
  | fuel + 1, '\\' :: rest =>
    let (found, size, stopped) := escape rules rest
    let read := found.reverse ++ read
    if stopped then (read.reverse, true) else unescapeFrom rules fuel read (rest.drop size)
  | fuel + 1, c :: rest => unescapeFrom rules fuel (c :: read) rest
  | _, _ => (read.reverse, false)

/-- A text with its escapes replaced, and whether one of them ends all output. -/
def unescape (rules : Escapes) (text : Octets) : Octets × Bool :=
  unescapeFrom rules (text.length + 1) [] text

/-! ## Words in a line -/

/-- The escapes that are replaced by `echo`. -/
def plainEcho : Escapes := { octal := .either, escape := ['e'], stop := true }

def extendedEcho : Escapes :=
  { octal := .behindZero, hex := true, characters := true, escape := ['e', 'E'], stop := true }

def programEcho : Escapes := { octal := .either, hex := true, escape := ['e'], stop := true }

/-- What `echo` prints: it replaces escapes, and a first word can keep it from ending the line. -/
def echo (arguments : List Octets) : Octets :=
  let (ends, words) := match arguments with
    | ['-', 'n'] :: rest => (false, rest)
    | words => (true, words)
  let (text, stopped) := unescape plainEcho (Octets.join [' '] words)
  if ends && !stopped then text ++ ['\n'] else text

/-- What an `echo` with options prints, which replaces escapes only where it is asked to. -/
def echoWithOptions (rules : Escapes) (arguments : List Octets) : Octets :=
  let isOption (word : Octets) : Bool :=
    word.head? == some '-' && word.length > 1 && word.tail.all ['n', 'e', 'E'].contains
  let options := arguments.takeWhile isOption
  let text := Octets.join [' '] (arguments.drop options.length)
  let letters := options.flatten
  let replaces := (letters.filter fun c => c == 'e' || c == 'E').getLast? == some 'e'
  let (text, stopped) := if replaces then unescape rules text else (text, false)
  if letters.contains 'n' || stopped then text else text ++ ['\n']

/-! ## Formats -/

/-- How formats are understood. -/
structure Style where
  format : Escapes
  argument : Escapes
  /-- The letters of directives. -/
  letters : List Char
  /-- Whether letters for the size of a number are passed over. -/
  sizes : Bool
  /-- How many bits fractions have. -/
  bits : Nat
  /-- A text in the form in which a shell reads it back. -/
  quote : Octets → Octets

def numberLetters : List Char := "diouxX".toList

def fractionLetters : List Char := "eEfFgG".toList

def Style.plain : Style where
  format := { octal := .digits, escape := ['e'] }
  argument := plainEcho
  letters := "sbc".toList ++ numberLetters ++ fractionLetters
  sizes := false
  bits := Fraction.doubleBits
  quote := id

def Style.extended : Style where
  format := { octal := .digits, hex := true, characters := true, escape := ['e', 'E'],
              quotes := ['"', '\'', '?'] }
  argument := { octal := .either, hex := true, characters := true, escape := ['e', 'E'], stop := true }
  letters := "sbcq".toList ++ numberLetters ++ fractionLetters
  sizes := true
  bits := Fraction.extendedBits
  quote := Quoting.backslashed

def Style.program : Style where
  format := { octal := .digits, hex := true, characters := true, escape := ['e'], stop := true,
              quotes := ['"'] }
  argument := { octal := .either, hex := true, characters := true, escape := ['e'], stop := true,
                quotes := ['"'] }
  letters := "sbcq".toList ++ numberLetters ++ fractionLetters
  sizes := true
  bits := Fraction.extendedBits
  quote := Quoting.named

/-- How a value is filled in. -/
structure Directive where
  left : Bool := false
  zeros : Bool := false
  plus : Bool := false
  space : Bool := false
  alternate : Bool := false
  width : Nat := 0
  precision : Option Nat := none
  letter : Char

/-- What is wrong with a format or an argument. -/
inductive Complaint where
  | noNumber (text : Octets)
  | incomplete (text : Octets)
  | outOfRange (text : Octets)
  | badDirective (text : Octets)
  /-- The format ends inside of a directive. -/
  | noDirective (text : Octets)
  deriving DecidableEq, Repr

/-- Blanks, or zeros, around a text. -/
def pad (directive : Directive) (zeros : Bool) (sign text : Octets) : Octets :=
  let missing := directive.width - (sign.length + text.length)
  if directive.left then sign ++ text ++ List.replicate missing ' '
  else if directive.zeros && zeros then sign ++ List.replicate missing '0' ++ text
  else List.replicate missing ' ' ++ sign ++ text

/-- A number to a base, with as many digits as asked for. -/
def digits (directive : Directive) (base : Nat) (n : Nat) : Octets :=
  let text := if n == 0 && directive.precision == some 0 then [] else Nat.toDigits base n
  Octets.padStart (directive.precision.getD 0) text '0'

/-- What is wrong with an argument of which a part is no number. -/
def complaintOf (argument rest : Octets) : List Complaint :=
  if rest.isEmpty then []
  else if rest.length == argument.length then [.noNumber argument]
  else [.incomplete argument]

/-- The number that an argument writes, without regard to its size. -/
def numberAt (argument : Octets) : Int × Octets :=
  let text := argument.dropWhile Octets.isSpace
  let (negative, body) := match text with
    | '-' :: rest => (true, rest)
    | '+' :: rest => (false, rest)
    | rest => (false, rest)
  let signed (n : Nat) : Int := if negative then -(n : Int) else n
  let read (isDigit : Char → Bool) (value : Octets → Nat) (skip : Nat) : Int × Octets :=
    let run := (body.drop skip).takeWhile isDigit
    if run.isEmpty then (0, argument) else (signed (value run), body.drop (skip + run.length))
  match body with
  | '0' :: x :: d :: _ =>
    if (x == 'x' || x == 'X') && (Octets.hexDigit? d).isSome then
      read (fun c => (Octets.hexDigit? c).isSome) Octets.hexValue 2
    else read Octets.isOctal Octets.octalValue 0
  | '0' :: _ => read Octets.isOctal Octets.octalValue 0
  | _ => read Char.isDigit Octets.digitsValue 0

def greatest : Int := 0x7fffffffffffffff

/-- The number of an argument, in range, and what is wrong with it. -/
def number (signed : Bool) (argument : Octets) : Int × List Complaint :=
  match argument with
  | '\'' :: rest | '"' :: rest => ((rest.head?.map fun c => (c.toNat : Int)).getD 0, [])
  | _ =>
    let (n, rest) := numberAt argument
    let (least, most) := if signed then (-greatest - 1, greatest)
      else (-(2 * greatest + 1), 2 * greatest + 1)
    let complaints := complaintOf argument rest
    if n < least then (if signed then least else most, [.outOfRange argument])
    else if n > most then (most, [.outOfRange argument])
    else (n, complaints)

/-- The sign in front of a number. -/
def signOf (directive : Directive) (negative : Bool) : Octets :=
  if negative then ['-'] else if directive.plus then ['+']
  else if directive.space then [' '] else []

/-- What a directive makes of an argument. -/
structure Filled where
  text : Octets
  complaints : List Complaint := []
  /-- Whether all output ends. -/
  stopped : Bool := false

/-- A whole number filled in. -/
def fillNumber (directive : Directive) (argument : Octets) : Filled :=
  let letter := directive.letter
  let signed := letter == 'd' || letter == 'i'
  let (n, complaints) := number signed argument
  let zeros := directive.precision.isNone
  let word := (n % (2 * greatest + 2)).toNat
  let text := match letter with
    | 'o' =>
      let text := digits directive 8 word
      let lead := directive.alternate && text.head? != some '0'
      pad directive zeros [] (if lead then '0' :: text else text)
    | 'x' =>
      let sign := if directive.alternate && word != 0 then ['0', 'x'] else []
      pad directive zeros sign (digits directive 16 word)
    | 'X' =>
      let sign := if directive.alternate && word != 0 then ['0', 'X'] else []
      pad directive zeros sign ((digits directive 16 word).map Char.toUpper)
    | 'u' => pad directive zeros [] (digits directive 10 word)
    | _ => pad directive zeros (signOf directive (n < 0)) (digits directive 10 n.natAbs)
  { text, complaints }

/-- A fraction filled in. -/
def fillFraction (bits : Nat) (directive : Directive) (argument : Octets) : Filled :=
  let (value, complaints) : Fraction × List Complaint :=
    match argument with
    | '\'' :: c :: _ | '"' :: c :: _ => (.ofRatio bits false c.toNat 1, [])
    | _ =>
      match Fraction.read? bits (argument.dropWhile Octets.isSpace) with
      | some (value, rest) => (value, complaintOf argument rest)
      | none => (.finite false 0 0, complaintOf argument argument)
  let isFinite := match value with
    | .finite _ _ _ => true
    | _ => false
  let text := value.digits directive.letter directive.precision directive.alternate
  { text := pad directive isFinite (signOf directive value.isNegative) text, complaints }

/-- An argument filled in. -/
def fill (style : Style) (directive : Directive) (argument : Octets) : Filled :=
  let limited (text : Octets) : Octets :=
    match directive.precision with
    | some n => text.take n
    | none => text
  match directive.letter with
  | 's' => { text := pad directive false [] (limited argument) }
  | 'q' => { text := pad directive false [] (style.quote argument) }
  | 'b' =>
    let (text, stopped) := unescape style.argument argument
    { text := pad directive false [] (limited text), stopped }
  | 'c' => { text := pad directive false [] [argument.head?.getD '\x00'] }
  | letter =>
    if numberLetters.contains letter then fillNumber directive argument
    else fillFraction style.bits directive argument

/-- Reads the flags of a directive. -/
def flags (directive : Directive) : Octets → Directive × Octets
  | '-' :: rest => flags { directive with left := true } rest
  | '0' :: rest => flags { directive with zeros := true } rest
  | '+' :: rest => flags { directive with plus := true } rest
  | ' ' :: rest => flags { directive with space := true } rest
  | '#' :: rest => flags { directive with alternate := true } rest
  | rest => (directive, rest)

/-- The next argument, empty if there is none. -/
def nextArgument : List Octets → Octets × List Octets
  | [] => ([], [])
  | argument :: rest => (argument, rest)

/-- Reads a size: digits, or a star that stands for an argument. -/
def size (text : Octets) (arguments : List Octets) : Option Int × Octets × List Octets :=
  match text with
  | '*' :: rest =>
    let (argument, arguments) := nextArgument arguments
    (some (number true argument).1, rest, arguments)
  | _ =>
    let run := text.takeWhile Char.isDigit
    ((Octets.natural? run).map fun n => (n : Int), text.drop run.length, arguments)

/-- Reads a directive behind its percent sign; nothing comes of it if the text ends. -/
def directive? (style : Style) (text : Octets) (arguments : List Octets) :
    Option (Directive × Octets × List Octets) :=
  let (base, text) := flags { letter := 's' } text
  let (width, text, arguments) := size text arguments
  let width := width.getD 0
  let base := { base with left := base.left || width < 0, width := width.natAbs }
  let (precision, text, arguments) : Option Int × Octets × List Octets := match text with
    | '.' :: rest =>
      let (precision, rest, arguments) := size rest arguments
      (some (precision.getD 0), rest, arguments)
    | rest => (none, rest, arguments)
  let precision := precision.bind fun n => if n < 0 then none else some n.toNat
  let text := if style.sizes then text.dropWhile "hlLjzt".toList.contains else text
  match text with
  | letter :: rest => some ({ base with precision, letter }, rest, arguments)
  | [] => none

/-- What has been printed by a format, the last octet first. -/
structure Printed where
  octets : Octets := []
  complaints : List Complaint := []
  stopped : Bool := false
  /-- Whether the format has taken an argument, or would have. -/
  used : Bool := false

def Printed.add (printed : Printed) (text : Octets) : Printed :=
  { printed with octets := text.reverse ++ printed.octets }

/-- Stops because a directive is malformed. -/
def Printed.refuse (printed : Printed) (complaint : Complaint) : Printed :=
  { printed with complaints := printed.complaints ++ [complaint], stopped := true }

/-- Goes through a format once. -/
def pass (style : Style) (fuel : Nat) (printed : Printed) (format : Octets)
    (arguments : List Octets) : Printed × List Octets :=
  match fuel, format with
  | fuel + 1, '%' :: '%' :: rest => pass style fuel (printed.add ['%']) rest arguments
  | fuel + 1, '%' :: rest =>
    match directive? style rest arguments with
    | none => (printed.refuse (.noDirective format), arguments)
    | some (directive, after, arguments) =>
      if !style.letters.contains directive.letter then
        (printed.refuse (.badDirective (format.take (format.length - after.length))), arguments)
      else
        let (argument, others) := nextArgument arguments
        let isMissing := arguments.isEmpty && directive.letter != 'c'
        let filled := fill style directive argument
        let printed := { printed.add filled.text with
          complaints := printed.complaints ++ (if isMissing then [] else filled.complaints)
          stopped := filled.stopped, used := true }
        if filled.stopped then (printed, others) else pass style fuel printed after others
  | fuel + 1, '\\' :: rest =>
    let (text, size, stopped) := escape style.format rest
    if stopped then ({ printed.add text with stopped := true }, arguments)
    else pass style fuel (printed.add text) (rest.drop size) arguments
  | fuel + 1, c :: rest =>
    pass style fuel { printed with octets := c :: printed.octets } rest arguments
  | _, _ => (printed, arguments)

/-- Goes through a format while arguments are left; what is left when that stops comes second. -/
def passes (style : Style) (fuel : Nat) (printed : Printed) (format : Octets)
    (arguments : List Octets) : Printed × List Octets :=
  match fuel with
  | 0 => (printed, arguments)
  | fuel + 1 =>
    let (printed, rest) := pass style (format.length + 1) printed format arguments
    if printed.stopped || !printed.used || rest.isEmpty then (printed, rest)
    else passes style fuel printed format rest

/-- What a format makes of arguments: the text, what is wrong, and the arguments that it has no use
for. -/
def fillIn (style : Style) (format : Octets) (arguments : List Octets) :
    Octets × List Complaint × List Octets :=
  let (printed, rest) := passes style (arguments.length + 1) {} format arguments
  (printed.octets.reverse, printed.complaints, rest)

end TaskRunner.Shell.Printing
