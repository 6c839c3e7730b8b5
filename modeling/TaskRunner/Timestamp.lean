import TaskRunner.Calendar
import TaskRunner.Staleness
/- # TaskRunner.Timestamp -- points in time, and how they are written

A timestamp counts seconds, and nanoseconds on top of them.  A leap second is the second before it
with a thousand million nanoseconds more.

Timestamps are written in universal time with as many digits behind the seconds as are needed, in
groups of three.  They are read with less strictness: numbers may have fewer digits and blanks in
front, the time may be that of another zone, and further digits behind the ninth do not count. -/

namespace TaskRunner
set_option autoImplicit false

/-- A point in time: seconds since the beginning of 1970, and nanoseconds. -/
structure Timestamp where
  seconds : Int
  nanos : Nat
  deriving DecidableEq, Repr, Inhabited

namespace Timestamp

def nanosPerSecond : Nat := 1000000000

def secondsPerDay : Int := 86400

/-- The timestamp of the time of a file. -/
def ofFileTime (time : FileTime) : Timestamp where
  seconds := time / nanosPerSecond
  nanos := (time % nanosPerSecond).toNat

/-! ## Writing -/

/-- A number with zeros in front, up to a number of digits. -/
def padded (width n : Nat) : String :=
  let digits := (toString n).toList
  String.ofList (List.replicate (width - digits.length) '0' ++ digits)

/-- A year: four digits, or a sign and at least four for one that does not fit them. -/
def yearText (year : Int) : String :=
  if 0 ≤ year && year ≤ 9999 then padded 4 year.toNat
  else (if year < 0 then "-" else "+") ++ padded 4 year.natAbs

/-- The digits behind the seconds, in groups of three. -/
def fractionText (nanos : Nat) : String :=
  if nanos == 0 then ""
  else if nanos % 1000000 == 0 then "." ++ padded 3 (nanos / 1000000)
  else if nanos % 1000 == 0 then "." ++ padded 6 (nanos / 1000)
  else "." ++ padded 9 nanos

/-- The date of a timestamp. -/
def date (time : Timestamp) : Date := Date.ofDays (time.seconds / secondsPerDay)

/-- The second of the day. -/
def secondOfDay (time : Timestamp) : Nat := (time.seconds % secondsPerDay).toNat

/-- The second of the minute, which is 60 for a leap second. -/
def second (time : Timestamp) : Nat :=
  time.secondOfDay % 60 + (if nanosPerSecond ≤ time.nanos then 1 else 0)

/-- The timestamp in universal time. -/
def text (time : Timestamp) : String :=
  let date := time.date
  yearText date.year ++ "-" ++ padded 2 date.month ++ "-" ++ padded 2 date.day ++ "T" ++
    padded 2 (time.secondOfDay / 3600) ++ ":" ++ padded 2 (time.secondOfDay / 60 % 60) ++ ":" ++
    padded 2 time.second ++ fractionText (time.nanos % nanosPerSecond) ++ "Z"

/-- The timestamp as part of a name, with dashes throughout. -/
def slug (time : Timestamp) : String :=
  let date := time.date
  "-".intercalate [yearText date.year, padded 2 date.month, padded 2 date.day,
    padded 2 (time.secondOfDay / 3600), padded 2 (time.secondOfDay / 60 % 60),
    padded 2 time.second, padded 3 (time.nanos % nanosPerSecond / 1000000)]

/-! ## Reading -/

/-- A character of the class of blanks. -/
def isSpace (c : Char) : Bool :=
  let n := c.toNat
  (0x09 ≤ n && n ≤ 0x0D) || n == 0x20 || n == 0x85 || n == 0xA0 || n == 0x1680 ||
    (0x2000 ≤ n && n ≤ 0x200A) || n == 0x2028 || n == 0x2029 || n == 0x202F || n == 0x205F ||
    n == 0x3000

def skipSpaces (text : List Char) : List Char := text.dropWhile isSpace

/-- Reads decimal digits, at least one and at most `most`. -/
def digits? (most : Nat) (text : List Char) : Option (Nat × List Char) :=
  let run := (text.take most).takeWhile Char.isDigit
  if run.isEmpty then none
  else some (run.foldl (fun n c => n * 10 + (c.toNat - '0'.toNat)) 0, text.drop run.length)

/-- Reads a number of at most two digits with blanks in front. -/
def number? (text : List Char) : Option (Nat × List Char) := digits? 2 (skipSpaces text)

/-- Reads a year: four digits at most, or any number of them behind a sign. -/
def year? (text : List Char) : Option (Int × List Char) :=
  match skipSpaces text with
  | '-' :: rest => (digits? rest.length rest).map fun (n, rest) => (-(n : Int), rest)
  | '+' :: rest => (digits? rest.length rest).map fun (n, rest) => ((n : Int), rest)
  | rest => (digits? 4 rest).map fun (n, rest) => ((n : Int), rest)

/-- Passes over a sign with blanks in front. -/
def sign? (c : Char) (text : List Char) : Option (List Char) :=
  match skipSpaces text with
  | d :: rest => if c == d then some rest else none
  | [] => none

/-- Reads the digits behind a point as nanoseconds, zero if there is no point. -/
def fraction? (text : List Char) : Option (Nat × List Char) :=
  match text with
  | '.' :: rest =>
    (digits? 9 rest).map fun (n, after) =>
      (n * Nat.pow 10 (9 - (rest.length - after.length)), after.dropWhile Char.isDigit)
  | rest => some (0, rest)

/-- Reads the difference to universal time, in seconds. -/
def offset? (text : List Char) : Option (Int × List Char) :=
  let clock (text : List Char) : Option (Int × List Char) := do
    match text with
    | h :: k :: rest =>
      let (hours, _) ← if h.isDigit && k.isDigit then digits? 2 [h, k] else none
      match rest.dropWhile fun c => c == ':' || isSpace c with
      | m :: n :: rest =>
        let (minutes, _) ← if m.isDigit && n.isDigit then digits? 2 [m, n] else none
        if minutes < 60 then some ((hours * 3600 + minutes * 60 : Nat), rest) else none
      | _ => none
    | _ => none
  match text with
  | 'Z' :: rest | 'z' :: rest => some (0, rest)
  | '+' :: rest => clock rest
  | '-' :: rest | '\u2212' :: rest => (clock rest).map fun (n, rest) => (-n, rest)
  | _ => none

/-- Reads the name of a zone, or the difference to universal time. -/
def zone? (text : List Char) : Option (Int × List Char) :=
  if (text.take 3).map Char.toUpper == ['U', 'T', 'C'] then some (0, text.drop 3) else offset? text

/-- The most years before the year zero that a timestamp can be of; after it there is one less. -/
def yearLimit : Nat := 262143

/-- Whether a timestamp can be of a year. -/
def isYear (year : Int) : Bool := -yearLimit ≤ year && year < yearLimit

/-- The timestamp of a date and a time of day in a zone.  Both the date there and the date in
universal time must be of a year that a timestamp can be of. -/
def ofParts? (date : Date) (hour minute second nanos : Nat) (offset : Int) : Option Timestamp :=
  if date.isValid && isYear date.year && hour < 24 && minute < 60 && second ≤ 60 &&
      -secondsPerDay < offset && offset < secondsPerDay then
    let leap := second == 60
    let seconds := date.toDays * secondsPerDay + hour * 3600 + minute * 60 +
      (if leap then 59 else second : Nat)
    let time : Timestamp := ⟨seconds - offset, if leap then nanos + nanosPerSecond else nanos⟩
    if isYear time.date.year then some time else none
  else none

/-- Reads a date. -/
def date? (text : List Char) : Option (Date × List Char) := do
  let (year, text) ← year? text
  let (month, text) ← number? (← sign? '-' text)
  let (day, text) ← number? (← sign? '-' text)
  return ({ year, month, day }, text)

/-- Reads a timestamp. -/
def parse? (text : String) : Option Timestamp := do
  let (date, rest) ← date? text.toList
  let rest ← match rest with
    | 'T' :: rest | 't' :: rest | ' ' :: rest => some rest
    | _ => none
  let (hour, rest) ← number? rest
  let (minute, rest) ← number? (← sign? ':' rest)
  let (second, rest) ← number? (← sign? ':' rest)
  let (nanos, rest) ← fraction? rest
  let (offset, rest) ← zone? (skipSpaces rest)
  if (skipSpaces rest).isEmpty then ofParts? date hour minute second nanos offset else none

end Timestamp
end TaskRunner
