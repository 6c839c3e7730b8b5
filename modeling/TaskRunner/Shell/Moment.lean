import TaskRunner.Calendar
import TaskRunner.Shell.Octets
import TaskRunner.Staleness
/- # TaskRunner.Shell.Moment -- moments in words

A moment is written as a date and a time of day, or by how far it is from another one, such as
`2 days ago`; of what is not said, the present moment decides.  The time of a day in whose name nothing
is said begins at midnight.  All times are those of the zone without an offset, unless a zone is
written. -/

namespace TaskRunner.Shell.Moment
set_option autoImplicit false

def nanosPerSecond : Int := 1000000000

def monthNames : List String := ["january", "february", "march", "april", "may", "june", "july",
  "august", "september", "october", "november", "december"]

def dayNames : List String :=
  ["sunday", "monday", "tuesday", "wednesday", "thursday", "friday", "saturday"]

/-- The place of a name in a list, where three letters or more stand for it. -/
def placeOf? (names : List String) (word : Octets) : Option Nat :=
  if word.length < 3 then none
  else names.findIdx? fun name =>
    name.toList == word || (word.length == 3 && word.isPrefixOf name.toList) ||
      (word == "sept".toList && name == "september") || (word == "tues".toList && name == "tuesday") ||
      (word == "wednes".toList && name == "wednesday") || (word == "thur".toList && name == "thursday") ||
      (word == "thurs".toList && name == "thursday")

/-- How far a moment is from another. -/
structure Shift where
  years : Int := 0
  months : Int := 0
  days : Int := 0
  seconds : Int := 0
  nanos : Int := 0

namespace Shift

def add (a b : Shift) : Shift where
  years := a.years + b.years
  months := a.months + b.months
  days := a.days + b.days
  seconds := a.seconds + b.seconds
  nanos := a.nanos + b.nanos

def times (n : Int) (shift : Shift) : Shift where
  years := n * shift.years
  months := n * shift.months
  days := n * shift.days
  seconds := n * shift.seconds
  nanos := n * shift.nanos

/-- A unit of time. -/
def ofUnit? (word : Octets) : Option Shift :=
  let word := if word.length > 2 && word.getLast? == some 's' then word.dropLast else word
  match Octets.toText word with
  | "year" => some { years := 1 }
  | "month" => some { months := 1 }
  | "fortnight" => some { days := 14 }
  | "week" => some { days := 7 }
  | "day" => some { days := 1 }
  | "hour" => some { seconds := 3600 }
  | "minute" | "min" => some { seconds := 60 }
  | "second" | "sec" => some { seconds := 1 }
  | _ => none

end Shift

/-- A word that says how many of something are meant. -/
def ordinal? (word : Octets) : Option Int :=
  match Octets.toText word with
  | "last" => some (-1)
  | "this" => some 0
  | "next" | "first" => some 1
  | "third" => some 3
  | "fourth" => some 4
  | "fifth" => some 5
  | "sixth" => some 6
  | "seventh" => some 7
  | "eighth" => some 8
  | "ninth" => some 9
  | "tenth" => some 10
  | "eleventh" => some 11
  | "twelfth" => some 12
  | _ => none

/-- A day that is named by how far it is from today. -/
def dayShift? (word : Octets) : Option Int :=
  match Octets.toText word with
  | "today" | "now" => some 0
  | "yesterday" => some (-1)
  | "tomorrow" => some 1
  | _ => none

/-- The offset of a zone in hours. -/
def zone? (word : Octets) : Option Int :=
  match Octets.toText word with
  | "utc" | "gmt" | "ut" | "z" | "wet" => some 0
  | "est" => some (-5)
  | "edt" => some (-4)
  | "cst" => some (-6)
  | "cdt" => some (-5)
  | "mst" => some (-7)
  | "mdt" => some (-6)
  | "pst" => some (-8)
  | "pdt" => some (-7)
  | "cet" | "met" | "bst" => some 1
  | "cest" | "eet" | "mest" => some 2
  | "jst" => some 9
  | "ist" => some 5
  | _ => none

/-- What has been said about a moment. -/
structure Said where
  date : Option Date := none
  /-- Whether a date was said without its year. -/
  yearOpen : Bool := false
  /-- The second of the day and a fraction of a second. -/
  time : Option (Int × Int) := none
  zone : Option Int := none
  /-- A day of the week, and which of those days. -/
  day : Option (Nat × Int) := none
  shift : Shift := {}
  shifted : Bool := false
  /-- A moment that is written as a number of nanoseconds. -/
  exact : Option Int := none

/-- Digits as a number, and how many they are. -/
def readDigits (text : Octets) : Nat × Nat × Octets :=
  let digits := text.takeWhile Char.isDigit
  (Octets.digitsValue digits, digits.length, text.drop digits.length)

def readLetters (text : Octets) : Octets × Octets :=
  let word := text.takeWhile fun c => c.isAlpha
  (word, text.drop word.length)

def skipBlanks (text : Octets) : Octets := text.dropWhile fun c => Octets.isSpace c || c == ','

/-- A fraction in nanoseconds. -/
def readFraction (text : Octets) : Int × Octets :=
  match text with
  | '.' :: c :: rest | ',' :: c :: rest =>
    if c.isDigit then
      let digits := (c :: rest).takeWhile Char.isDigit
      let nine := (digits ++ List.replicate (9 - digits.length) '0').take 9
      ((Octets.digitsValue nine : Nat), (c :: rest).drop digits.length)
    else (0, text)
  | _ => (0, text)

/-- Reads the offset of a zone behind a sign, in seconds. -/
def readOffset (negative : Bool) (text : Octets) : Option (Int × Octets) :=
  let (n, count, rest) := readDigits text
  if count == 0 then none
  else
    let (minutes, rest) : Int × Octets := match rest with
      | ':' :: more =>
        let (m, c, after) := readDigits more
        if c == 2 then ((n : Int) * 60 + m, after) else ((n : Int) * 60, rest)
      | _ => (if count ≤ 2 then (n : Int) * 60 else ((n / 100 : Nat) : Int) * 60 + ((n % 100 : Nat) : Int), rest)
    if minutes > 24 * 60 then none
    else some ((if negative then -minutes else minutes) * 60, rest)

/-- The hour of a clock of twelve hours. -/
def hourOf? (hour : Nat) (meridian : Option Bool) : Option Int :=
  match meridian with
  | none => if hour ≤ 24 then some hour else none
  | some isAfternoon =>
    if hour == 0 || hour > 12 then none
    else some ((hour % 12 + (if isAfternoon then 12 else 0) : Nat) : Int)

/-- Reads which half of the day is meant. -/
def readMeridian (text : Octets) : Option Bool × Octets :=
  let text' := skipBlanks text
  let word := text'.takeWhile fun c => c.isAlpha || c == '.'
  let letters := word.filter (· != '.')
  if letters == "am".toList then (some false, text'.drop word.length)
  else if letters == "pm".toList then (some true, text'.drop word.length)
  else (none, text)

/-- Reads what may follow the time of a day: a half of the day, or an offset. -/
def finishTime? (said : Said) (hour minute second : Nat) (nanos : Int) (text : Octets) :
    Option (Said × Octets) := do
  let (meridian, rest) := readMeridian text
  let hour ← hourOf? hour meridian
  if minute > 59 || second > 60 || said.time.isSome then none
  else
    let said := { said with time := some (hour * 3600 + minute * 60 + second, nanos) }
    match skipBlanks rest with
    | sign :: c :: more =>
      if (sign == '+' || sign == '-') && c.isDigit && meridian.isNone then
        match readOffset (sign == '-') (c :: more) with
        | some (offset, rest) => return ({ said with zone := some offset }, rest)
        | none => none
      else return (said, rest)
    | _ => return (said, rest)

/-- Reads a time of day behind its hour. -/
def readTime? (said : Said) (hour : Nat) (text : Octets) : Option (Said × Octets) :=
  let (minute, count, rest) := readDigits text
  if count == 0 || count > 2 then none
  else
    match rest with
    | ':' :: more =>
      let (second, count, rest) := readDigits more
      if count == 0 || count > 2 then none
      else
        let (nanos, rest) := readFraction rest
        finishTime? said hour minute second nanos rest
    | rest => finishTime? said hour minute 0 0 rest

/-- A year of which only the last digits are written. -/
def fullYear (n count : Nat) : Int :=
  if count > 2 then n else if n < 69 then 2000 + n else 1900 + n

def withDate? (said : Said) (date : Date) : Option Said :=
  if said.date.isSome || !date.isValid then none else some { said with date := some date }

/-- Reads what starts with digits. -/
def readNumber? (said : Said) (thisYear : Int) (text : Octets) : Option (Said × Octets) := do
  let (n, count, rest) := readDigits text
  match rest with
  | ':' :: more => readTime? said n more
  | '-' :: c :: more =>
    if c.isDigit then
      let (month, _, rest) := readDigits (c :: more)
      match rest with
      | '-' :: more =>
        let (day, days, rest) := readDigits more
        if days == 0 then none
        else
          let said ← withDate? said ⟨fullYear n count, month, day⟩
          match rest with
          | 't' :: d :: _ => if d.isDigit then return (said, rest.drop 1) else return (said, rest)
          | rest => return (said, rest)
      | _ => none
    else
      let (word, rest) := readLetters (c :: more)
      let month ← placeOf? monthNames word
      match rest with
      | '-' :: more =>
        let (year, years, rest) := readDigits more
        if years == 0 then none
        else return (← withDate? said ⟨fullYear year years, month + 1, n⟩, rest)
      | rest => return ({ ← withDate? said ⟨thisYear, month + 1, n⟩ with yearOpen := true }, rest)
  | '/' :: more =>
    let (second, seconds, rest) := readDigits more
    if seconds == 0 then none
    else
      match rest with
      | '/' :: more =>
        let (third, thirds, rest) := readDigits more
        if thirds == 0 then none
        else if count > 2 then return (← withDate? said ⟨n, second, third⟩, rest)
        else return (← withDate? said ⟨fullYear third thirds, n, second⟩, rest)
      | rest => return (← withDate? said ⟨thisYear, n, second⟩, rest)
  | rest =>
    let (fraction, behind) := readFraction rest
    let (word, after) := readLetters (skipBlanks (if fraction == 0 then rest else behind))
    match Shift.ofUnit? word, placeOf? monthNames word with
    | some unit, _ =>
      let shift := unit.times n
      let shift := if unit.seconds == 1 then { shift with nanos := fraction } else shift
      return ({ said with shift := said.shift.add shift, shifted := true }, after)
    | none, some month =>
      let after' := skipBlanks after
      let (year, years, behind) := readDigits after'
      if years > 2 && behind.head? != some ':' then
        return (← withDate? said ⟨year, month + 1, n⟩, behind)
      else return ({ ← withDate? said ⟨thisYear, month + 1, n⟩ with yearOpen := true }, after)
    | none, none =>
      match readMeridian rest with
      | (some _, _) => finishTime? said n 0 0 0 rest
      | (none, _) =>
        if said.yearOpen && !said.shifted && (said.time.isSome || count > 2) then
          let date ← said.date
          return ({ said with date := some { date with year := n }, yearOpen := false }, rest)
        else if count > 4 then
          return (← withDate? said ⟨(n / 10000 : Nat), n / 100 % 100, n % 100⟩, rest)
        else if count ≤ 2 then finishTime? said n 0 0 0 rest
        else finishTime? said (n / 100) (n % 100) 0 0 rest

/-- Reads a word and what belongs to it. -/
def readWord? (said : Said) (thisYear : Int) (text : Octets) : Option (Said × Octets) := do
  let (word, rest) := readLetters text
  let shifted (shift : Shift) : Said := { said with shift := said.shift.add shift, shifted := true }
  if word == "ago".toList then
    if said.shifted then return ({ said with shift := said.shift.times (-1) }, rest) else none
  else if word == "hence".toList then return (said, rest)
  else if word == "t".toList && (skipBlanks rest).head?.any Char.isDigit then return (said, rest)
  else
    match dayShift? word, ordinal? word, Shift.ofUnit? word, zone? word with
    | some days, _, _, _ => return (shifted { days }, rest)
    | none, some n, _, _ =>
      let (next, after) := readLetters (skipBlanks rest)
      match Shift.ofUnit? next, placeOf? dayNames next with
      | some unit, _ => return (shifted (unit.times n), after)
      | none, some day => return ({ said with day := some (day, n) }, after)
      | none, none => none
    | none, none, some unit, _ => return (shifted unit, rest)
    | none, none, none, some hours =>
      if said.zone.isSome then none
      else return ({ said with zone := some (hours * 3600) }, rest)
    | none, none, none, none =>
      match placeOf? monthNames word, placeOf? dayNames word with
      | some month, _ =>
        let after := match skipBlanks rest with
          | '-' :: more => more
          | more => more
        let (day, count, behind) := readDigits after
        if count == 0 then none
        else if count > 2 then return (← withDate? said ⟨day, month + 1, 1⟩, behind)
        else
          let next := match behind with
            | '-' :: more => more
            | more => skipBlanks more
          let (year, years, final) := readDigits next
          if years > 2 && final.head? != some ':' then
            return (← withDate? said ⟨year, month + 1, day⟩, final)
          else
            return ({ ← withDate? said ⟨thisYear, month + 1, day⟩ with yearOpen := true }, behind)
      | none, some day => return ({ said with day := some (day, 0) }, rest.dropWhile (· == '.'))
      | none, none => none

/-- Reads all that is said. -/
def readAll? (thisYear : Int) (fuel : Nat) (said : Said) (text : Octets) : Option Said :=
  match fuel with
  | 0 => none
  | fuel + 1 => do
    match skipBlanks text with
    | [] => return said
    | '@' :: rest =>
      let negative := rest.head? == some '-'
      let (n, count, after) := readDigits (if negative then rest.drop 1 else rest)
      let (fraction, after) := readFraction after
      let seconds : Int := if negative then -(n : Int) else n
      if count == 0 || !(skipBlanks after).isEmpty then none
      else
        let part := if negative then -fraction else fraction
        return { said with exact := some (seconds * nanosPerSecond + part) }
    | c :: rest =>
      if c.isDigit then
        let (said, rest) ← readNumber? said thisYear (c :: rest)
        readAll? thisYear fuel said rest
      else if c == '+' || c == '-' then
        let rest := rest.dropWhile fun d => d == ' '
        let (n, count, after) := readDigits rest
        let (fraction, behind) := readFraction after
        let (word, after) := readLetters (skipBlanks (if fraction == 0 then after else behind))
        let unit ← Shift.ofUnit? word
        if count == 0 then none
        else
          let amount : Int := if c == '-' then -(n : Int) else n
          let shift := unit.times amount
          let shift := if unit.seconds == 1 then
              { shift with nanos := if c == '-' then -fraction else fraction }
            else shift
          readAll? thisYear fuel { said with shift := said.shift.add shift, shifted := true } after
      else if c.isAlpha then
        let (said, rest) ← readWord? said thisYear (c :: rest)
        readAll? thisYear fuel said rest
      else none

/-- A date so many months later; days that a month does not have run over into the next. -/
def addMonths (date : Date) (months : Int) : Int :=
  let all := date.year * 12 + ((date.month : Int) - 1) + months
  let first : Date := ⟨all / 12, (all % 12).toNat + 1, 1⟩
  first.toDays + (date.day : Int) - 1

/-- The day of the week of a day: zero for Sunday. -/
def weekday (days : Int) : Nat := ((days + 4) % 7).toNat

def secondsPerDay : Int := 86400

/-- The moment that is said, in nanoseconds. -/
def Said.moment (said : Said) (now : FileTime) : FileTime :=
  match said.exact with
  | some moment => moment
  | none =>
    let nowSeconds := now / nanosPerSecond
    let today := Date.ofDays (nowSeconds / secondsPerDay)
    let keepsTime := said.time.isNone && said.shifted && said.date.isNone && said.day.isNone
    let (second, nanos) : Int × Int := match said.time with
      | some time => time
      | none => if keepsTime then (nowSeconds % secondsPerDay, now % nanosPerSecond) else (0, 0)
    let date := said.date.getD today
    let days := date.toDays
    let days := match said.day, said.date with
      | some (day, n), none =>
        let here := weekday days
        let ahead : Int := ((day + 7 - here) % 7 : Nat)
        let weeks := if n > 0 && day != here then n - 1 else n
        days + ahead + 7 * weeks
      | _, _ => days
    let days := addMonths (Date.ofDays days) (said.shift.months + 12 * said.shift.years) +
      said.shift.days
    let seconds := days * secondsPerDay + second - said.zone.getD 0 + said.shift.seconds
    seconds * nanosPerSecond + nanos + said.shift.nanos

/-- The moment that a text names. -/
def ofText? (now : FileTime) (text : Octets) : Option FileTime :=
  let today := Date.ofDays (now / nanosPerSecond / secondsPerDay)
  (readAll? today.year (text.length + 2) {} (text.map Char.toLower)).map (·.moment now)

/-- The moment that digits name: two for each of the month, the day, the hour and the minute, in front
of them the year, and behind a point the second. -/
def ofDigits? (now : FileTime) (text : Octets) : Option FileTime := do
  let main := text.takeWhile (· != '.')
  let second? : Option Nat := match text.drop main.length with
    | [] => some 0
    | _ :: rest => if rest.length == 2 then Octets.natural? rest else none
  let second ← second?
  let digits ← if main.all Char.isDigit then some main else none
  let pair (i : Nat) : Nat := Octets.digitsValue ((digits.drop i).take 2)
  let thisYear := (Date.ofDays (now / nanosPerSecond / secondsPerDay)).year
  let (year, start) ← match digits.length with
    | 8 => some (thisYear, 0)
    | 10 => some (fullYear (pair 0) 2, 2)
    | 12 => some (((pair 0 * 100 + pair 2 : Nat) : Int), 4)
    | _ => none
  let date : Date := ⟨year, pair start, pair (start + 2)⟩
  let hour := pair (start + 4)
  let minute := pair (start + 6)
  if !date.isValid || hour > 23 || minute > 59 || second > 60 then none
  else
    let seconds := date.toDays * secondsPerDay + ((hour * 3600 + minute * 60 + second : Nat) : Int)
    return seconds * nanosPerSecond

/-! ## Moments as texts -/

def two (n : Nat) : Octets := Octets.padStart 2 (Octets.ofNat n) '0'

def capital (name : String) : Octets :=
  match name.toList with
  | c :: rest => c.toUpper :: rest
  | [] => []

/-- The parts of a moment. -/
structure Parts where
  days : Int
  date : Date
  second : Nat
  nanos : Nat

def Parts.ofTime (time : FileTime) : Parts :=
  let seconds := time / nanosPerSecond
  let days := seconds / secondsPerDay
  { days, date := Date.ofDays days, second := (seconds % secondsPerDay).toNat
    nanos := (time % nanosPerSecond).toNat }

namespace Parts

def hour (parts : Parts) : Nat := parts.second / 3600
def minute (parts : Parts) : Nat := parts.second / 60 % 60
def weekday (parts : Parts) : Nat := Moment.weekday parts.days
def monthName (parts : Parts) : Octets := capital ((monthNames[parts.date.month - 1]?).getD "")
def dayName (parts : Parts) : Octets := capital ((dayNames[parts.weekday]?).getD "")

/-- The day of the year, from one on. -/
def dayOfYear (parts : Parts) : Nat :=
  (parts.days - (⟨parts.date.year, 1, 1⟩ : Date).toDays + 1).toNat

/-- The week of the year and its year, where weeks begin on Mondays and belong to the year in which
most of their days lie. -/
def isoWeek (parts : Parts) : Int × Nat :=
  let thursday := parts.days - ((parts.weekday + 6) % 7 : Nat) + 3
  let year := (Date.ofDays thursday).year
  (year, ((thursday - (⟨year, 1, 1⟩ : Date).toDays) / 7).toNat + 1)

/-- The week of the year, the first of which begins with the first day of a kind. -/
def week (parts : Parts) (firstDay : Nat) : Nat :=
  let since := (parts.weekday + 7 - firstDay) % 7
  (parts.dayOfYear + 6 - since) / 7

def dateText (parts : Parts) : Octets :=
  Octets.padStart 4 (Octets.ofInt parts.date.year) '0' ++ '-' :: two parts.date.month ++
    '-' :: two parts.date.day

def timeText (parts : Parts) : Octets :=
  two parts.hour ++ ':' :: two parts.minute ++ ':' :: two (parts.second % 60)

/-- What a letter of a format stands for: the text, and the width and the filling that it has unless
others are asked for. -/
def directive? (parts : Parts) (time : FileTime) (c : Char) : Option (Octets × Nat × Char) :=
  let number (width : Nat) (n : Nat) : Option (Octets × Nat × Char) := some (Octets.ofNat n, width, '0')
  let blank (width : Nat) (n : Nat) : Option (Octets × Nat × Char) := some (Octets.ofNat n, width, ' ')
  let text (octets : Octets) : Option (Octets × Nat × Char) := some (octets, 0, ' ')
  let twelve := if parts.hour % 12 == 0 then 12 else parts.hour % 12
  match c with
  | 'Y' => some (Octets.ofInt parts.date.year, 4, '0')
  | 'C' => number 2 (parts.date.year / 100).toNat
  | 'y' => number 2 (parts.date.year % 100).toNat
  | 'm' => number 2 parts.date.month
  | 'd' => number 2 parts.date.day
  | 'e' => blank 2 parts.date.day
  | 'H' => number 2 parts.hour
  | 'I' => number 2 twelve
  | 'k' => blank 2 parts.hour
  | 'l' => blank 2 twelve
  | 'M' => number 2 parts.minute
  | 'S' => number 2 (parts.second % 60)
  | 'N' => number 9 parts.nanos
  | 's' => some (Octets.ofInt (time / nanosPerSecond), 1, '0')
  | 'j' => number 3 parts.dayOfYear
  | 'u' => number 1 (if parts.weekday == 0 then 7 else parts.weekday)
  | 'w' => number 1 parts.weekday
  | 'V' => number 2 parts.isoWeek.2
  | 'G' => some (Octets.ofInt parts.isoWeek.1, 4, '0')
  | 'g' => number 2 (parts.isoWeek.1 % 100).toNat
  | 'U' => number 2 (parts.week 0)
  | 'W' => number 2 (parts.week 1)
  | 'q' => number 1 ((parts.date.month + 2) / 3)
  | 'a' => text (parts.dayName.take 3)
  | 'A' => text parts.dayName
  | 'b' | 'h' => text (parts.monthName.take 3)
  | 'B' => text parts.monthName
  | 'p' => text (if parts.hour < 12 then ['A', 'M'] else ['P', 'M'])
  | 'P' => text (if parts.hour < 12 then ['a', 'm'] else ['p', 'm'])
  | 'n' => text ['\n']
  | 't' => text ['\t']
  | '%' => text ['%']
  | 'z' => text "+0000".toList
  | 'Z' => text "UTC".toList
  | 'F' => text parts.dateText
  | 'T' | 'X' => text parts.timeText
  | 'R' => text (two parts.hour ++ ':' :: two parts.minute)
  | 'r' => text (two twelve ++ ':' :: two parts.minute ++ ':' :: two (parts.second % 60) ++
      (if parts.hour < 12 then " AM".toList else " PM".toList))
  | 'D' | 'x' => text (two parts.date.month ++ '/' :: two parts.date.day ++
      '/' :: two (parts.date.year % 100).toNat)
  | 'c' => text (parts.dayName.take 3 ++ ' ' :: parts.monthName.take 3 ++ ' ' ::
      Octets.padStart 2 (Octets.ofNat parts.date.day) ++ ' ' :: parts.timeText ++
      ' ' :: Octets.padStart 4 (Octets.ofInt parts.date.year) '0')
  | _ => none

end Parts

/-- A moment in a format. -/
def format (time : FileTime) (fuel : Nat) (text : Octets) : Octets :=
  let parts := Parts.ofTime time
  match fuel, text with
  | 0, _ | _, [] => []
  | fuel + 1, '%' :: rest =>
    let flags := rest.takeWhile fun c => "-_0^#+".toList.contains c
    let after := rest.drop flags.length
    let digits := after.takeWhile Char.isDigit
    let after := after.drop digits.length
    let after := if after.head? == some 'E' || after.head? == some 'O' then after.drop 1 else after
    let colons := after.takeWhile (· == ':')
    let after := after.drop colons.length
    match after with
    | [] => '%' :: rest
    | c :: more =>
      let found := if colons.isEmpty then parts.directive? time c
        else if c == 'z' then
          some ((if colons.length == 2 then "+00:00:00" else "+00:00").toList, 0, ' ')
        else none
      match found with
      | none => '%' :: rest.take (rest.length - more.length) ++ format time fuel more
      | some (shown, width, filling) =>
        let shown := if flags.contains '^' then shown.map Char.toUpper else shown
        let filling := if flags.contains '_' then ' ' else if flags.contains '0' then '0' else filling
        let width := if flags.contains '-' then 0 else (Octets.natural? digits).getD width
        let shown := if c == 'N' then
            let nine := Octets.padStart 9 shown '0'
            if digits.isEmpty then nine else nine.take (max 1 width)
          else shown
        Octets.padStart width shown filling ++ format time fuel more
  | fuel + 1, c :: rest => c :: format time fuel rest

/-- A moment in a format of any length. -/
def inFormat (time : FileTime) (text : Octets) : Octets := format time (text.length + 1) text

end TaskRunner.Shell.Moment
