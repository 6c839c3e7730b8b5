import TaskRunner.Shell.Decimal
import TaskRunner.Shell.Tool.Count
import TaskRunner.Shell.Tool.Options
/- # TaskRunner.Shell.Utility.Order -- lines in order

Lines are compared by keys: parts of them, as texts or as numbers of some kind.  Lines that no key
tells apart are compared as a whole.  The other programs here compare lines with their neighbours, or
the lines of two files with one another. -/

namespace TaskRunner.Shell.Utility
set_option autoImplicit false

/-! ## Values that keys are compared by -/

/-- A decimal number at the start of a text, as an integer and how many of its digits stand behind the
point. -/
def leadingNumber (text : Octets) : Int × Nat :=
  let text := text.dropWhile fun c => c == ' ' || c == '\t'
  let negative := text.head? == some '-'
  let text := if negative then text.drop 1 else text
  let whole := text.takeWhile Char.isDigit
  let fraction := match text.drop whole.length with
    | '.' :: rest => rest.takeWhile Char.isDigit
    | _ => []
  let n : Int := Octets.digitsValue (whole ++ fraction)
  (if negative then -n else n, fraction.length)

def compareScaled (a b : Int × Nat) : Ordering :=
  compare (a.1 * (Nat.pow 10 b.2 : Nat)) (b.1 * (Nat.pow 10 a.2 : Nat))

/-- What the letter behind a number multiplies it by, as a rank. -/
def unitRank (text : Octets) : Nat :=
  let text := text.dropWhile fun c => c == ' ' || c == '\t'
  let rest := (text.dropWhile (· == '-')).dropWhile fun c => c.isDigit || c == '.'
  match rest.head? with
  | some 'k' => 1
  | some c => (("KMGTPEZY".toList.idxOf? c).map (· + 1)).getD 0
  | none => 0

def compareHuman (a b : Octets) : Ordering :=
  let x := leadingNumber a
  let y := leadingNumber b
  let sign (n : Int) : Int := n.sign
  if sign x.1 != sign y.1 then compare (sign x.1) (sign y.1)
  else if unitRank a != unitRank b then
    let byRank := compare (unitRank a) (unitRank b)
    if sign x.1 < 0 then byRank.swap else byRank
  else compareScaled x y

/-- The number of the month whose name a text begins with; zero for none. -/
def monthOf (text : Octets) : Nat :=
  let text := text.dropWhile fun c => c == ' ' || c == '\t'
  let name := Octets.toText ((text.take 3).map Char.toUpper)
  ((["JAN", "FEB", "MAR", "APR", "MAY", "JUN", "JUL", "AUG", "SEP", "OCT", "NOV", "DEC"].idxOf? name).map
    (· + 1)).getD 0

/-- A number with an exponent at the start of a text, behind which texts that are none come first. -/
def generalRank (text : Octets) : Nat × Float :=
  match Fraction.read? Fraction.extendedBits (text.dropWhile Octets.isBlank) with
  | some (.undefined _, _) => (1, 0)
  | some (number, _) => (2, number.toFloat)
  | none => (0, 0)

def compareGeneral (a b : Octets) : Ordering :=
  let x := generalRank a
  let y := generalRank b
  if x.1 != y.1 then compare x.1 y.1
  else if x.2 < y.2 then .lt else if y.2 < x.2 then .gt else .eq

def compareTexts (a b : Octets) : Ordering :=
  if a == b then .eq else if Octets.isOrdered a b then .lt else .gt

/-- The rank of an octet of a version. -/
def versionRank (c : Option Char) : Int :=
  match c with
  | some '~' => -2
  | none => -1
  | some c => if c.isDigit then 0 else if c.isAlpha then c.toNat else c.toNat + 256

/-- Compares versions: digits in them as numbers, all else by its rank. -/
def compareVersions (fuel : Nat) (a b : Octets) : Ordering :=
  match fuel with
  | 0 => .eq
  | fuel + 1 =>
    if a.isEmpty && b.isEmpty then .eq
    else
      let isDigit (text : Octets) : Bool := text.head?.any Char.isDigit
      if (a.isEmpty || isDigit a) && (b.isEmpty || isDigit b) then
        let first := a.takeWhile Char.isDigit
        let second := b.takeWhile Char.isDigit
        match compare (Octets.digitsValue first) (Octets.digitsValue second) with
        | .eq =>
          if first.isEmpty && second.isEmpty then .eq
          else compareVersions fuel (a.drop first.length) (b.drop second.length)
        | other => other
      else
        let rank (text : Octets) : Int :=
          if isDigit text then 0 else versionRank text.head?
        match compare (rank a) (rank b) with
        | .eq =>
          compareVersions fuel (if isDigit a then a else a.drop 1) (if isDigit b then b else b.drop 1)
        | other => other

/-! ## Keys -/

/-- A place in a line: so many fields and so many octets behind its beginning. -/
structure KeyPlace where
  fields : Nat := 0
  octets : Nat := 0
  skipsBlanks : Bool := false

/-- A part of lines by which they are compared. -/
structure SortKey where
  start : KeyPlace := {}
  /-- Where the part ends; at the end of the line if nothing is said. -/
  stop : Option KeyPlace := none
  /-- The letters that say how parts are compared. -/
  letters : List Char := []

def isSortBlank (c : Char) : Bool := c == ' ' || c == '\t' || c == '\n'

/-- What is left of a line behind so many fields. -/
def behindFields (tab : Option Char) (keepsLast : Bool) (count : Nat) (line : Octets) : Octets :=
  match count with
  | 0 => line
  | count + 1 =>
    match tab with
    | some tab =>
      let rest := line.dropWhile (· != tab)
      behindFields (some tab) keepsLast count (if count == 0 && keepsLast then rest else rest.drop 1)
    | none =>
      behindFields none keepsLast count
        ((line.dropWhile isSortBlank).dropWhile (!isSortBlank ·))

/-- The part of a line that a key is about. -/
def SortKey.part (key : SortKey) (tab : Option Char) (line : Octets) : Octets :=
  let begun := behindFields tab false key.start.fields line
  let begun := if key.start.skipsBlanks then begun.dropWhile isSortBlank else begun
  let begun := begun.drop key.start.octets
  match key.stop with
  | none => begun
  | some stop =>
    let rest := if stop.octets == 0 then behindFields tab true (stop.fields + 1) line
      else
        let rest := behindFields tab false stop.fields line
        let rest := if stop.skipsBlanks then rest.dropWhile isSortBlank else rest
        rest.drop stop.octets
    begun.take (begun.length - rest.length)

/-- A part of a line as its key looks at it. -/
def SortKey.prepare (key : SortKey) (text : Octets) : Octets :=
  let has (c : Char) : Bool := key.letters.contains c
  let text := if has 'd' then text.filter fun c => isSortBlank c || c.isAlphanum else text
  let text := if has 'i' then text.filter fun c => 32 ≤ c.toNat && c.toNat < 127 else text
  if has 'f' then text.map Char.toUpper else text

/-- Compares two parts. -/
def SortKey.compare (key : SortKey) (a b : Octets) : Ordering :=
  let has (c : Char) : Bool := key.letters.contains c
  let result := if has 'n' then compareScaled (leadingNumber a) (leadingNumber b)
    else if has 'g' then compareGeneral a b
    else if has 'h' then compareHuman a b
    else if has 'M' then Ord.compare (monthOf a) (monthOf b)
    else if has 'V' then compareVersions (a.length + b.length + 2) a b
    else compareTexts a b
  if has 'r' then result.swap else result

/-- Reads a place of a key, and what is behind it. -/
def readPlace (spec : Octets) (lead : String) (isStop : Bool) (text : Octets) :
    Tool (KeyPlace × Octets) := do
  let invalid {α : Type} (text : String) : Tool α :=
    Tool.fail 2 s!"{text}: invalid field specification {Tool.quoted spec}"
  let digits := text.takeWhile Char.isDigit
  match Octets.natural? digits with
  | none => Tool.fail 2 s!"invalid number {lead}: invalid count at start of {Tool.quoted text}"
  | some 0 => invalid "field number is zero"
  | some fields =>
    match text.drop digits.length with
    | '.' :: rest =>
      let digits := rest.takeWhile Char.isDigit
      match Octets.natural? digits with
      | none =>
        Tool.fail 2 s!"invalid number after '.': invalid count at start of {Tool.quoted rest}"
      | some octets =>
        if octets == 0 && !isStop then invalid "character offset is zero"
        else
          return ({ fields := fields - 1, octets := if isStop then octets else octets - 1 },
            rest.drop digits.length)
    | rest => return ({ fields := fields - 1 }, rest)

def sortLetters : List Char := "bdfghiMnRrV".toList

/-- Reads a key. -/
def readKey (text : Octets) : Tool SortKey := do
  let (start, rest) ← readPlace text "at field start" false text
  let letters := rest.takeWhile sortLetters.contains
  let start := { start with skipsBlanks := letters.contains 'b' }
  match rest.drop letters.length with
  | [] => return { start, letters }
  | ',' :: rest =>
    let (stop, rest) ← readPlace text "after ','" true rest
    let more := rest.takeWhile sortLetters.contains
    let stop := { stop with skipsBlanks := more.contains 'b' }
    if more.length < rest.length then
      Tool.fail 2 s!"stray character in field spec: invalid field specification {Tool.quoted text}"
    else return { start, stop := some stop, letters := letters ++ more }
  | _ => Tool.fail 2 s!"stray character in field spec: invalid field specification {Tool.quoted text}"

/-! ## Sorting -/

/-- How lines are put in order. -/
structure SortRule where
  keys : List SortKey
  tab : Option Char := none
  /-- Whether lines that no key tells apart stay as they are. -/
  stable : Bool := false
  reversed : Bool := false

/-- A line with the parts that its keys are about. -/
abbrev Keyed := Octets × List Octets

namespace SortRule

def keyed (rule : SortRule) (line : Octets) : Keyed :=
  (line, rule.keys.map fun key => key.prepare (key.part rule.tab line))

/-- Compares lines by their keys. -/
def compareKeys (keys : List SortKey) (a b : List Octets) : Ordering :=
  match keys, a, b with
  | key :: keys, x :: a, y :: b =>
    match key.compare x y with
    | .eq => compareKeys keys a b
    | other => other
  | _, _, _ => .eq

def compare (rule : SortRule) (a b : Keyed) : Ordering :=
  match compareKeys rule.keys a.2 b.2 with
  | .eq =>
    if rule.stable then .eq
    else
      let result := compareTexts a.1 b.1
      if rule.reversed then result.swap else result
  | other => other

/-- Lines without those that are equal to the one in front of them. -/
def distinct (rule : SortRule) : List Keyed → List Keyed
  | [] => []
  | first :: rest =>
    let step (found : List Keyed) (line : Keyed) : List Keyed :=
      match found with
      | last :: _ => if rule.compare last line == .eq then found else line :: found
      | [] => [line]
    (rest.foldl step [first]).reverse

end SortRule

/-- The lines of a text, each of which ends with a delimiter. -/
def linesOf (delimiter : Char) (text : Octets) : List Octets :=
  let parts := text.splitWhere (· == delimiter)
  match parts.reverse with
  | [] :: rest => rest.reverse
  | _ => parts

def sort (arguments : List Octets) : Tool Unit := do
  let found ← Options.ofWords
    ["b ignore-leading-blanks", "c check?", "C", "d dictionary-order", "f ignore-case",
      "g general-numeric-sort", "h human-numeric-sort", "i ignore-nonprinting", "k key=", "m merge",
      "M month-sort", "n numeric-sort", "o output=", "r reverse", "R random-sort", "s stable",
      "S buffer-size=", "t field-separator=", "T temporary-directory=", "u unique", "V version-sort",
      "z zero-terminated", "parallel="] arguments 2
  let letters := sortLetters.filter fun c => found.has (String.singleton c)
  let tab ← match found.value? "t" with
    | none => pure none
    | some [c] => pure (some c)
    | some ['\\', '0'] => pure (some '\x00')
    | some [] => Tool.fail 2 "empty tab"
    | some text => Tool.fail 2 s!"multi-character tab {Tool.quoted text}"
  let keys ← (found.values "k").mapM readKey
  let keys := keys.map fun key =>
    let isBare := key.letters.isEmpty
    if isBare then
      let skipsBlanks := letters.contains 'b'
      { key with
        letters
        start := { key.start with skipsBlanks }
        stop := key.stop.map fun stop => { stop with skipsBlanks } }
    else key
  let keys := if keys.isEmpty && letters.any (· != 'r') then
      [{ letters, start := { skipsBlanks := letters.contains 'b' } }]
    else keys
  let unique := found.has "u"
  let rule : SortRule := { keys, tab, stable := unique && !keys.isEmpty || found.has "s", reversed := letters.contains 'r' }
  let delimiter := if found.has "z" then '\x00' else '\n'
  let paths := if found.operands.isEmpty then [['-']] else found.operands
  let checks := found.has "c" || found.has "C"
  match if checks then paths.tail else [] with
  | [] => pure ()
  | extra :: _ => Tool.fail 2 s!"extra operand {Tool.quoted extra} not allowed with -c"
  let mut lines : List (List Octets) := []
  for path in paths do
    match ← Tool.contents path with
    | .ok text => lines := linesOf delimiter text :: lines
    | .error cause =>
      let what := if cause == .isDirectory then "read failed" else "cannot read"
      Tool.fail 2 s!"{what}: {Tool.shown path}: {cause.wording}"
  let given := (lines.reverse.flatten).map rule.keyed
  if checks then
    let pairs := given.zip (given.drop 1)
    let isWrong (pair : Keyed × Keyed) : Bool :=
      match rule.compare pair.1 pair.2 with
      | .gt => true
      | .eq => unique
      | .lt => false
    match pairs.findIdx? isWrong with
    | none => pure ()
    | some i =>
      let quiet := "quiet".toList
      if !found.has "C" && found.value? "c" != some quiet then
        let path := Octets.toText (paths.headD [])
        let line := Octets.toText (((given[i + 1]?).map (·.1)).getD [])
        Tool.complain s!"{path}:{i + 2}: disorder: {line}"
      Tool.exit 1
  else
    let ordered := given.mergeSort fun a b => rule.compare a b != .gt
    let ordered := if unique then rule.distinct ordered else ordered
    let text := ordered.flatMap fun line => line.1 ++ [delimiter]
    match found.value? "o" with
    | some path =>
      match ← Tool.writeFile path text with
      | .ok _ => pure ()
      | .error cause => Tool.fail 2 s!"open failed: {Tool.shown path}: {cause.wording}"
    | none => Tool.put text

/-! ## Neighbours -/

/-- A text behind so many fields. -/
def behindWords (count : Nat) (text : Octets) : Octets :=
  match count with
  | 0 => text
  | count + 1 =>
    behindWords count ((text.dropWhile isSortBlank).dropWhile (!isSortBlank ·))

/-- What `uniq` writes of lines that are alike. -/
structure UniqueStyle where
  counts : Bool := false
  /-- Whether lines that come once are shown, and those that come more than once. -/
  single : Bool := true
  repeated : Bool := true
  all : Bool := false

/-- Shows lines that are alike. -/
def showGroup (style : UniqueStyle) (delimiter : Char) (group : List Octets) : Tool Unit := do
  let count := group.length
  match group.reverse with
  | [] => return ()
  | first :: _ =>
    if style.all then
      if count > 1 then group.reverse.forM fun line => Tool.put (line ++ [delimiter])
    else if if count > 1 then style.repeated else style.single then
      let lead := if style.counts then Octets.padStart 7 (Octets.ofNat count) ++ [' '] else []
      Tool.put (lead ++ first ++ [delimiter])

def uniq (arguments : List Octets) : Tool Unit := do
  let found ← Options.ofWords
    ["c count", "d repeated", "D all-repeated?", "f skip-fields=", "i ignore-case", "s skip-chars=",
      "u unique", "w check-chars=", "z zero-terminated"] arguments
  let number (key what : String) : Tool Nat := do
    match found.value? key with
    | none => return 0
    | some text =>
      match Octets.natural? text with
      | some n => return n
      | none => Tool.fail 1 s!"{text.toText}: invalid number of {what}"
  let fields ← number "f" "fields to skip"
  let skipped ← number "s" "bytes to skip"
  let compared ← number "w" "bytes to compare"
  let key (line : Octets) : Octets :=
    let part := (behindWords fields line).drop skipped
    let part := if found.has "w" then part.take compared else part
    if found.has "i" then part.map Char.toLower else part
  let style : UniqueStyle := {
    counts := found.has "c", single := !found.has "d", repeated := !found.has "u"
    all := found.has "D" }
  let delimiter := if found.has "z" then '\x00' else '\n'
  match found.operands.drop 2 with
  | [] => pure ()
  | extra :: _ => Tool.extraOperand 1 extra
  match found.operands[1]? with
  | some path =>
    if path != ['-'] then
      match ← Tool.act (Action.openFile path .output) with
      | .error cause => Tool.fail 1 s!"{Tool.shown path}: {cause.wording}"
      | .ok opening => Tool.change (·.setDescriptor 1 opening)
  | none => pure ()
  let path := (found.operands.head?).getD ['-']
  match ← Tool.openInput path with
  | .error cause => Tool.blameFile 1 path cause
  | .ok input =>
    let result ← Tool.foldLines input delimiter
      (fun (group : List Octets) line _ => do
        match group with
        | last :: _ =>
          if key last == key line then return (line :: group, true)
          else
            showGroup style delimiter group
            return ([line], true)
        | [] => return ([line], true))
      Tool.maxSteps []
    match result with
    | .ok (group, _) => showGroup style delimiter group
    | .error cause => Tool.blame 1 s!"error reading {Tool.quoted path}: {cause.wording}"

/-! ## Two files -/

/-- The two operands of a program. -/
def twoOperands (found : Options.Found) (status : Nat := 1) : Tool (Octets × Octets) := do
  match found.operands with
  | [] => Tool.lackOperand status
  | [only] => Tool.misuse status s!"missing operand after {Tool.quoted only}"
  | [first, second] => return (first, second)
  | _ :: _ :: extra :: _ => Tool.extraOperand status extra

/-- The lines of a file that must be there. -/
def neededLines (delimiter : Char) (path : Octets) : Tool (List Octets) := do
  match ← Tool.contents path with
  | .ok text => return linesOf delimiter text
  | .error cause => Tool.fail 1 s!"{Tool.shown path}: {cause.wording}"

/-- Lines of two files side by side: those of the first alone, of the second alone, and of both. -/
def merged (fuel : Nat) (a b : List Octets) : List (Nat × Octets) :=
  match fuel, a, b with
  | 0, _, _ | _, [], [] => []
  | fuel + 1, x :: a, [] => (0, x) :: merged fuel a []
  | fuel + 1, [], y :: b => (1, y) :: merged fuel [] b
  | fuel + 1, x :: a, y :: b =>
    match compareTexts x y with
    | .eq => (2, x) :: merged fuel a b
    | .lt => (0, x) :: merged fuel a (y :: b)
    | .gt => (1, y) :: merged fuel (x :: a) b

def isSorted (lines : List Octets) : Bool :=
  (lines.zip (lines.drop 1)).all fun (a, b) => Octets.isOrdered a b

def comm (arguments : List Octets) : Tool Unit := do
  let found ← Options.ofWords
    ["1", "2", "3", "z zero-terminated", "check-order", "nocheck-order", "output-delimiter=",
      "total"] arguments
  let (first, second) ← twoOperands found
  let delimiter := if found.has "z" then '\x00' else '\n'
  let a ← neededLines delimiter first
  let b ← neededLines delimiter second
  let separator := (found.value? "output-delimiter").getD ['\t']
  let shows (column : Nat) : Bool := !found.has (toString (column + 1))
  let rows := merged (a.length + b.length) a b
  for (column, line) in rows do
    if shows column then
      let lead := ((List.range column).filter shows).flatMap fun _ => separator
      Tool.put (lead ++ line ++ [delimiter])
  if found.has "total" then
    let count (column : Nat) : Octets := Octets.ofNat (rows.countP (·.1 == column))
    Tool.put (Octets.join separator [count 0, count 1, count 2, "total".toList] ++ [delimiter])
  let unpaired := rows.any (·.1 != 2)
  if !found.has "nocheck-order" && (unpaired || found.has "check-order") then
    let unsorted := [(1, a), (2, b)].filter fun (_, lines) => !isSorted lines
    for (number, _) in unsorted do
      Tool.complain s!"file {number} is not in sorted order"
    if !unsorted.isEmpty then Tool.blame 1 "input is not in sorted order"

/-- How lines of two files are put together. -/
structure JoinRule where
  fields : Nat × Nat
  tab : Option Char
  fold : Bool
  /-- Whether lines that have no partner are shown, of each file. -/
  unpaired : Bool × Bool
  paired : Bool
  /-- The fields that are shown, each with the file that it is from; the field zero is the one that
  both have. -/
  output : Option (List (Nat × Nat))
  empty : Octets

namespace JoinRule

def fieldsOf (rule : JoinRule) (line : Octets) : List Octets :=
  match rule.tab with
  | some tab => Octets.splitAt tab line
  | none => Octets.words line

def key (rule : JoinRule) (isFirst : Bool) (line : Octets) : Octets :=
  let field := if isFirst then rule.fields.1 else rule.fields.2
  let text := ((rule.fieldsOf line)[field - 1]?).getD []
  if rule.fold then text.map Char.toLower else text

/-- A line from two lines, or from one. -/
def combine (rule : JoinRule) (first second : Option Octets) : Octets :=
  let a := (first.map rule.fieldsOf).getD []
  let b := (second.map rule.fieldsOf).getD []
  let common := match first with
    | some _ => a[rule.fields.1 - 1]?
    | none => b[rule.fields.2 - 1]?
  let fields := match rule.output with
    | some places => places.map fun (file, field) =>
      let text := if file == 0 then common
        else if file == 1 then a[field - 1]? else b[field - 1]?
      match text with
      | some [] | none => rule.empty
      | some text => text
    | none => common.toList ++ a.eraseIdx (rule.fields.1 - 1) ++ b.eraseIdx (rule.fields.2 - 1)
  Octets.join [rule.tab.getD ' '] fields

/-- Goes through the lines of two files that are in order. -/
def run (rule : JoinRule) (fuel : Nat) (a b : List Octets) : List Octets :=
  match fuel, a, b with
  | 0, _, _ | _, [], [] => []
  | fuel + 1, x :: a, [] =>
    (if rule.unpaired.1 then [rule.combine (some x) none] else []) ++ run rule fuel a []
  | fuel + 1, [], y :: b =>
    (if rule.unpaired.2 then [rule.combine none (some y)] else []) ++ run rule fuel [] b
  | fuel + 1, x :: a, y :: b =>
    match compareTexts (rule.key true x) (rule.key false y) with
    | .lt => (if rule.unpaired.1 then [rule.combine (some x) none] else []) ++ run rule fuel a (y :: b)
    | .gt => (if rule.unpaired.2 then [rule.combine none (some y)] else []) ++ run rule fuel (x :: a) b
    | .eq =>
      let key := rule.key true x
      let first := (x :: a).takeWhile fun line => rule.key true line == key
      let second := (y :: b).takeWhile fun line => rule.key false line == key
      let found := if rule.paired then
          first.flatMap fun x => second.map fun y => rule.combine (some x) (some y)
        else []
      found ++ run rule fuel ((x :: a).drop first.length) ((y :: b).drop second.length)

end JoinRule

/-- Puts lines of two files together that have a field in common. -/
def joinFiles (arguments : List Octets) : Tool Unit := do
  let found ← Options.ofWords
    ["1=", "2=", "a=", "e=", "i ignore-case", "j=", "o=", "t=", "v=", "z zero-terminated",
      "check-order", "nocheck-order", "header"] arguments
  let (first, second) ← twoOperands found
  let delimiter := if found.has "z" then '\x00' else '\n'
  let number (key : String) : Option Nat := (found.value? key).bind Octets.natural?
  let both := (number "j").getD 1
  let shown := found.values "a" ++ found.values "v"
  let place (text : Octets) : Nat × Nat :=
    match Octets.cut? '.' text with
    | some (file, field) => (Octets.digitsValue file, Octets.digitsValue field)
    | none => (0, 0)
  let output := (found.value? "o").map fun text =>
    ((text.splitWhere fun c => c == ',' || c == ' ').filter (!·.isEmpty)).map place
  let rule : JoinRule := {
    fields := ((number "1").getD both, (number "2").getD both)
    tab := (found.value? "t").bind List.head?
    fold := found.has "i"
    unpaired := (shown.contains ['1'], shown.contains ['2'])
    paired := !found.has "v"
    output
    empty := (found.value? "e").getD [] }
  let a ← neededLines delimiter first
  let b ← neededLines delimiter second
  let found := rule.run (a.length + b.length + 1) a b
  found.forM fun line => Tool.put (line ++ [delimiter])

/-! ## Dependencies -/

/-- Names in an order in which each comes behind those that it depends on; names that depend on one
another come last, with a flag. -/
def inDependencyOrder (fuel : Nat) (pairs : List (Octets × Octets)) (names : List Octets) :
    List Octets × Bool :=
  match fuel with
  | 0 => (names, true)
  | fuel + 1 =>
    if names.isEmpty then ([], false)
    else
      let isFree (name : Octets) : Bool := !pairs.any fun (a, b) => b == name && a != name
      let free := names.filter isFree
      if free.isEmpty then (names, true)
      else
        let rest := names.filter fun name => !free.contains name
        let left := pairs.filter fun (a, _) => !free.contains a
        let (more, isCyclic) := inDependencyOrder fuel left rest
        (free ++ more, isCyclic)

def tsort (arguments : List Octets) : Tool Unit := do
  let found ← Options.ofWords [] arguments
  let path := found.operands.headD ['-']
  match ← Tool.contents? path with
  | none => return ()
  | some text =>
    let words := Octets.words text
    if words.length % 2 == 1 then
      Tool.fail 1 s!"{Tool.shown path}: input contains an odd number of tokens"
    let rec pairs : List Octets → List (Octets × Octets)
      | a :: b :: rest => (a, b) :: pairs rest
      | _ => []
    let (order, isCyclic) := inDependencyOrder (words.length + 1) (pairs words) words.eraseDups
    if isCyclic then
      Tool.blame 1 s!"{Tool.shown path}: input contains a loop:"
    order.forM Tool.putLine

end TaskRunner.Shell.Utility
