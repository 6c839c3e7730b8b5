import TaskRunner.Shell.OctetSet
/- # TaskRunner.Shell.Expression -- regular expressions

An expression says which parts of a text it matches.  Of several matches the leftmost counts, and of
those the longest, unless the expression asks for the one that is found first.

Programs write expressions in ways that differ in which signs need a backslash to have their meaning,
and in what they make of signs that stand where they can have none (`Expression.Manner`).

The places where a match can end are found for all places at once where it can begin.  What groups
match is found for one match after that, by trying the longest repetitions first. -/

namespace TaskRunner.Shell
set_option autoImplicit false

/-- A place between two octets. -/
inductive Anchor where
  | start | finish | textStart | textEnd
  | wordStart | wordEnd | boundary | inside
  /-- No octet of a word in front of it. -/
  | behindOther
  /-- No octet of a word behind it. -/
  | beforeOther
  deriving DecidableEq, Repr

/-- A regular expression. -/
inductive Expression where
  | empty
  | octet (c : Char)
  | any
  | set (set : OctetSet)
  | anchor (anchor : Anchor)
  | sequence (first second : Expression)
  | either (first second : Expression)
  | repeated (least : Nat) (most : Option Nat) (body : Expression)
  | group (number : Nat) (body : Expression)
  /-- The text that a group matched. -/
  | again (number : Nat)
  /-- As few repetitions as the rest allows. -/
  | sparing (least : Nat) (most : Option Nat) (body : Expression)
  /-- Something in front of a place or behind it that is not part of the match, or its absence. -/
  | beside (before negated : Bool) (body : Expression)
  /-- The place from which on the match counts. -/
  | restart
  /-- Of several matches at one place the first that is found counts, and not the longest. -/
  | foremost (body : Expression)
  deriving Repr, Inhabited

namespace Expression

/-! ## Ways of writing -/

/-- What a sign of repetition means that has nothing in front of it. -/
inductive Stray where
  | itself | nothing | fault
  deriving DecidableEq, Repr

/-- A way of writing expressions. -/
structure Manner where
  /-- Whether brackets and bars have their meaning without a backslash. -/
  groups : Bool
  /-- Whether the plus sign and the question mark have their meaning without a backslash. -/
  counts : Bool
  /-- Whether braces have their meaning without a backslash; nothing if they have none at all. -/
  braces : Option Bool
  stray : Stray
  /-- Whether several signs of repetition may follow each other. -/
  rows : Bool := true
  /-- Whether a closing bracket may stand alone. -/
  loneClosings : Bool := false
  /-- Whether braces with no count in them stand for themselves. -/
  looseBraces : Bool := false
  deriving DecidableEq, Repr

namespace Manner

def basic : Manner := { groups := false, counts := false, braces := some false, stray := .itself }

/-- The basic manner, where one repetition is all that may follow an expression. -/
def strict : Manner := { basic with rows := false }

def extended : Manner := { groups := true, counts := true, braces := some true, stray := .fault }

/-- The extended manner, where signs that can have no meaning stand for themselves. -/
def lenient : Manner :=
  { extended with stray := .nothing, loneClosings := true, looseBraces := true }

/-- Only counts need no backslash. -/
def mixed : Manner := { groups := false, counts := true, braces := none, stray := .itself }

end Manner

/-- Why a text writes no expression. -/
inductive Fault where
  | openSet | openGroup | loneClosing | openBrace | braceContent | nothingRepeated | backslash
  | unknownGroup | rangeEnd | className | tooBig
  deriving DecidableEq, Repr

/-- A fault in words. -/
def Fault.message : Fault → String
  | .openSet => "Unmatched [, [^, [:, [., or [="
  | .openGroup => "Unmatched ( or \\("
  | .loneClosing => "Unmatched ) or \\)"
  | .openBrace => "Unmatched \\\x7b"
  | .braceContent => "Invalid content of \\\x7b\\\x7d"
  | .nothingRepeated => "Invalid preceding regular expression"
  | .backslash => "Trailing backslash"
  | .unknownGroup => "Invalid back reference"
  | .rangeEnd => "Invalid range end"
  | .className => "Invalid character class name"
  | .tooBig => "Regular expression too big"

/-! ## Reading -/

/-- What is left of the text of an expression, how many groups have begun, and which have ended. -/
structure Reading where
  rest : Octets
  groups : Nat := 0
  closed : List Nat := []

/-- The octets of which words consist. -/
def isWordOctet (c : Char) : Bool := c.isAlphanum || c == '_'

def wordSet (negated : Bool) : Expression :=
  .set { negated, items := [.named "alnum", .range '_' '_'] }

def spaceSet (negated : Bool) : Expression := .set { negated, items := [.named "space"] }

/-- The place that an octet behind a backslash stands for. -/
def placeOf? (c : Char) : Option Anchor :=
  match c with
  | 'b' => some .boundary
  | 'B' => some .inside
  | '<' => some .wordStart
  | '>' => some .wordEnd
  | '\x60' => some .textStart
  | '\'' => some .textEnd
  | _ => none

/-- What an octet behind a backslash stands for, if it is no sign and no place. -/
def escaped (c : Char) : Expression :=
  match c with
  | 'w' => wordSet false
  | 'W' => wordSet true
  | 's' => spaceSet false
  | 'S' => spaceSet true
  | c => .octet c

/-- A sign, with a backslash in front of it unless it is `bare`, and what follows it. -/
def sign? (bare : Bool) (sign : Char) (text : Octets) : Option Octets :=
  match text with
  | '\\' :: c :: rest => if !bare && c == sign then some rest else none
  | c :: rest => if bare && c == sign then some rest else none
  | [] => none

/-- The largest number of repetitions. -/
def maxCount : Nat := 32767

/-- Reads how often something is repeated, behind the opening brace. -/
def readCounts (bare : Bool) (text : Octets) : Except Fault (Nat × Option Nat × Octets) :=
  let first := text.takeWhile Char.isDigit
  let rest := text.drop first.length
  let isClosed := (List.range (text.length + 1)).any fun n =>
    (sign? bare '\x7d' (text.drop n)).isSome
  let fault : Fault := if isClosed then .braceContent else .openBrace
  let finish (least : Nat) (most : Option Nat) (after : Option Octets) :
      Except Fault (Nat × Option Nat × Octets) :=
    match after with
    | none => .error fault
    | some after =>
      if most.any (· < least) then .error .braceContent
      else if (most.getD least) > maxCount then .error .tooBig
      else .ok (least, most, after)
  match rest with
  | ',' :: rest =>
    let second := rest.takeWhile Char.isDigit
    finish (Octets.digitsValue first) (Octets.natural? second)
      (sign? bare '\x7d' (rest.drop second.length))
  | rest =>
    match Octets.natural? first with
    | none => .error fault
    | some n => finish n (some n) (sign? bare '\x7d' rest)

/-- A sign of repetition at the beginning of a text, and what follows it; nothing if there is none. -/
def repetition? (manner : Manner) (text : Octets) :
    Except Fault (Option (Nat × Option Nat × Octets)) :=
  match text with
  | '*' :: rest => .ok (some (0, none, rest))
  | _ =>
    match sign? manner.counts '+' text, sign? manner.counts '?' text,
      manner.braces.bind fun bare => (sign? bare '\x7b' text).map (bare, ·) with
    | some rest, _, _ => .ok (some (1, none, rest))
    | _, some rest, _ => .ok (some (0, some 1, rest))
    | _, _, some (bare, rest) =>
      match readCounts bare rest with
      | .ok counts => .ok (some counts)
      | .error fault =>
        let isLoose := manner.looseBraces &&
          (fault == .openBrace || (fault == .braceContent && !isCount rest))
        if isLoose then .ok none else .error fault
    | none, none, none => .ok none
where
  /-- Whether numbers stand between braces, though they may be in the wrong order. -/
  isCount (text : Octets) : Bool :=
    let inside := text.takeWhile (· != '\x7d')
    inside.all (fun c => c.isDigit || c == ',') && inside.countP (· == ',') < 2 && !inside.isEmpty

/-- Reads the signs of repetition behind an expression. -/
def repetitions (manner : Manner) (fuel : Nat) (isFirst : Bool) (body : Expression)
    (text : Octets) : Except Fault (Expression × Octets) :=
  match fuel with
  | 0 => .ok (body, text)
  | fuel + 1 =>
    match repetition? manner text with
    | .error fault => .error fault
    | .ok none => .ok (body, text)
    | .ok (some (least, most, rest)) =>
      if !isFirst && !manner.rows && (text.head? == some '*' || text.take 2 == ['\\', '\x7b']) then
        .error .nothingRepeated
      else repetitions manner fuel false (.repeated least most body) rest

/-- Whether a dollar sign in front of a text ties an expression to the end of a line. -/
def isLast (bare : Bool) (rest : Octets) : Bool :=
  bare || rest.isEmpty || (sign? bare ')' rest).isSome || (sign? bare '|' rest).isSome

/-- What is wrong with a set. -/
def setFault? (members : OctetSet) : Option Fault :=
  members.items.findSome? fun item =>
    match item with
    | .range first last => if last < first then some .rangeEnd else none
    | .named name => if (OctetSet.class? name).isNone then some .className else none

mutual

/-- Reads choices up to the end of a group, or of the text where `depth` is zero. -/
def readChoices (manner : Manner) (fuel depth : Nat) (state : Reading) :
    Except Fault (Expression × Reading) :=
  match fuel with
  | 0 => .error .tooBig
  | fuel + 1 =>
    match readSequence manner fuel depth true .empty state with
    | .error fault => .error fault
    | .ok (first, state) =>
      match sign? manner.groups '|' state.rest with
      | none => .ok (first, state)
      | some rest =>
        match readChoices manner fuel depth { state with rest } with
        | .error fault => .error fault
        | .ok (second, state) => .ok (.either first second, state)

/-- Reads what stands side by side. -/
def readSequence (manner : Manner) (fuel depth : Nat) (isFirst : Bool) (before : Expression)
    (state : Reading) : Except Fault (Expression × Reading) :=
  match fuel with
  | 0 => .error .tooBig
  | fuel + 1 =>
    let text := state.rest
    let add (one : Expression) (state : Reading) : Except Fault (Expression × Reading) :=
      match repetitions manner state.rest.length true one state.rest with
      | .error fault => .error fault
      | .ok (one, rest) =>
        readSequence manner fuel depth false (.sequence before one) { state with rest }
    let tie (place : Anchor) (rest : Octets) : Except Fault (Expression × Reading) :=
      readSequence manner fuel depth true (.sequence before (.anchor place)) { state with rest }
    let plain (text : Octets) : Except Fault (Expression × Reading) :=
      match text with
      | [] => .ok (before, state)
      | ['\\'] => .error .backslash
      | '\\' :: c :: rest =>
        match placeOf? c with
        | some place => tie place rest
        | none =>
          if '1' ≤ c && c ≤ '9' then
            let number := c.toNat - '0'.toNat
            if state.closed.contains number then add (.again number) { state with rest }
            else .error .unknownGroup
          else add (escaped c) { state with rest }
      | '[' :: rest =>
        match OctetSet.read? ['^'] (rest.map (·, false)) with
        | none => .error .openSet
        | some (members, after) =>
          match setFault? members with
          | some fault => .error fault
          | none => add (.set members) { state with rest := after.map (·.1) }
      | '.' :: rest => add .any { state with rest }
      | '^' :: rest =>
        if manner.groups || isFirst then tie .start rest else add (.octet '^') { state with rest }
      | '$' :: rest =>
        if isLast manner.groups rest then tie .finish rest
        else add (.octet '$') { state with rest }
      | c :: rest => add (.octet c) { state with rest }
    let isOver := text.isEmpty || (sign? manner.groups '|' text).isSome
    if isOver then .ok (before, state)
    else
      match sign? manner.groups ')' text, sign? manner.groups '(' text with
      | some rest, _ =>
        if depth != 0 then .ok (before, state)
        else if manner.loneClosings then add (.octet ')') { state with rest }
        else .error .loneClosing
      | none, some rest =>
        let number := state.groups + 1
        match readChoices manner fuel (depth + 1) { state with rest, groups := number } with
        | .error fault => .error fault
        | .ok (inside, state) =>
          match sign? manner.groups ')' state.rest with
          | none => .error .openGroup
          | some rest =>
            add (.group number inside) { state with rest, closed := number :: state.closed }
      | none, none =>
        if !isFirst then plain text
        else
          match repetition? manner text with
          | .error fault => .error (if manner.stray == .fault then .nothingRepeated else fault)
          | .ok none => plain text
          | .ok (some (_, _, rest)) =>
            match manner.stray with
            | .fault => .error .nothingRepeated
            | .nothing => readSequence manner fuel depth true before { state with rest }
            | .itself =>
              if !manner.rows && text.take 2 == ['\\', '\x7b'] then .error .nothingRepeated
              else
                let signs := text.dropWhile (· == '\\')
                add (.octet (signs.headD '*')) { state with rest := signs.drop 1 }

end

/-- The expression that a text writes in some manner. -/
def ofText (manner : Manner) (text : Octets) : Except Fault Expression :=
  (readChoices manner (8 * text.length + 16) 0 { rest := text }).map (·.1)

/-- The expression that matches a text and nothing else. -/
def literal (text : Octets) : Expression := text.foldl (fun e c => .sequence e (.octet c)) .empty

/-- Whether the places where matches end do not tell which match counts. -/
def isTried : Expression → Bool
  | .again _ | .sparing _ _ _ | .beside _ _ _ | .restart | .foremost _ => true
  | .sequence a b | .either a b => a.isTried || b.isTried
  | .repeated _ _ body | .group _ body => body.isTried
  | _ => false

/-- Whether the first match that is found counts. -/
def takesFirst : Expression → Bool
  | .foremost _ => true
  | _ => false

/-! ## Where matches end -/

/-- A text, and how it is looked at. -/
structure Subject where
  text : Array Char
  /-- Whether case does not matter. -/
  fold : Bool := false
  /-- Whether each line feed ends a line. -/
  multiline : Bool := false

namespace Subject

def size (subject : Subject) : Nat := subject.text.size

/-- Whether an anchor holds at a place. -/
def isAt (subject : Subject) (place : Nat) (anchor : Anchor) : Bool :=
  let isWord (i : Nat) : Bool := (subject.text[i]?).any isWordOctet
  let before := place != 0 && isWord (place - 1)
  let behind := isWord place
  match anchor with
  | .textStart => place == 0
  | .textEnd => place == subject.size
  | .start => place == 0 || (subject.multiline && subject.text[place - 1]? == some '\n')
  | .finish => place == subject.size || (subject.multiline && subject.text[place]? == some '\n')
  | .wordStart => !before && behind
  | .wordEnd => before && !behind
  | .boundary => before != behind
  | .inside => before == behind
  | .behindOther => !before
  | .beforeOther => !behind

/-- Whether an expression for one octet matches the one at a place; nothing for another one. -/
def single? (subject : Subject) (e : Expression) : Option (Nat → Bool) :=
  let fits (holds : Char → Bool) : Option (Nat → Bool) :=
    some fun place => (subject.text[place]?).any holds
  match e with
  | .octet c =>
    if subject.fold then fits fun d => c.toLower == d.toLower else fits (· == c)
  | .any => fits fun _ => true
  | .set members =>
    fits fun d => if subject.fold then members.holdsEither d else members.holds d
  | _ => none

/-- Puts increasing places together. -/
def merge (fuel : Nat) (a b : List Nat) : List Nat :=
  match fuel, a, b with
  | _, [], b => b
  | _, a, [] => a
  | 0, a, _ => a
  | fuel + 1, m :: a, n :: b =>
    if m < n then m :: merge fuel a (n :: b)
    else if n < m then n :: merge fuel (m :: a) b
    else m :: merge fuel a b

def union (a b : List Nat) : List Nat := merge (a.length + b.length) a b

/-- The places from which on octets of a class stand up to a place, and that place too. -/
def spread (subject : Subject) (fits : Nat → Bool) (fuel place : Nat) (active : Bool)
    (found : List Nat) (places : List Nat) : List Nat :=
  match fuel with
  | 0 => found.reverse
  | fuel + 1 =>
    let (isHere, rest) := match places with
      | p :: rest => if p == place then (true, rest) else (false, places)
      | [] => (false, [])
    let active := active || isHere
    if !active && rest.isEmpty then found.reverse
    else
      spread subject fits fuel (place + 1) (active && fits place)
        (if active then place :: found else found) rest

/-- Repeats a step as long as it leads to new places. -/
def closure (step : List Nat → List Nat) (fuel : Nat) (found new : List Nat) : List Nat :=
  match fuel with
  | 0 => found
  | fuel + 1 =>
    if new.isEmpty then found
    else
      let next := (step new).filter fun place => !found.contains place
      closure step fuel (union found next) next

/-- Repeats a step a number of times at most. -/
def atMost (step : List Nat → List Nat) (times : Nat) (found new : List Nat) : List Nat :=
  match times with
  | 0 => found
  | times + 1 =>
    if new.isEmpty then found
    else
      let next := step new
      atMost step times (union found next) next

/-- The places where matches end that begin at given places; all of them in increasing order. -/
def ends (subject : Subject) (e : Expression) (places : List Nat) : List Nat :=
  match e with
  | .empty => places
  | .octet _ | .any | .set _ =>
    match subject.single? e with
    | some fits => (places.filter fits).map (· + 1)
    | none => []
  | .anchor tie => places.filter (subject.isAt · tie)
  | .sequence a b =>
    let between := subject.ends a places
    if between.isEmpty then [] else subject.ends b between
  | .either a b => union (subject.ends a places) (subject.ends b places)
  | .repeated least most body =>
    let step := subject.ends body
    let first := Nat.repeat step least places
    match most with
    | some most => atMost step (most - least) first first
    | none =>
      match subject.single? body, first with
      | some fits, place :: _ =>
        subject.spread fits (subject.size + 2 - place) place false [] first
      | _, _ => closure step (subject.size + 2) first first
  | .group _ body => subject.ends body places
  | .again _ | .sparing _ _ _ | .beside _ _ _ | .restart | .foremost _ => []

end Subject

/-! ## What groups match -/

/-- Where groups match, the latest first. -/
abbrev Groups := List (Nat × Nat × Nat)

/-- A match: where it begins and ends, and what its groups match. -/
structure Found where
  start : Nat
  stop : Nat
  groups : Groups := []
  deriving Inhabited

/-- The match from one place to another; the group zero says where it really begins. -/
def Found.ofGroups (start stop : Nat) (groups : Groups) : Found :=
  match groups.lookup 0 with
  | some (start, _) => { start, stop, groups }
  | none => { start, stop, groups }

/-- Tries to match from a place on so that what follows succeeds. -/
def attempt (subject : Subject) (fuel : Nat) (e : Expression) (place : Nat) (groups : Groups)
    (next : Nat → Groups → Option Found) : Option Found :=
  match fuel with
  | 0 => none
  | fuel + 1 =>
    match e with
    | .empty => next place groups
    | .octet _ | .any | .set _ =>
      match subject.single? e with
      | some fits => if fits place then next (place + 1) groups else none
      | none => none
    | .anchor tie => if subject.isAt place tie then next place groups else none
    | .sequence a b =>
      attempt subject fuel a place groups fun place groups =>
        attempt subject fuel b place groups next
    | .either a b =>
      (attempt subject fuel a place groups next).orElse fun _ =>
        attempt subject fuel b place groups next
    | .group number body =>
      attempt subject fuel body place groups fun stop groups =>
        next stop ((number, place, stop) :: groups)
    | .again number =>
      match groups.lookup number with
      | none => none
      | some (start, stop) =>
        let part := subject.text.extract start stop
        let here := subject.text.extract place (place + part.size)
        let same := if subject.fold then part.map Char.toLower == here.map Char.toLower
          else part == here
        if same then next (place + part.size) groups else none
    | .repeated (least + 1) most body =>
      attempt subject fuel body place groups fun place groups =>
        attempt subject fuel (.repeated least (most.map (· - 1)) body) place groups next
    | .repeated 0 most body =>
      if most == some 0 then next place groups
      else
        (attempt subject fuel body place groups fun stop groups =>
          if stop == place then none
          else attempt subject fuel (.repeated 0 (most.map (· - 1)) body) stop groups next).orElse
          fun _ => next place groups
    | .sparing (least + 1) most body =>
      attempt subject fuel body place groups fun place groups =>
        attempt subject fuel (.sparing least (most.map (· - 1)) body) place groups next
    | .sparing 0 most body =>
      (next place groups).orElse fun _ =>
        if most == some 0 then none
        else
          attempt subject fuel body place groups fun stop groups =>
            if stop == place then none
            else attempt subject fuel (.sparing 0 (most.map (· - 1)) body) stop groups next
    | .beside before negated body =>
      let found? : Option Found :=
        if before then
          (List.range (place + 1)).reverse.findSome? fun start =>
            attempt subject fuel body start groups fun stop groups =>
              if stop == place then some { start, stop, groups } else none
        else attempt subject fuel body place groups fun stop groups => some ⟨place, stop, groups⟩
      match found? with
      | some found => if negated then none else next place found.groups
      | none => if negated then next place groups else none
    | .restart => next place ((0, place, place) :: groups)
    | .foremost body => attempt subject fuel body place groups next

/-- How many steps a match is tried for, at most. -/
def maxSteps : Nat := 1000000

/-- The match between two places, if there is one. -/
def matchBetween? (subject : Subject) (e : Expression) (place stop : Nat) : Option Found :=
  attempt subject maxSteps e place [] fun reached groups =>
    if reached == stop then some (.ofGroups place stop groups) else none

/-- The match that begins at a place, if there is one. -/
def matchAt? (subject : Subject) (e : Expression) (place : Nat) : Option Found :=
  if e.takesFirst then
    attempt subject maxSteps e place [] fun stop groups => some (.ofGroups place stop groups)
  else if e.isTried then
    (List.range (subject.size + 1 - place)).reverse.findSome? fun size =>
      matchBetween? subject e place (place + size)
  else
    match (subject.ends e [place]).getLast? with
    | none => none
    | some stop => (matchBetween? subject e place stop).orElse fun _ => some ⟨place, stop, []⟩

/-- The first match that begins at a place or behind it. -/
def searchFrom (subject : Subject) (e : Expression) (fuel place : Nat) : Option Found :=
  match fuel with
  | 0 => none
  | fuel + 1 =>
    match matchAt? subject e place with
    | some found => some found
    | none => searchFrom subject e fuel (place + 1)

/-- Whether an expression matches anything in a text. -/
def matchesIn (e : Expression) (subject : Subject) : Bool :=
  if e.isTried then (searchFrom subject e (subject.size + 1) 0).isSome
  else !(subject.ends e (List.range (subject.size + 1))).isEmpty

/-- The first match from a place on. -/
def search? (e : Expression) (subject : Subject) (place : Nat) : Option Found :=
  if e.isTried then searchFrom subject e (subject.size + 1 - place) place
  else
    let places := (List.range (subject.size + 1)).drop place
    if (subject.ends e places).isEmpty then none
    else searchFrom subject e (subject.size + 1 - place) place

/-- The matches in a text, one behind the other.  An empty match does not count directly behind
another one. -/
def allFrom (e : Expression) (subject : Subject) (fuel : Nat) (last : Option Nat) (place : Nat) :
    List Found :=
  match fuel with
  | 0 => []
  | fuel + 1 =>
    if place > subject.size then []
    else
      match e.search? subject place with
      | none => []
      | some found =>
        if found.stop == found.start then
          let rest := allFrom e subject fuel none (found.stop + 1)
          if last == some found.start then rest else found :: rest
        else found :: allFrom e subject fuel (some found.stop) found.stop

/-- The matches in a text, from left to right. -/
def all (e : Expression) (subject : Subject) : List Found :=
  allFrom e subject (subject.size + 2) none 0

/-- The octets between two places. -/
def Subject.part (subject : Subject) (start stop : Nat) : Octets :=
  (subject.text.extract start stop).toList

/-- What a group of a match holds; the group zero is the whole match. -/
def Found.group (found : Found) (subject : Subject) (number : Nat) : Octets :=
  if number == 0 then subject.part found.start found.stop
  else
    match found.groups.lookup number with
    | some (start, stop) => subject.part start stop
    | none => []

end Expression
end TaskRunner.Shell
