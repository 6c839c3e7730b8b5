import TaskRunner.Shell.Expression
/- # TaskRunner.Shell.Expression.Ordered -- expressions whose first match counts

In this way of writing expressions repetitions say whether they take as much as they can or as
little, choices are tried from the left to the right, and what surrounds a match can be tested without
being part of it.  Everything but letters and digits may have a meaning, and loses it behind a
backslash. -/

namespace TaskRunner.Shell.Expression.Ordered
set_option autoImplicit false

/-- Why a text writes no expression. -/
inductive Fault where
  | openGroup | loneClosing | nothingRepeated | openSet | backslash | countOrder | groupSign
  | unknownGroup | rangeOrder | groupName | className | unknownEscape
  deriving DecidableEq, Repr

/-- A fault in words. -/
def Fault.message : Fault → String
  | .openGroup => "missing closing parenthesis"
  | .loneClosing => "unmatched closing parenthesis"
  | .nothingRepeated => "quantifier does not follow a repeatable item"
  | .openSet => "missing terminating ] for character class"
  | .backslash => "\\ at end of pattern"
  | .countOrder => "numbers out of order in \x7b\x7d quantifier"
  | .groupSign => "unrecognized character after (? or (?-"
  | .unknownGroup => "reference to non-existent subpattern"
  | .rangeOrder => "range out of order in character class"
  | .groupName => "syntax error in subpattern name (missing terminator?)"
  | .className => "unknown POSIX class name"
  | .unknownEscape => "unrecognized character follows \\"

/-- What has been read of an expression. -/
structure Reading where
  rest : Octets
  groups : Nat := 0
  /-- Whether case does not matter. -/
  fold : Bool := false
  /-- The groups that are referred to. -/
  named : List Nat := []

/-- Every octet that a test holds for. -/
def rangesOf (holds : Char → Bool) : List OctetRange :=
  (((List.range 256).map Char.ofNat).filter holds).map fun c => .range c c

/-- A class of octets that a letter names. -/
def class? (c : Char) : Option (Char → Bool) :=
  match c with
  | 'd' => some Char.isDigit
  | 'D' => some fun c => !c.isDigit
  | 'w' => some isWordOctet
  | 'W' => some fun c => !isWordOctet c
  | 's' => some Octets.isSpace
  | 'S' => some fun c => !Octets.isSpace c
  | 'h' => some fun c => c == ' ' || c == '\t'
  | 'H' => some fun c => c != ' ' && c != '\t'
  | 'N' => some (· != '\n')
  | _ => none

/-- The octet that a letter behind a backslash stands for, and what follows. -/
def octet? (c : Char) (rest : Octets) : Option (Char × Octets) :=
  match c with
  | 't' => some ('\t', rest)
  | 'n' => some ('\n', rest)
  | 'r' => some ('\r', rest)
  | 'f' => some ('\x0c', rest)
  | 'a' => some ('\x07', rest)
  | 'e' => some ('\x1b', rest)
  | 'x' =>
    match rest with
    | '\x7b' :: rest =>
      let digits := rest.takeWhile (· != '\x7d')
      some (Char.ofNat (Octets.hexValue digits % 256), rest.drop (digits.length + 1))
    | rest =>
      let digits := (rest.take 2).takeWhile fun d => (Octets.hexDigit? d).isSome
      some (Char.ofNat (Octets.hexValue digits), rest.drop digits.length)
  | '0' =>
    let digits := (rest.take 2).takeWhile Octets.isOctal
    some (Char.ofNat (Octets.octalValue digits), rest.drop digits.length)
  | c => if c.isAlphanum then none else some (c, rest)

/-- Reads the items of a set up to its closing bracket. -/
def readItems (fuel : Nat) (isFirst : Bool) (found : List OctetRange) (text : Octets) :
    Except Fault (List OctetRange × Octets) :=
  match fuel, text with
  | 0, _ | _, [] => .error .openSet
  | fuel + 1, c :: rest =>
    if c == ']' && !isFirst then .ok (found.reverse, rest)
    else
      let name := (rest.drop 1).takeWhile Char.isAlpha
      if c == '[' && rest.head? == some ':' &&
          (rest.drop (name.length + 1)).take 2 == [':', ']'] then
        if (OctetSet.class? (String.ofList name)).isNone then .error .className
        else
          readItems fuel false (.named (String.ofList name) :: found) (rest.drop (name.length + 3))
      else
        match c, rest with
        | '\\', [] => .error .backslash
        | '\\', d :: more =>
          match class? d with
          | some holds => readItems fuel false ((rangesOf holds).reverse ++ found) more
          | none =>
            match (if d == 'b' then some ('\x08', more) else octet? d more) with
            | some (first, more) => readRange fuel first found more
            | none => .error .unknownEscape
        | _, _ => readRange fuel c found rest
where
  /-- Goes on behind an octet that may begin a range. -/
  readRange (fuel : Nat) (first : Char) (found : List OctetRange) (text : Octets) :
      Except Fault (List OctetRange × Octets) :=
    match text with
    | '-' :: c :: rest =>
      if c == ']' then readItems fuel false (.range first first :: found) text
      else
        let last? := if c == '\\' then
            match rest with
            | d :: more => octet? d more
            | [] => none
          else some (c, rest)
        match last? with
        | none => readItems fuel false (.range first first :: found) text
        | some (last, rest) =>
          if last < first then .error .rangeOrder
          else readItems fuel false (.range first last :: found) rest
    | _ => readItems fuel false (.range first first :: found) text

/-- How often something is repeated, in braces. -/
def counts? (text : Octets) : Option (Nat × Option Nat × Octets) :=
  let first := text.takeWhile Char.isDigit
  match text.drop first.length with
  | '\x7d' :: rest => (Octets.natural? first).map fun n => (n, some n, rest)
  | ',' :: rest =>
    let second := rest.takeWhile Char.isDigit
    match Octets.natural? first, rest.drop second.length with
    | some n, '\x7d' :: rest => some (n, Octets.natural? second, rest)
    | _, _ => none
  | _ => none

/-- A sign of repetition at the beginning of a text. -/
def repetition? (text : Octets) : Option (Nat × Option Nat × Octets) :=
  match text with
  | '*' :: rest => some (0, none, rest)
  | '+' :: rest => some (1, none, rest)
  | '?' :: rest => some (0, some 1, rest)
  | '\x7b' :: rest => counts? rest
  | _ => none

/-- What a group is for. -/
inductive Purpose where
  | numbered | unnumbered
  | beside (before negated : Bool)

/-- Reads what stands behind the opening bracket of a group. -/
def purpose (text : Octets) : Except Fault (Purpose × Octets) :=
  match text with
  | '?' :: ':' :: rest | '?' :: '>' :: rest => .ok (.unnumbered, rest)
  | '?' :: '=' :: rest => .ok (.beside false false, rest)
  | '?' :: '!' :: rest => .ok (.beside false true, rest)
  | '?' :: '<' :: '=' :: rest => .ok (.beside true false, rest)
  | '?' :: '<' :: '!' :: rest => .ok (.beside true true, rest)
  | '?' :: 'P' :: '<' :: rest | '?' :: '<' :: rest =>
    let name := rest.takeWhile isWordOctet
    if (rest.drop name.length).head? == some '>' then .ok (.numbered, rest.drop (name.length + 1))
    else .error .groupName
  | '?' :: _ => .error .groupSign
  | rest => .ok (.numbered, rest)

mutual

/-- Reads choices up to the end of a group, or of the text where `depth` is zero. -/
def readChoices (fuel depth : Nat) (state : Reading) : Except Fault (Expression × Reading) :=
  match fuel with
  | 0 => .error .openGroup
  | fuel + 1 =>
    match readSequence fuel depth .empty state with
    | .error fault => .error fault
    | .ok (before, state) =>
      match state.rest with
      | '|' :: rest =>
        match readChoices fuel depth { state with rest } with
        | .error fault => .error fault
        | .ok (second, state) => .ok (.either before second, state)
      | _ => .ok (before, state)

/-- Reads what stands side by side. -/
def readSequence (fuel depth : Nat) (before : Expression) (state : Reading) :
    Except Fault (Expression × Reading) :=
  match fuel with
  | 0 => .error .openGroup
  | fuel + 1 =>
    let add (one : Expression) (state : Reading) : Except Fault (Expression × Reading) :=
      match repetition? state.rest with
      | none => readSequence fuel depth (.sequence before one) state
      | some (least, most, rest) =>
        if most.any (· < least) then .error .countOrder
        else
          match rest with
          | '?' :: rest =>
            readSequence fuel depth (.sequence before (.sparing least most one)) { state with rest }
          | '+' :: rest =>
            readSequence fuel depth (.sequence before (.repeated least most one)) { state with rest }
          | _ =>
            readSequence fuel depth (.sequence before (.repeated least most one)) { state with rest }
    let place (anchor : Anchor) (rest : Octets) : Except Fault (Expression × Reading) :=
      readSequence fuel depth (.sequence before (.anchor anchor)) { state with rest }
    match state.rest with
    | [] | '|' :: _ => .ok (before, state)
    | ')' :: _ => if depth == 0 then .error .loneClosing else .ok (before, state)
    | '(' :: '?' :: 'i' :: ')' :: rest =>
      readSequence fuel depth before { state with rest, fold := true }
    | '(' :: rest =>
      match purpose rest with
      | .error fault => .error fault
      | .ok (purpose, rest) =>
        let isNumbered := match purpose with
          | .numbered => true
          | _ => false
        let number := if isNumbered then state.groups + 1 else state.groups
        match readChoices fuel (depth + 1) { state with rest, groups := number } with
        | .error fault => .error fault
        | .ok (inside, state) =>
          match state.rest with
          | ')' :: rest =>
            let one : Expression := match purpose with
              | .numbered => .group number inside
              | .unnumbered => inside
              | .beside before negated => .beside before negated inside
            add one { state with rest }
          | _ => .error .openGroup
    | '[' :: rest =>
      let (negated, rest) := match rest with
        | '^' :: rest => (true, rest)
        | rest => (false, rest)
      match readItems (rest.length + 1) true [] rest with
      | .error fault => .error fault
      | .ok (items, rest) => add (.set { negated, items }) { state with rest }
    | '.' :: rest => add (.set { negated := true, items := [.range '\n' '\n'] }) { state with rest }
    | '^' :: rest => place .start rest
    | '$' :: rest => place .finish rest
    | ['\\'] => .error .backslash
    | '\\' :: c :: rest =>
      match c with
      | 'b' => place .boundary rest
      | 'B' => place .inside rest
      | 'A' => place .textStart rest
      | 'z' => place .textEnd rest
      | 'Z' => place .textEnd rest
      | 'K' => readSequence fuel depth (.sequence before .restart) { state with rest }
      | 'E' => readSequence fuel depth before { state with rest }
      | 'Q' =>
        let size := (List.range (rest.length + 1)).find? fun n => (rest.drop n).take 2 == ['\\', 'E']
        let part := rest.take (size.getD rest.length)
        readSequence fuel depth (.sequence before (literal part))
          { state with rest := rest.drop (part.length + 2) }
      | 'R' => add (.octet '\n') { state with rest }
      | c =>
        if '1' ≤ c && c ≤ '9' then
          let number := c.toNat - '0'.toNat
          add (.again number) { state with rest, named := number :: state.named }
        else
          match class? c with
          | some holds => add (.set { items := rangesOf holds }) { state with rest }
          | none =>
            match octet? c rest with
            | some (d, rest) => add (.octet d) { state with rest }
            | none => .error .unknownEscape
    | c :: rest =>
      if (repetition? state.rest).isSome then .error .nothingRepeated
      else add (.octet c) { state with rest }

end

/-- The expression that a text writes, and whether case does not matter in it. -/
def ofText (text : Octets) : Except Fault (Expression × Bool) :=
  match readChoices (8 * text.length + 16) 0 { rest := text } with
  | .error fault => .error fault
  | .ok (e, state) =>
    if state.named.any (· > state.groups) then .error .unknownGroup
    else .ok (.foremost e, state.fold)

end TaskRunner.Shell.Expression.Ordered
