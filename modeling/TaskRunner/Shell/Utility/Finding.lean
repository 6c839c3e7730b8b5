import TaskRunner.Shell.Expression
import TaskRunner.Shell.Pattern
import TaskRunner.Shell.Utility.Listing
import TaskRunner.Shell.Utility.Running
/- # TaskRunner.Shell.Utility.Finding -- files that meet conditions, and programs for many arguments

A search goes through directories and asks of everything in them whether it meets an expression, whose
parts may also do something.  The other program here takes words from its input and starts programs
with them. -/

namespace TaskRunner.Shell.Utility
set_option autoImplicit false

/-! ## Expressions -/

/-- How a number is compared: it is to be more, less, or the same. -/
structure Amount where
  order : Ordering
  count : Nat

def Amount.holds (amount : Amount) (n : Int) : Bool := compare n (amount.count : Int) == amount.order

def Amount.ofText? (text : Octets) : Option Amount :=
  match text with
  | '+' :: rest => (Octets.natural? rest).map fun count => { order := .gt, count }
  | '-' :: rest => (Octets.natural? rest).map fun count => { order := .lt, count }
  | rest => (Octets.natural? rest).map fun count => { order := .eq, count }

/-- What is asked of a file, or done with it. -/
inductive Search where
  | name (pattern : List Atom) (fold : Bool)
  | path (pattern : List Atom) (fold : Bool)
  | linkName (pattern : List Atom)
  | matching (expression : Expression) (fold : Bool)
  | kind (letters : List Char)
  | size (amount : Amount) (unit : Nat)
  | empty
  | newer (time : FileTime)
  | age (amount : Amount) (unit : Int)
  | permissions (sign : Char) (mode : Nat)
  | links (amount : Amount)
  | same (place : Location)
  /-- Whether one of some permissions is given. -/
  | allows (bits : Nat)
  | constant (holds : Bool)
  | print (ending : Char)
  | format (text : Octets)
  | list
  | remove
  | run (words : List Octets) (asks inPlace : Bool)
  /-- A program that is started once for many files, known by a number. -/
  | collect (number : Nat)
  | prune
  | quit
  | negated (search : Search)
  | both (first second : Search)
  | either (first second : Search)
  | each (first second : Search)
  deriving Inhabited

/-- Something that is found. -/
structure Candidate where
  path : Octets
  start : Octets
  depth : Nat
  place : Location
  node : Node

/-- What a search keeps in mind. -/
structure SearchState where
  pruned : Bool := false
  isOver : Bool := false
  /-- The files that were collected for each program, the latest first. -/
  collected : List (Nat × Octets) := []

abbrev Searching := StateT SearchState Tool

namespace Search

/-- The letter of what a node is. -/
def kindLetter (node : Node) : Char :=
  match node.content with
  | .file _ => 'f'
  | .directory => 'd'
  | .link _ => 'l'
  | .device _ => 'c'

def sizeOf (node : Node) : Nat := { name := [], node, place := [] : Listed }.size

/-- A time in a format of a search. -/
def timeValue (time : FileTime) (c : Char) : Octets :=
  match c with
  | '@' => Moment.inFormat time "%s.%N0".toList
  | '+' => Moment.inFormat time "%Y-%m-%d+%H:%M:%S.%N0".toList
  | c => Moment.inFormat time ['%', c]

/-- A format filled in. -/
def fillIn (candidate : Candidate) (links : Nat) (fuel : Nat) (format : Octets) : Octets :=
  let node := candidate.node
  match fuel, format with
  | 0, _ | _, [] => []
  | fuel + 1, '\\' :: c :: rest =>
    match c with
    | 'n' => '\n' :: fillIn candidate links fuel rest
    | 't' => '\t' :: fillIn candidate links fuel rest
    | 'r' => '\r' :: fillIn candidate links fuel rest
    | 'a' => '\x07' :: fillIn candidate links fuel rest
    | '0' => '\x00' :: fillIn candidate links fuel rest
    | '\\' => '\\' :: fillIn candidate links fuel rest
    | 'c' => []
    | c => '\\' :: c :: fillIn candidate links fuel rest
  | fuel + 1, '%' :: rest =>
    let flags := rest.takeWhile fun c => c == '-' || c == '0' || c == '#'
    let after := rest.drop flags.length
    let digits := after.takeWhile Char.isDigit
    let pad (text : Octets) : Octets :=
      let width := Octets.digitsValue digits
      if flags.contains '-' then Octets.padEnd width text
      else Octets.padStart width text (if flags.contains '0' then '0' else ' ')
    match after.drop digits.length with
    | [] => '%' :: rest
    | 'T' :: c :: more | 'A' :: c :: more | 'C' :: c :: more =>
      pad (timeValue node.modified c) ++ fillIn candidate links fuel more
    | c :: more =>
      let under := candidate.path.drop candidate.start.length
      let value : Octets := match c with
        | '%' => ['%']
        | 'p' => candidate.path
        | 'P' => under.dropWhile (· == '/')
        | 'f' => baseName candidate.path
        | 'h' => if candidate.path.contains '/' then
            let name := lastName candidate.path
            withoutSlashes (candidate.path.take (candidate.path.length - name.length))
          else ['.']
        | 'H' => candidate.start
        | 's' => Octets.ofNat (sizeOf node)
        | 'd' => Octets.ofNat candidate.depth
        | 'y' | 'Y' => [kindLetter node]
        | 'm' => Permission.inOctal 1 node.mode
        | 'M' => (if node.isFile then '-' else kindLetter node) :: Permission.inLetters node.mode
        | 'l' => ((node.target?).map Octets.ofText).getD []
        | 'u' | 'g' => "root".toList
        | 'U' | 'G' => ['0']
        | 'n' => Octets.ofNat links
        | 'b' => Octets.ofNat ({ name := [], node, place := [] : Listed }.blocks * 2)
        | 'k' => Octets.ofNat { name := [], node, place := [] : Listed }.blocks
        | 't' => Moment.inFormat node.modified "%a %b %e %H:%M:%S.%N0 %Y".toList
        | c => ['%', c]
      pad value ++ fillIn candidate links fuel more
  | fuel + 1, c :: rest => c :: fillIn candidate links fuel rest

/-- The words of a program with a path in place of each pair of braces. -/
def wordsFor (path : Octets) (words : List Octets) : List Octets :=
  words.map fun word => replaceAll word (word.length + 1)
where
  replaceAll (word : Octets) (fuel : Nat) : Octets :=
    match fuel, word with
    | 0, _ | _, [] => word
    | fuel + 1, '{' :: '\x7d' :: rest => path ++ replaceAll rest fuel
    | fuel + 1, c :: rest => c :: replaceAll rest fuel

/-- Starts a program and waits for it. -/
def start (words : List Octets) (place : Option Location) : Tool Nat := do
  let before ← Tool.look (·.place)
  match place with
  | some place => Tool.change (·.modifySelf fun record => { record with place })
  | none => pure ()
  let child ← startProgram [] (← environment) words fun cause =>
    s!"find: {Tool.quoted (words.headD [])}: {cause.wording}"
  Tool.change (·.modifySelf fun record => { record with place := before })
  return (← Tool.act (Action.wait child)).toStatus

/-- Whether a candidate meets a search, after all that the search does with it. -/
def meets (candidate : Candidate) (fuel : Nat) (search : Search) : Searching Bool :=
  match fuel with
  | 0 => return false
  | fuel + 1 => do
    let node := candidate.node
    match search with
    | .name pattern fold => return Pattern.covers pattern (baseName candidate.path) fold
    | .path pattern fold => return Pattern.covers pattern candidate.path fold
    | .linkName pattern =>
      return (node.target?).any fun text => Pattern.covers pattern (Octets.ofText text)
    | .matching e fold =>
      let subject : Expression.Subject := { text := candidate.path.toArray, fold }
      return (Expression.matchAt? subject e 0).any (·.stop == subject.size)
    | .kind letters => return letters.contains (kindLetter node)
    | .size amount unit =>
      return amount.holds (((sizeOf node + unit - 1) / unit : Nat) : Int)
    | .empty =>
      match node.content with
      | .file bytes => return bytes.isEmpty
      | .directory => return (← Tool.look fun machine => machine.files.names candidate.place).isEmpty
      | _ => return false
    | .newer time => return time < node.modified
    | .age amount unit =>
      let now ← Tool.look (·.files.clock)
      return amount.holds ((now - node.modified) / (unit * Moment.nanosPerSecond))
    | .permissions sign mode =>
      let own := node.mode &&& 0o7777
      return if sign == '-' then own &&& mode == mode
        else if sign == '/' then mode == 0 || own &&& mode != 0 else own == mode
    | .links amount =>
      let count ← Tool.look fun machine =>
        ((machine.files.number? candidate.place).map machine.files.linkCount).getD 1
      return amount.holds count
    | .same place =>
      Tool.look fun machine =>
        machine.files.number? candidate.place == machine.files.number? place
    | .allows bits => return bits == 0 || node.mode &&& bits != 0
    | .constant holds => return holds
    | .print ending =>
      Tool.put (candidate.path ++ [ending])
      return true
    | .format text =>
      let count ← Tool.look fun machine =>
        ((machine.files.number? candidate.place).map machine.files.linkCount).getD 1
      Tool.put (fillIn candidate count (text.length + 1) text)
      return true
    | .list =>
      putListed { given := [("l", [])] }
        [{ name := candidate.path, node, place := candidate.place }]
      return true
    | .remove =>
      if candidate.path == ['.'] then return true
      let result ← (if node.isDirectory then (removeDirectory candidate.path : Tool _)
        else do
          changeFiles (·.removeTree candidate.place)
          return none)
      match result with
      | none => return true
      | some cause =>
        Tool.blame 1 s!"cannot delete {Tool.quoted candidate.path}: {cause.wording}"
        return false
    | .run words careful inPlace =>
      let path := if inPlace then "./".toList ++ baseName candidate.path else candidate.path
      let words := wordsFor path words
      let agreed ← if careful then do
          let name := words.headD []
          (asksFor s!"< {Octets.toText name} ... {candidate.path.toText} > ? " : Tool Bool)
        else pure true
      if !agreed then return false
      else
        let place := if inPlace then some candidate.place.dropLast else none
        return (← start words place) == 0
    | .collect number =>
      modify fun state => { state with collected := (number, candidate.path) :: state.collected }
      return true
    | .prune =>
      modify fun state => { state with pruned := true }
      return true
    | .quit =>
      modify fun state => { state with isOver := true }
      return true
    | .negated search => return !(← meets candidate fuel search)
    | .both first second =>
      if ← meets candidate fuel first then
        if (← get).isOver then return true else meets candidate fuel second
      else return false
    | .either first second =>
      if ← meets candidate fuel first then return true else meets candidate fuel second
    | .each first second =>
      let _ ← meets candidate fuel first
      meets candidate fuel second
where
  asksFor (question : String) : Tool Bool := do
    Tool.act (Action.report (Octets.ofText question))
    match ← Tool.line? 0 with
    | .ok (some (c :: _, _)) => return c == 'y' || c == 'Y'
    | _ => return false

/-- Whether a search does something with what it finds. -/
def acts : Search → Bool
  | .print _ | .format _ | .list | .remove | .run _ _ _ | .collect _ | .quit => true
  | .negated search => search.acts
  | .both first second | .either first second | .each first second => first.acts || second.acts
  | _ => false

end Search

/-! ## Reading -/

/-- What a search is told besides its expression. -/
structure SearchPlan where
  least : Nat := 0
  most : Option Nat := none
  /-- Whether directories come behind what is in them. -/
  deepFirst : Bool := false
  follow : Bool := false
  followFirst : Bool := false
  /-- The words of the programs that are started for many files. -/
  programs : List (List Octets) := []
  /-- How regular expressions are written. -/
  manner : Expression.Manner := .mixed

/-- The words that are left, the one read last, and the plan so far. -/
structure SearchWords where
  rest : List Octets
  last : Octets := []
  plan : SearchPlan := {}

abbrev SearchReader := StateT SearchWords Tool

namespace SearchReader

def fail {α : Type} (text : String) : SearchReader α := (Tool.fail 1 text : Tool α)

/-- The next word, without reading it. -/
def peek : SearchReader (Option Octets) := do return (← get).rest.head?

def skip : SearchReader Unit := modify fun words =>
  { words with rest := words.rest.tail, last := words.rest.headD [] }

/-- Reads the argument of a word. -/
def argument (word : Octets) : SearchReader Octets := do
  match (← get).rest with
  | text :: _ =>
    skip
    return text
  | [] => fail s!"missing argument to \x60{word.toText}'"

def changePlan (f : SearchPlan → SearchPlan) : SearchReader Unit :=
  modify fun words => { words with plan := f words.plan }

/-- The names of the ways to write regular expressions. -/
def manners : List (String × Expression.Manner) := [
  ("findutils-default", .mixed), ("ed", .strict), ("emacs", .mixed), ("gnu-awk", .extended),
  ("grep", .basic), ("posix-awk", .extended), ("awk", .extended), ("posix-basic", .strict),
  ("posix-egrep", .lenient), ("egrep", .lenient), ("posix-extended", .extended),
  ("posix-minimal-basic", .basic), ("sed", .strict)]

def pattern (text : Octets) : List Atom := Pattern.ofMarked false (quotes text)
where
  /-- A backslash quotes what is behind it. -/
  quotes : Octets → List Marked
    | '\\' :: c :: rest => (c, true) :: quotes rest
    | c :: rest => (c, false) :: quotes rest
    | [] => []

def amount (word : Octets) : SearchReader Amount := do
  let text ← argument word
  match Amount.ofText? text with
  | some amount => return amount
  | none => fail s!"invalid argument \x60{text.toText}' to \x60{word.toText}'"

/-- The time of the file that a word names. -/
def timeOf (word : Octets) : SearchReader FileTime := do
  let path ← argument word
  match ← (nodeAt path : Tool _) with
  | .ok (_, node) => return node.modified
  | .error cause => fail s!"{Tool.quoted path}: {cause.wording}"

/-- Reads the words of a program up to a semicolon, or to a plus sign behind a pair of braces. -/
def program (word : Octets) (fuel : Nat) (found : List Octets) : SearchReader (List Octets × Bool) :=
  match fuel with
  | 0 => return (found.reverse, false)
  | fuel + 1 => do
    match (← get).rest with
    | [] => fail s!"missing argument to \x60{word.toText}'"
    | text :: _ =>
      skip
      if text == [';'] && !found.isEmpty then return (found.reverse, false)
      else if text == ['+'] && found.head? == some ['{', '\x7d'] then
        return (found.tail.reverse, true)
      else program word fuel (text :: found)

/-- Reads a depth. -/
def depth (word : Octets) : SearchReader Nat := do
  let text ← argument word
  match Octets.natural? text with
  | some n => return n
  | none => fail s!"Expected a positive decimal integer argument to {word.toText}, but got {Tool.quoted text}"

/-- Reads what a word asks for. -/
def primary (word : Octets) : SearchReader Search := do
  match Octets.toText word with
  | "-name" => return .name (pattern (← argument word)) false
  | "-iname" => return .name (pattern (← argument word)) true
  | "-path" | "-wholename" => return .path (pattern (← argument word)) false
  | "-ipath" | "-iwholename" => return .path (pattern (← argument word)) true
  | "-lname" => return .linkName (pattern (← argument word))
  | "-regex" | "-iregex" =>
    let text ← argument word
    match Expression.ofText (← get).plan.manner text with
    | .ok e => return .matching e (word == "-iregex".toList)
    | .error fault =>
      fail s!"failed to compile regular expression {Tool.quoted text}: {fault.message}"
  | "-regextype" =>
    let text ← argument word
    match manners.lookup (Octets.toText text) with
    | some manner =>
      changePlan fun plan => { plan with manner }
      return .constant true
    | none =>
      let names := ", ".intercalate (manners.map fun (name, _) => s!"'{name}'")
      fail s!"Unknown regular expression type {Tool.quoted text}; valid types are {names}."
  | "-type" | "-xtype" =>
    let text ← argument word
    let letters := (Octets.splitAt ',' text).flatten
    if text.isEmpty then fail "Arguments to -type should contain at least one letter"
    match letters.find? fun c => !"fdlcbps".toList.contains c with
    | some c => fail s!"Unknown argument to -type: {c}"
    | none => return .kind letters
  | "-size" =>
    let text ← argument word
    let (digits, unit) := match text.reverse with
      | 'c' :: rest => (rest.reverse, 1)
      | 'w' :: rest => (rest.reverse, 2)
      | 'b' :: rest => (rest.reverse, 512)
      | 'k' :: rest => (rest.reverse, 1024)
      | 'M' :: rest => (rest.reverse, 1048576)
      | 'G' :: rest => (rest.reverse, 1073741824)
      | _ => (text, 512)
    match Amount.ofText? digits with
    | some amount => return .size amount unit
    | none => fail s!"invalid -size type \x60{text.toText}'"
  | "-empty" => return .empty
  | "-newer" | "-anewer" | "-cnewer" => return .newer (← timeOf word)
  | "-newermt" =>
    let text ← argument word
    let now ← (Tool.look (·.files.clock) : Tool _)
    match Moment.ofText? now text with
    | some time => return .newer time
    | none => fail s!"I cannot figure out how to interpret {Tool.quoted text} as a date or time"
  | "-mtime" | "-atime" | "-ctime" => return .age (← amount word) 86400
  | "-mmin" | "-amin" | "-cmin" => return .age (← amount word) 60
  | "-links" => return .links (← amount word)
  | "-perm" =>
    let text ← argument word
    let sign := text.headD ' '
    let mode := if sign == '-' || sign == '/' then text.drop 1 else text
    match Permission.change? 0 false 0 mode with
    | some mode => return .permissions sign mode
    | none => fail s!"invalid mode {Tool.quoted text}"
  | "-samefile" =>
    let path ← argument word
    match ← (nodeAt path : Tool _) with
    | .ok (place, _) => return .same place
    | .error cause => fail s!"{Tool.quoted path}: {cause.wording}"
  | "-user" | "-group" | "-uid" | "-gid" =>
    let text ← argument word
    return .constant (text == "root".toList || text == ['0'])
  | "-executable" => return .allows 0o111
  | "-readable" | "-writable" => return .allows 0
  | "-true" => return .constant true
  | "-false" | "-nouser" | "-nogroup" => return .constant false
  | "-print" => return .print '\n'
  | "-print0" => return .print '\x00'
  | "-printf" => return .format (← argument word)
  | "-ls" => return .list
  | "-delete" =>
    changePlan fun plan => { plan with deepFirst := true }
    return .remove
  | "-prune" => return .prune
  | "-quit" => return .quit
  | "-exec" | "-execdir" | "-ok" | "-okdir" =>
    let (words, many) ← program word (← get).rest.length []
    if many then
      let number := (← get).plan.programs.length
      changePlan fun plan => { plan with programs := plan.programs ++ [words] }
      return .collect number
    else
      let name := Octets.toText word
      return .run words (name.startsWith "-ok") (name.endsWith "dir")
  | "-maxdepth" =>
    let n ← depth word
    changePlan fun plan => { plan with most := some n }
    return .constant true
  | "-mindepth" =>
    let n ← depth word
    changePlan fun plan => { plan with least := n }
    return .constant true
  | "-depth" | "-d" =>
    changePlan fun plan => { plan with deepFirst := true }
    return .constant true
  | "-follow" =>
    changePlan fun plan => { plan with follow := true }
    return .constant true
  | "-xdev" | "-mount" | "-noleaf" | "-daystart" | "-warn" | "-nowarn" | "-ignore_readdir_race" =>
    return .constant true
  | text =>
    if text.startsWith "-" && text.length > 1 then fail s!"unknown predicate \x60{text}'"
    else fail s!"paths must precede expression: \x60{text}'"

def isWord (word : Octets) (texts : List String) : Bool := texts.any (·.toList == word)

mutual

/-- Reads expressions that are carried out one behind the other. -/
def list (fuel : Nat) : SearchReader Search :=
  match fuel with
  | 0 => fail "expression is too long"
  | fuel + 1 => do
    let first ← choice fuel
    match ← peek with
    | some [','] =>
      skip
      return .each first (← list fuel)
    | _ => return first

/-- Reads expressions one of which is enough. -/
def choice (fuel : Nat) : SearchReader Search :=
  match fuel with
  | 0 => fail "expression is too long"
  | fuel + 1 => do
    let first ← row fuel
    match ← peek with
    | some word =>
      if isWord word ["-o", "-or"] then
        skip
        if (← get).rest.isEmpty then fail s!"expected an expression after {Tool.quoted word}"
        return .either first (← choice fuel)
      else return first
    | none => return first

/-- Reads expressions all of which are to hold. -/
def row (fuel : Nat) : SearchReader Search :=
  match fuel with
  | 0 => fail "expression is too long"
  | fuel + 1 => do
    let first ← one fuel
    match ← peek with
    | none => return first
    | some word =>
      if isWord word ["-o", "-or", ")", ","] then return first
      else
        if isWord word ["-a", "-and"] then
          skip
          if (← get).rest.isEmpty then fail s!"expected an expression after {Tool.quoted word}"
        return .both first (← row fuel)

/-- Reads one expression. -/
def one (fuel : Nat) : SearchReader Search :=
  match fuel with
  | 0 => fail "expression is too long"
  | fuel + 1 => do
    match ← peek with
    | none => fail s!"expected an expression after {Tool.quoted (← get).last}"
    | some word =>
      skip
      if isWord word ["!", "-not"] then return .negated (← one fuel)
      else if word == ['('] then
        if (← peek) == some [')'] then
          fail "invalid expression; empty parentheses are not allowed."
        let missing := "invalid expression; expected to find a ')' but didn't see one. " ++
          "Perhaps you need an extra predicate after '('"
        if (← peek).isNone then fail missing
        let inner ← list fuel
        match ← peek with
        | some [')'] =>
          skip
          return inner
        | _ => fail missing
      else if isWord word ["-a", "-and", "-o", "-or", ","] then
        fail s!"invalid expression; you have used a binary operator '{word.toText}' with nothing before it."
      else if word == [')'] then
        fail "invalid expression; you have too many ')'"
      else primary word

end

end SearchReader

/-! ## Searching -/

/-- Goes through a path and all below it. -/
def walkTree (plan : SearchPlan) (search : Search) (fuel : Nat) (candidate : Candidate) :
    Searching Unit :=
  match fuel with
  | 0 => return ()
  | fuel + 1 => do
    let asksHere := candidate.depth ≥ plan.least
    let visit : Searching Unit := do
      if asksHere && !(← get).isOver then
        let _ ← search.meets candidate 10000
    modify fun state => { state with pruned := false }
    if !plan.deepFirst then visit
    let pruned := (← get).pruned && !plan.deepFirst
    if candidate.node.isDirectory && !pruned && plan.most.all (candidate.depth < ·) &&
        !(← get).isOver then
      let names ← Tool.look fun machine => machine.files.names candidate.place
      for name in names do
        if !(← get).isOver then
          let path := inside candidate.path (Octets.ofText name)
          match ← nodeAt path plan.follow with
          | .ok (place, node) =>
            walkTree plan search fuel
              { candidate with path, depth := candidate.depth + 1, place, node }
          | .error _ =>
            match ← nodeAt path false with
            | .ok (place, node) =>
              walkTree plan search fuel
                { candidate with path, depth := candidate.depth + 1, place, node }
            | .error _ => pure ()
    if plan.deepFirst then visit

/-- Starts the programs that files were collected for. -/
def runCollected (programs : List (List Octets)) (collected : List (Nat × Octets)) : Tool Unit := do
  for (words, number) in programs.zip (List.range programs.length) do
    let paths := (collected.filter (·.1 == number)).map (·.2)
    if !paths.isEmpty then
      if (← Search.start (words ++ paths.reverse) none) != 0 then Tool.setStatus 1

def find (arguments : List Octets) : Tool Unit := do
  let isFlag (word : Octets) : Bool :=
    SearchReader.isWord word ["-H", "-L", "-P"] || ("-O".toList.isPrefixOf word && word.length > 2)
  let flags := arguments.takeWhile isFlag
  let rest := arguments.drop flags.length
  let isExpression (word : Octets) : Bool :=
    (word.head? == some '-' && word.length > 1) || SearchReader.isWord word ["(", ")", "!", ","]
  let paths := rest.takeWhile fun word => !isExpression word
  let words := rest.drop paths.length
  let last := (flags.getLast?).getD []
  let plan : SearchPlan := {
    follow := last == "-L".toList, followFirst := last == "-L".toList || last == "-H".toList }
  let (search, after) ← if words.isEmpty then
      pure (Search.constant true, ({ rest := [], plan } : SearchWords))
    else
      (SearchReader.list (words.length * 4 + 100)).run { rest := words, plan }
  match after.rest with
  | [] => pure ()
  | word :: _ =>
    if word == [')'] then Tool.fail 1 "you have too many ')'"
    else Tool.fail 1 s!"paths must precede expression: \x60{word.toText}'"
  let plan := after.plan
  let search := if search.acts then search else .both search (.print '\n')
  let mut collected : List (Nat × Octets) := []
  let mut isOver := false
  for path in (if paths.isEmpty then [['.']] else paths) do
    if !isOver then
      match ← nodeAt path plan.followFirst with
      | .error cause => Tool.blame 1 s!"{Tool.quoted path}: {cause.wording}"
      | .ok (place, node) =>
        let candidate : Candidate := { path, start := path, depth := 0, place, node }
        let (_, state) ← (walkTree plan search maxDepth candidate).run { collected }
        collected := state.collected
        isOver := state.isOver
  runCollected plan.programs collected

/-! ## Many arguments -/

/-- Words of an input, cut at blanks that are not quoted, each with a flag: whether it is the last on
its line. -/
def quotedWords (fuel : Nat) (found : List (Octets × Bool)) (word : Option Octets) (text : Octets) :
    Except String (List (Octets × Bool)) :=
  let finish (isLast : Bool) : List (Octets × Bool) :=
    match word with
    | some word => (word.reverse, isLast) :: found
    | none =>
      if isLast then match found with
        | (last, _) :: rest => (last, true) :: rest
        | [] => []
      else found
  match fuel, text with
  | 0, _ | _, [] => .ok (finish true).reverse
  | fuel + 1, c :: rest =>
    let add (octets : Octets) : Option Octets := some (octets.reverse ++ word.getD [])
    if c == '\n' then
      -- A blank at the end of a line goes on with the next one.
      quotedWords fuel (finish (word.isSome)) none rest
    else if c == ' ' || c == '\t' then quotedWords fuel (finish false) none rest
    else if c == '\\' then
      match rest with
      | d :: rest => quotedWords fuel found (add [d]) rest
      | [] => quotedWords fuel found word []
    else if c == '\'' || c == '"' then
      let inner := rest.takeWhile fun d => d != c && d != '\n'
      match rest.drop inner.length with
      | d :: rest =>
        if d == c then quotedWords fuel found (add inner) rest
        else .error (quoteFault c)
      | [] => .error (quoteFault c)
    else quotedWords fuel found (add [c]) rest
where
  quoteFault (c : Char) : String :=
    let name := if c == '\'' then "single" else "double"
    s!"unmatched {name} quote; by default quotes are special to xargs unless you use the -0 option"

/-- Words in groups of a size. -/
def inGroups (size : Nat) (fuel : Nat) (words : List Octets) : List (List Octets) :=
  match fuel with
  | 0 => []
  | fuel + 1 =>
    if words.isEmpty then []
    else words.take (max 1 size) :: inGroups size fuel (words.drop (max 1 size))

/-- Words in groups of so many lines. -/
def inLines (lines : Nat) (words : List (Octets × Bool)) : List (List Octets) :=
  let step (state : List (List Octets) × List Octets × Nat) (entry : Octets × Bool) :
      List (List Octets) × List Octets × Nat :=
    let (groups, group, count) := state
    let group := entry.1 :: group
    if entry.2 then
      if count + 1 ≥ lines then (group.reverse :: groups, [], 0) else (groups, group, count + 1)
    else (groups, group, count)
  let (groups, group, _) := words.foldl step ([], [], 0)
  (if group.isEmpty then groups else group.reverse :: groups).reverse

/-- A word with a text in place of a mark. -/
def insertAt (mark text : Octets) (fuel : Nat) (word : Octets) : Octets :=
  match fuel, word with
  | 0, _ | _, [] => word
  | fuel + 1, c :: rest =>
    if mark.isPrefixOf word then text ++ insertAt mark text fuel (word.drop mark.length)
    else c :: insertAt mark text fuel rest

/-- Starts a program for each group of words. -/
def startEach (talks : Bool) (input : Nat) : List (List Octets) → Tool Unit
  | [] => return ()
  | words :: rest => do
    if talks then
      Tool.report (Octets.toText (Octets.join [' '] (words.map Quoting.named)))
    let name := words.headD []
    let child ← startProgram [(0, input)] (← environment) words fun cause =>
      s!"xargs: {name.toText}: {cause.wording}"
    match ← Tool.act (Action.wait child) with
    | .signal signal => Tool.fail 125 s!"{name.toText}: terminated by signal {signal}"
    | .status 255 => Tool.fail 124 s!"{name.toText}: exited with status 255; aborting"
    | .status 0 => startEach talks input rest
    | .status n =>
      if n == 126 || n == 127 then Tool.exit n
      else
        Tool.setStatus 123
        startEach talks input rest

def xargs (arguments : List Octets) : Tool Unit := do
  let found ← Options.ofWords
    ["0 null", "a arg-file=", "d delimiter=", "E=", "e eof~", "I=", "i replace~", "L=", "l max-lines~",
      "n max-args=", "o open-tty", "P max-procs=", "p interactive", "r no-run-if-empty", "s max-chars=",
      "t verbose", "x exit", "process-slot-var=", "show-limits"] arguments 1 true
  let number (key : String) : Tool (Option Nat) := do
    match found.value? key with
    | none => return none
    | some text =>
      match Octets.natural? text with
      | some 0 =>
        Tool.misuse 1 s!"value 0 for -{key} option should be >= 1"
      | some n => return some n
      | none => Tool.misuse 1 s!"invalid number \"{text.toText}\" for -{key} option"
  let perGroup ← number "n"
  let perLines ← if found.has "l" && (found.value? "l") == some [] then pure (some 1)
    else if found.has "l" then number "l" else number "L"
  let limit ← number "s"
  let mark : Option Octets := match found.last? ["I", "i"] with
    | some (_, []) => some ['{', '\x7d']
    | some (_, mark) => some mark
    | none => none
  let source := (found.value? "a").getD ['-']
  let text ← match ← Tool.contents source with
    | .ok text => pure text
    | .error cause => Tool.fail 1 s!"Cannot open input file {Tool.quoted source}: {cause.wording}"
  let delimiter : Option Char := match found.last? ["0", "d"] with
    | some ("0", _) => some '\x00'
    | some (_, '\\' :: 'n' :: _) => some '\n'
    | some (_, '\\' :: 't' :: _) => some '\t'
    | some (_, '\\' :: '0' :: _) => some '\x00'
    | some (_, c :: _) => some c
    | _ => none
  let words : List (Octets × Bool) ← match delimiter, mark with
    | some delimiter, _ => pure ((linesOf delimiter text).map fun word => (word, true))
    | none, some _ =>
      -- Each line is one word.
      let lines := (Octets.lines text).map fun line => line.dropWhile fun c => c == ' ' || c == '\t'
      let whole ← (lines.filter (!·.isEmpty)).mapM fun line => do
        match quotedWords (line.length + 2) [] none (protect line) with
        | .ok words => return (((words.head?).map (·.1)).getD [], true)
        | .error cause => Tool.fail 1 cause
      pure whole
    | none, none =>
      match quotedWords (text.length + 2) [] none text with
      | .ok words => pure words
      | .error cause => Tool.fail 1 cause
  let command := if found.operands.isEmpty then ["echo".toList] else found.operands
  let stop := (found.value? "E").filter (!·.isEmpty)
  let words : List (Octets × Bool) := match stop with
    | some stop => words.takeWhile (·.1 != stop)
    | none => words
  let input ← Tool.act (Action.update (·.newOpening { channel := .null, reads := true }))
  let groups : List (List Octets) := match mark with
    | some mark => words.map fun (word, _) =>
      command.map fun part => insertAt mark word (part.length + 1) part
    | none =>
      let parts := match perLines with
        | some lines => inLines lines words
        | none =>
          let all : List Octets := words.map Prod.fst
          match perGroup with
          | some size => inGroups size (all.length + 1) all
          | none => if all.isEmpty then [] else [all]
      parts.map (command ++ ·)
  let tooLong := limit.any fun limit =>
    groups.any fun group => (group.map fun word => word.length + 1).foldl (· + ·) 0 > limit
  if tooLong then Tool.fail 1 "argument line too long"
  if groups.isEmpty && mark.isNone && !found.has "r" then startEach (found.has "t") input [command]
  else startEach (found.has "t") input groups
where
  /-- A line with its blanks quoted. -/
  protect (line : Octets) : Octets :=
    (line.foldl
      (fun (state : Octets × Option Char × Bool) c =>
        let (found, quote, escaped) := state
        if escaped then (c :: found, quote, false)
        else
          match quote with
          | some sign => (c :: found, if c == sign then none else quote, false)
          | none =>
            if c == '\\' then (c :: found, none, true)
            else if c == '\'' || c == '"' then (c :: found, some c, false)
            else if c == ' ' || c == '\t' then (c :: '\\' :: found, none, false)
            else (c :: found, none, false))
      ([], none, false)).1.reverse

end TaskRunner.Shell.Utility
