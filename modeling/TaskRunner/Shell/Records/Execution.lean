import TaskRunner.Shell.Records.Stream
/- # TaskRunner.Shell.Records.Execution -- carrying out scripts for records

The rules at the beginning are carried out, then the input is cut into records, and each record into
fields, and the rules are carried out for each of them; last come the rules at the end. -/

namespace TaskRunner.Shell.Records
set_option autoImplicit false

/-! ## Replacements -/

/-- What takes the place of a match. -/
def replacementFor (found : Octets) : Octets → Octets
  | '\\' :: '\\' :: '&' :: rest => '\\' :: (found ++ replacementFor found rest)
  | '\\' :: '&' :: rest => '&' :: replacementFor found rest
  | '&' :: rest => found ++ replacementFor found rest
  | c :: rest => c :: replacementFor found rest
  | [] => []

/-- A text with other texts in place of matches, of which there are so many. -/
def replaced (text : Octets) (replacement : Octets) (found : List Expression.Found) : Octets :=
  let subject : Expression.Subject := { text := text.toArray }
  let (place, parts) := found.foldl
    (fun (place, (parts : List Octets)) (found : Expression.Found) =>
      (found.stop,
        replacementFor (subject.part found.start found.stop) replacement ::
          subject.part place found.start :: parts))
    (0, [])
  (subject.part place subject.size :: parts).reverse.flatten

/-- The part of a text from a place on, with a length. -/
def partOf (text : Octets) (start : Float) (length : Option Float) : Octets :=
  let start := wholeOf (start + 0.5).floor
  let stop := match length with
    | some length => max (-9223372036854775808) (start + wholeOf (length + 0.5).floor)
    | none => 9223372036854775807
  let first := max start 1
  if stop ≤ first then []
  else (text.drop (first - 1).toNat).take (stop - first).toNat

/-! ## Formulas and statements -/

/-- The text that `print` and `printf` name what they write to with. -/
def describe (fault : FormatFault) (name : String) (format : Octets) : String :=
  match fault with
  | .lacksValue => s!"not enough arguments passed to {name}(\"{format.toText}\")"
  | .badDirective n => s!"improper conversion(number {n}) in {name}(\"{format.toText}\")"

/-- The value of a function of the language that is given values. -/
def builtin (name : String) (values : List Value) : Run Value := do
  let first : Value := (values.head?).getD .unset
  let numeric (f : Float → Float) : Run Value := return .number (f first.toNumber)
  match name with
  | "length" => return .ofNat (← textOf first).length
  | "substr" =>
    let text ← textOf first
    let start := ((values[1]?).getD Value.unset).toNumber
    return .text (partOf text start ((values[2]?).map Value.toNumber))
  | "index" =>
    let text ← textOf first
    let part ← textOf ((values[1]?).getD Value.unset)
    let place := (List.range (text.length + 1)).find? fun n => part.isPrefixOf (text.drop n)
    return .ofNat (match place with
      | some n => n + 1
      | none => 0)
  | "sin" => numeric Float.sin
  | "cos" => numeric Float.cos
  | "atan2" => numeric fun y => Float.atan2 y ((values[1]?).getD Value.unset).toNumber
  | "exp" => numeric Float.exp
  | "log" => numeric Float.log
  | "sqrt" => numeric Float.sqrt
  | "int" => numeric truncated
  | "rand" =>
    let state ← get
    let random := (state.random * 1103515245 + 12345) % 2147483648
    set { state with random }
    return .number (random.toFloat / 2147483648)
  | "srand" =>
    let state ← get
    let clock ← (Tool.look (·.files.clock) : Tool FileTime)
    let seed := match values with
      | value :: _ => (wholeOf value.toNumber).toNat
      | [] => (clock / 1000000000).toNat
    set { state with seed, random := seed }
    return .ofNat state.seed
  | "tolower" => return .text ((← textOf first).map Char.toLower)
  | "toupper" => return .text ((← textOf first).map Char.toUpper)
  | "systime" => return .ofInt ((← (Tool.look (·.files.clock) : Tool FileTime)) / 1000000000)
  | "close" => return .ofInt (← closeNamed (← textOf first))
  | "fflush" =>
    (Tool.flush : Tool Unit)
    return .number 0
  | "system" =>
    let command ← textOf first
    let process ← (launch [] "sh" command : Tool Nat)
    return .ofInt (statusOf (← (Tool.act (Action.wait process) : Tool Ending)))
  | "sprintf" =>
    match values with
    | [] => return .text []
    | format :: values =>
      let format ← textOf format
      match filled (← settingText "CONVFMT") format values with
      | (text, none) => return .text text
      | (_, some problem) => fault (describe problem "sprintf" format)
  | _ => return .unset

mutual

/-- The value of a formula. -/
def value (fuel : Nat) (formula : Formula) : Run Value := do
  match fuel with
  | 0 => throw .stop
  | fuel + 1 =>
    match formula with
    | .number n => return .number n
    | .text text => return .text text
    | .expression e => return .ofBool (matchesIn e (← get).record)
    | .target (.named name) => variableValue name
    | .target target => (← place fuel target).value
    | .assign operator target formula =>
      let place ← place fuel target
      let right ← value fuel formula
      let result ← match operator with
        | none => pure right
        | some operator => do
          pure (.number (operator.apply (← place.value).toNumber right.toNumber))
      place.set result
      return result
    | .arithmetic operator left right =>
      let a ← value fuel left
      let b ← value fuel right
      return .number (operator.apply a.toNumber b.toNumber)
    | .compare comparison left right =>
      let a ← value fuel left
      let b ← value fuel right
      return .ofBool (← compare comparison a b)
    | .matching negated text pattern =>
      let text ← textOf (← value fuel text)
      let e ← expression fuel pattern
      return .ofBool (matchesIn e text != negated)
    | .joined first second =>
      let a ← textOf (← value fuel first)
      let b ← textOf (← value fuel second)
      return .text (a ++ b)
    | .both first second =>
      if (← value fuel first).isTrue then return .ofBool (← value fuel second).isTrue
      else return .ofBool false
    | .either first second =>
      if (← value fuel first).isTrue then return .ofBool true
      else return .ofBool (← value fuel second).isTrue
    | .not formula => return .ofBool (!(← value fuel formula).isTrue)
    | .negative formula => return .number (-(← value fuel formula).toNumber)
    | .plain formula => return .number (← value fuel formula).toNumber
    | .choice condition yes no =>
      if (← value fuel condition).isTrue then value fuel yes else value fuel no
    | .step early amount target =>
      let place ← place fuel target
      let before := (← place.value).toNumber
      place.set (.number (before + amount))
      return .number (if early then before + amount else before)
    | .member indices array =>
      let key ← key fuel indices
      let number ← arrayOf array
      return .ofBool ((← table number).get? key).isSome
    | .call name formulas => call fuel name formulas
    | .builtin name formulas => special fuel name formulas
    | .readLine source origin into =>
      match source with
      | .input =>
        match ← nextRecord? Tool.maxSteps with
        | none => return .number 0
        | some record =>
          match into with
          | none => setRecord record
          | some target => (← place fuel target).set (.read record)
          return .number 1
      | _ =>
        let name ← textOf (← value fuel origin)
        match ← inlet? source name with
        | none => return .number (-1)
        | some number =>
          match ← readRecord? number with
          | none => return .number 0
          | some record =>
            if source matches .command then
              setSetting "NR" (.number ((← setting "NR").toNumber + 1))
            match into with
            | none => setRecord record
            | some target => (← place fuel target).set (.read record)
            return .number 1

/-- The values of formulas. -/
def values (fuel : Nat) (formulas : List Formula) : Run (List Value) := do
  match fuel, formulas with
  | 0, _ => throw .stop
  | _, [] => return []
  | fuel + 1, formula :: rest =>
    let first ← value fuel formula
    return first :: (← values fuel rest)

/-- What a target stands for. -/
def place (fuel : Nat) (target : Target) : Run Place := do
  match fuel with
  | 0 => throw .stop
  | fuel + 1 =>
    match target with
    | .named name => return .variable name
    | .field index =>
      let number := wholeOf (← value fuel index).toNumber
      if number < 0 then fault s!"negative field index ${number}"
      else return .field number.toNat
    | .element array indices =>
      let key ← key fuel indices
      return .element (← arrayOf array) key

/-- The key of an element. -/
def key (fuel : Nat) (indices : List Formula) : Run Octets := do
  match fuel with
  | 0 => throw .stop
  | fuel + 1 =>
    match ← values fuel indices with
    | [one] => textOf one
    | several =>
      let texts ← several.mapM textOf
      return Octets.join (← settingText "SUBSEP") texts

/-- The expression that a formula stands for. -/
def expression (fuel : Nat) (formula : Formula) : Run Expression := do
  match fuel with
  | 0 => throw .stop
  | fuel + 1 =>
    match formula with
    | .expression e => return e
    | other => expressionOfText (← textOf (← value fuel other))

/-- The value of a function of the language that is given formulas. -/
def special (fuel : Nat) (name : String) (formulas : List Formula) : Run Value := do
  match fuel with
  | 0 => throw .stop
  | fuel + 1 =>
    match name, formulas with
    | "length", [] => return .ofNat (← get).record.length
    | "length", [.target (.named name)] =>
      match ← slot name with
      | .array number => return .ofNat (← table number).size
      | _ => builtin "length" [← variableValue name]
    | "split", text :: .target (.named array) :: rest =>
      let text ← textOf (← value fuel text)
      let separator ← match rest with
        | [] => separatorOf (← settingText "FS")
        | .expression e :: _ => pure (.expression e)
        | other :: _ => separatorOf (← textOf (← value fuel other))
      let parts : List Octets := cut separator text
      let number ← arrayOf array
      let filled := (List.range parts.length).foldl
        (fun (table : Table) n => table.put (Octets.ofNat (n + 1)) (.read ((parts[n]?).getD [])))
        {}
      setTable number filled
      return .ofNat parts.length
    | "match", [text, pattern] =>
      let text ← textOf (← value fuel text)
      let e ← expression fuel pattern
      let (start, length) : Value × Value := match e.search? { text := text.toArray } 0 with
        | some found => (.ofNat (found.start + 1), .ofNat (found.stop - found.start))
        | none => (.number 0, .number (-1))
      setSetting "RSTART" start
      setSetting "RLENGTH" length
      return start
    | "sub", pattern :: replacement :: rest => substitute fuel false pattern replacement rest
    | "gsub", pattern :: replacement :: rest => substitute fuel true pattern replacement rest
    | _, _ => builtin name (← values fuel formulas)

/-- Puts a text in place of the first match of an expression, or of all. -/
def substitute (fuel : Nat) (all : Bool) (pattern replacement : Formula) (rest : List Formula) :
    Run Value := do
  match fuel with
  | 0 => throw .stop
  | fuel + 1 =>
    let e ← expression fuel pattern
    let replacement ← textOf (← value fuel replacement)
    let target : Option Place ← match rest with
      | [] => pure (some (Place.field 0))
      | .target target :: _ => do
        let found ← place fuel target
        pure (some found)
      | _ => pure none
    let text ← match target, rest with
      | some place, _ => do textOf (← place.value)
      | none, other :: _ => do textOf (← value fuel other)
      | none, [] => pure []
    let subject : Expression.Subject := { text := text.toArray }
    let found := if all then e.all subject else (e.search? subject 0).toList
    if !found.isEmpty then
      match target with
      | some place => place.set (.text (replaced text replacement found))
      | none => pure ()
    return .ofNat found.length

/-- Calls a function. -/
def call (fuel : Nat) (name : String) (formulas : List Formula) : Run Value := do
  match fuel with
  | 0 => throw .stop
  | fuel + 1 =>
    match (← get).script.functions.lookup name with
    | none => refuse s!"function {name} never defined"
    | some function =>
      let slots ← arguments fuel formulas
      let unset := List.replicate (function.parameters.length - slots.length) (.value .unset)
      let outer := (← get).frame
      modify fun state => { state with frame := function.parameters.zip (slots ++ unset) }
      let result ← outcome (carryOut fuel function.body)
      modify fun state => { state with frame := outer }
      match result with
      | .ok _ => return .unset
      | .error (.give value) => return value
      | .error leap => throw leap

/-- What is given to a function: values, and arrays themselves. -/
def arguments (fuel : Nat) (formulas : List Formula) : Run (List Slot) := do
  match fuel, formulas with
  | 0, _ => throw .stop
  | _, [] => return []
  | fuel + 1, formula :: rest =>
    let first : Slot ← match formula with
      | .target (.named name) => do
        match ← slot name with
        | .value .unset =>
          if name == "NF" then
            let count ← variableValue name
            pure (.value count)
          else
            let number ← freshArray
            setSlot name (.undecided number)
            pure (.undecided number)
        | found => pure found
      | other => do
        let found ← value fuel other
        pure (.value found)
    return first :: (← arguments fuel rest)

/-- Carries out a statement. -/
def carryOut (fuel : Nat) (statement : Statement) : Run Unit := do
  match fuel with
  | 0 => throw .stop
  | fuel + 1 =>
    (Tool.breatheAtTimes : Tool Unit)
    match statement with
    | .formula formula =>
      let _ ← value fuel formula
    | .print formulas target destination =>
      let format ← settingText "OFMT"
      let texts : List Octets ← match formulas with
        | [] => do
          let record := (← get).record
          pure [record]
        | formulas => do
          let found ← values fuel formulas
          pure (found.map (Value.toOctets format))
      let name ← textOf (← value fuel destination)
      let line := Octets.join (← settingText "OFS") texts ++ (← settingText "ORS")
      emit target name line
    | .printFormatted formulas target destination =>
      match ← values fuel formulas with
      | [] => return ()
      | format :: values =>
        let format ← textOf format
        let name ← textOf (← value fuel destination)
        let (text, problem) := filled (← settingText "CONVFMT") format values
        emit target name text
        match problem with
        | none => return ()
        | some problem => fault (describe problem "printf" format)
    | .choice condition yes no =>
      if (← value fuel condition).isTrue then carryOut fuel yes else carryOut fuel no
    | .repeated condition body => repeatWhile fuel (some condition) none body
    | .repeatedAfter body condition =>
      if ← carryOutBody fuel body then repeatWhile fuel (some condition) none body
    | .counted start condition step body =>
      carryOut fuel start
      repeatWhile fuel condition (some step) body
    | .each name array body =>
      let number ← arrayOf array
      let keys := (← table number).keys
      visit fuel name keys body
    | .block statements => carryOutAll fuel statements
    | .next => throw .next
    | .nextFile => throw .nextFile
    | .exit status =>
      match status with
      | some formula =>
        let status := wholeOf (← value fuel formula).toNumber
        modify fun state => { state with status := (status % 256).toNat }
      | none => pure ()
      throw .exit
    | .give formula =>
      match formula with
      | some formula => throw (.give (← value fuel formula))
      | none => throw (.give .unset)
    | .leave => throw .leave
    | .continue => throw .continue
    | .delete array indices =>
      let number ← arrayOf array
      if indices.isEmpty then setTable number {}
      else
        let key ← key fuel indices
        setTable number ((← table number).erase key)

def carryOutAll (fuel : Nat) (statements : List Statement) : Run Unit := do
  match fuel, statements with
  | 0, _ => throw .stop
  | _, [] => return ()
  | fuel + 1, statement :: rest =>
    carryOut fuel statement
    carryOutAll fuel rest

/-- Carries out the body of a loop, and says whether the loop goes on. -/
def carryOutBody (fuel : Nat) (body : Statement) : Run Bool := do
  match fuel with
  | 0 => throw .stop
  | fuel + 1 =>
    match ← outcome (carryOut fuel body) with
    | .ok _ | .error .continue => return true
    | .error .leave => return false
    | .error leap => throw leap

/-- Repeats a statement, and a step behind it, as long as a condition holds. -/
def repeatWhile (fuel : Nat) (condition : Option Formula) (step : Option Statement)
    (body : Statement) : Run Unit := do
  match fuel with
  | 0 => throw .stop
  | fuel + 1 =>
    let goesOn ← match condition with
      | some condition => do
        let found ← value fuel condition
        pure found.isTrue
      | none => pure true
    if goesOn then
      if ← carryOutBody fuel body then
        match step with
        | some step => carryOut fuel step
        | none => pure ()
        repeatWhile fuel condition step body

/-- Carries out a statement for each of the keys of an array. -/
def visit (fuel : Nat) (name : String) (keys : List Octets) (body : Statement) : Run Unit := do
  match fuel, keys with
  | 0, _ => throw .stop
  | _, [] => return ()
  | fuel + 1, key :: rest =>
    setVariable name (.text key)
    if ← carryOutBody fuel body then visit fuel name rest body

end

/-! ## Rules -/

/-- How many steps a script may take. -/
def maxSteps : Nat := 1000000000000

/-- Carries out what a rule does. -/
def carryOutRule (rule : Rule) : Run Unit :=
  match rule.body with
  | some body => carryOut maxSteps body
  | none => carryOut maxSteps (.print [] .output (.number 0))

/-- Whether a rule is for the record; it is the one of a number. -/
def isFor (number : Nat) (rule : Rule) : Run Bool := do
  match rule.occasion with
  | .always => return true
  | .when condition => return (← value maxSteps condition).isTrue
  | .between first last =>
    let isInside := ((← get).between[number]?).getD false
    let begins ← (if isInside then pure true else do
      let found ← value maxSteps first
      pure found.isTrue : Run Bool)
    if begins then
      let ends ← value maxSteps last
      modify fun state =>
        { state with between := state.between.setIfInBounds number (!ends.isTrue) }
    return begins
  | .beginning | .ending => return false

/-- Carries out the rules for the record. -/
def carryOutRules (rules : List (Nat × Rule)) : Run Unit := do
  match rules with
  | [] => return ()
  | (number, rule) :: rest =>
    if ← isFor number rule then carryOutRule rule
    carryOutRules rest

/-- Goes through the records of the input. -/
def eachRecord (fuel : Nat) (rules : List (Nat × Rule)) : Run Unit := do
  match fuel with
  | 0 => return ()
  | fuel + 1 =>
    match ← nextRecord? Tool.maxSteps with
    | none => return ()
    | some record =>
      setRecord record
      match ← outcome (carryOutRules rules) with
      | .ok _ | .error .next => eachRecord fuel rules
      | .error .nextFile =>
        match (← get).input with
        | some number => (Tool.closeInput number : Tool Unit)
        | none => pure ()
        modify fun state => { state with input := none }
        eachRecord fuel rules
      | .error leap => throw leap

/-- Carries out a script; the status is in the state that is left. -/
def carryOutScript : Run Unit := do
  let rules := (← get).script.rules.toList
  let numbered := (List.range rules.length).zip rules
  let beginnings := rules.filter fun rule => rule.occasion matches .beginning
  let endings := rules.filter fun rule => rule.occasion matches .ending
  let others := numbered.filter fun (_, rule) =>
    !(rule.occasion matches .beginning) && !(rule.occasion matches .ending)
  let main : Run Unit := do
    beginnings.forM carryOutRule
    if !endings.isEmpty || !others.isEmpty then eachRecord Tool.maxSteps others
  match ← outcome main with
  | .error .stop => throw .stop
  | _ => endings.forM carryOutRule

/-- Closes what is still open. -/
def closeAll : Run Unit := do
  for outlet in (← get).outlets.reverse do
    let _ ← (outlet.close : Tool Int)

end TaskRunner.Shell.Records
