import TaskRunner.Shell.Tool.Options
/- # TaskRunner.Shell.Utility.Running -- programs that start other programs

Some programs become another one after they have changed something; others start it and wait for it,
or for a moment. -/

namespace TaskRunner.Shell.Utility
set_option autoImplicit false

/-- The status of a program that cannot be started. -/
def refusalStatus (cause : FileError) : Nat := if cause == .notFound then 127 else 126

/-- Becomes another program; `refuse` says what is reported if that cannot be. -/
def becoming (execute : Execute) (environment : List (Octets × Octets)) (words : List Octets)
    (refuse : FileError → String) : Action Ending := do
  match words with
  | [] => return .status 0
  | name :: arguments =>
    match ← Program.become execute environment name arguments with
    | .ok ending => return ending
    | .error cause =>
      Action.complain (refuse cause)
      return .status (refusalStatus cause)

/-- Becomes another program, which is the end of this one. -/
def replaceBy (environment : List (Octets × Octets)) (words : List Octets)
    (refuse : FileError → String) : Tool Unit := do
  Tool.flush
  let execute := (← Tool.progress).execute
  let ending ← Tool.act (becoming execute environment words refuse)
  Tool.act (Action.stop ending)

/-- Starts a program with its input from something else, and gives its number. -/
def startProgram (streams : List (Nat × Nat)) (environment : List (Octets × Octets))
    (words : List Octets) (refuse : FileError → String) : Tool Nat := do
  Tool.flush
  let execute := (← Tool.progress).execute
  Tool.act (Action.fork streams (becoming execute environment words refuse))

/-- The environment of the program itself. -/
def environment : Tool (List (Octets × Octets)) := do
  return (← Tool.progress).invocation.environment

/-! ## Variables -/

/-- Gives variables values for another program. -/
def env (arguments : List Octets) : Tool Unit := do
  let found ← Options.ofWords
    ["i ignore-environment", "0 null", "u unset=", "C chdir=", "S split-string=", "v debug"] arguments
    125 true
  let words := match found.value? "S" with
    | some text => Octets.words text ++ found.operands
    | none => found.operands
  let clears := found.has "i" || words.head? == some ['-']
  let words := if words.head? == some ['-'] then words.tail else words
  let isAssignment (word : Octets) : Bool := word.contains '='
  let assignments := words.takeWhile isAssignment
  let command := words.drop assignments.length
  let start ← if clears then pure [] else environment
  let kept := start.filter fun (name, _) => !(found.values "u").contains name
  let environment := assignments.foldl
    (fun (found : List (Octets × Octets)) word =>
      let name := word.takeWhile (· != '=')
      let value := word.drop (name.length + 1)
      if found.any (·.1 == name) then
        found.map fun entry => if entry.1 == name then (name, value) else entry
      else found ++ [(name, value)])
    kept
  match found.value? "C" with
  | none => pure ()
  | some path =>
    let result ← Tool.look fun machine =>
      machine.files.find machine.place (Octets.toText path)
    match result with
    | .ok (place, node) =>
      if !node.isDirectory then
        Tool.fail 125 s!"cannot change directory to {Tool.quoted path}: {FileError.notDirectory.wording}"
      Tool.change (·.modifySelf fun record => { record with place })
    | .error cause =>
      Tool.fail 125 s!"cannot change directory to {Tool.quoted path}: {cause.wording}"
  match command with
  | [] =>
    let ending := if found.has "0" then '\x00' else '\n'
    for (name, value) in environment do
      Tool.put (name ++ '=' :: value ++ [ending])
  | name :: _ =>
    let label ← Tool.name
    replaceBy environment command fun cause => s!"{label}: {Tool.quoted name}: {cause.wording}"

/-! ## Circumstances -/

/-- Becomes another program that a hangup does not end. -/
def nohup (arguments : List Octets) : Tool Unit := do
  let found ← Options.ofWords [] arguments 125 true
  match found.operands with
  | [] => Tool.lackOperand 125
  | name :: _ =>
    Tool.change (·.modifySelf fun record => { record with ignored := 1 :: record.ignored })
    replaceBy (← environment) found.operands fun cause =>
      s!"nohup: failed to run command {Tool.quoted name}: {cause.wording}"

/-- Becomes another program that others go ahead of. -/
def nice (arguments : List Octets) : Tool Unit := do
  let arguments := match arguments with
    | ('-' :: c :: rest) :: others =>
      if c.isDigit then "-n".toList :: (c :: rest) :: others else arguments
    | _ => arguments
  let found ← Options.ofWords ["n adjustment="] arguments 125 true
  match found.operands with
  | [] =>
    if found.has "n" then Tool.misuse 125 "a command must be given with an adjustment"
    else Tool.putText "0\n"
  | name :: _ =>
    replaceBy (← environment) found.operands fun cause =>
      s!"nice: {Tool.quoted name}: {cause.wording}"

/-- Becomes another program; what stands in front of it makes no difference here. -/
def passOn (known : List String) (arguments : List Octets) : Tool Unit := do
  let found ← Options.ofWords known arguments 125 true
  let label ← Tool.name
  match found.operands with
  | [] => Tool.misuse 125 "no command specified"
  | name :: _ =>
    replaceBy (← environment) found.operands fun cause =>
      s!"{label}: failed to execute {name.toText}: {cause.wording}"

/-! ## Time -/

/-- A length of time in nanoseconds: a number and a letter for its unit. -/
def duration? (text : Octets) : Option Nat := do
  let (digits, unit) := match text.reverse with
    | 's' :: rest => (rest.reverse, 1)
    | 'm' :: rest => (rest.reverse, 60)
    | 'h' :: rest => (rest.reverse, 3600)
    | 'd' :: rest => (rest.reverse, 86400)
    | _ => (text, 1)
  return (← Octets.decimal? (if digits.head? == some '+' then digits.drop 1 else digits)) * unit

/-- A time that never ends. -/
def forever : Nat := 1000000000 * 86400 * 365 * 1000

def sleep (arguments : List Octets) : Tool Unit := do
  let found ← Options.ofWords [] arguments
  if found.operands.isEmpty then Tool.lackOperand 1
  let mut total := 0
  let mut wrong := false
  for word in found.operands do
    match duration? word with
    | some time => total := total + time
    | none =>
      if word == "inf".toList || word == "infinity".toList then total := forever
      else
        Tool.complain s!"invalid time interval {Tool.quoted word}"
        wrong := true
  if wrong then Tool.giveHelp 1
  Tool.act (Action.sleep total)

/-- Starts a program and ends it after a while. -/
def timeout (arguments : List Octets) : Tool Unit := do
  let found ← Options.ofWords
    ["k kill-after=", "s signal=", "v verbose", "foreground", "preserve-status"] arguments 125 true
  let signal ← match found.value? "s" with
    | none => pure Signal.terminate
    | some text =>
      match Signal.ofText? text with
      | some signal => pure signal
      | none => Tool.misuse 125 s!"{Tool.quoted text}: invalid signal"
  let interval (text : Octets) : Tool Nat := do
    match duration? text with
    | some time => return time
    | none => Tool.misuse 125 s!"invalid time interval {Tool.quoted text}"
  let after ← match found.value? "k" with
    | none => pure 0
    | some text => interval text
  match found.operands with
  | [] => Tool.lackOperand 125
  | [_] => Tool.lackOperand 125
  | text :: name :: rest =>
    let time ← interval text
    let child ← startProgram [] (← environment) (name :: rest) fun cause =>
      s!"timeout: failed to run command {Tool.quoted name}: {cause.wording}"
    let clock ← Tool.look (·.files.clock)
    let isOver (machine : Machine) : Bool := !machine.isAlive child
    if time == 0 then Tool.act (Action.await isOver)
    else Tool.act (Action.awaitUntil (clock + time) isOver)
    let early ← Tool.look isOver
    if !early then
      if found.has "v" then
        let shown := (Signal.name? signal).getD (toString signal)
        Tool.complain s!"sending signal {shown} to command {Tool.quoted name}"
      let _ ← Tool.act (Action.kill child signal)
      -- The signal goes to the program itself as well, which only one cannot pass over.
      if signal == Signal.kill && !found.has "foreground" then
        Tool.act (Action.stop (.signal Signal.kill))
      if after != 0 then
        let clock ← Tool.look (·.files.clock)
        Tool.act (Action.awaitUntil (clock + after) isOver)
        if !(← Tool.look isOver) then
          let _ ← Tool.act (Action.kill child Signal.kill)
          if !found.has "foreground" then Tool.act (Action.stop (.signal Signal.kill))
      Tool.act (Action.await isOver)
    let ending ← Tool.look fun machine => (Action.endingOf? child machine).getD (.status 0)
    match ending with
    | .signal number =>
      if early then Tool.act (Action.stop (.signal number))
      else if number == Signal.kill || found.has "preserve-status" then Tool.setStatus (128 + number)
      else Tool.setStatus 124
    | .status n => Tool.setStatus (if early || found.has "preserve-status" then n else 124)

/-! ## Signals -/

/-- Sends signals to processes. -/
def killProcesses (arguments : List Octets) : Tool Unit := do
  let (signal, words) ← match arguments with
    | ['-', 's'] :: name :: rest | ['-', 'n'] :: name :: rest => pure (Signal.ofText? name, rest)
    | ['-', '-'] :: rest => pure (some Signal.terminate, rest)
    | ('-' :: 'l' :: _) :: rest => do
      match rest with
      | [] =>
        Tool.putText (" ".intercalate (Signal.table.map (·.1)) ++ "\n")
      | rest =>
        for word in rest do
          match Signal.ofText? word with
          | some n =>
            let name := (Signal.name? (n % 128)).getD ""
            let shown := if word.all Char.isDigit then name else toString n
            Tool.putText (shown ++ "\n")
          | none => Tool.blame 1 s!"unknown signal: {word.toText}"
      Tool.exit (← Tool.progress).status
    | ('-' :: name) :: rest => pure (Signal.ofText? name, rest)
    | rest => pure (some Signal.terminate, rest)
  match signal with
  | none => Tool.fail 1 "unknown signal"
  | some signal =>
    if words.isEmpty then Tool.fail 1 "not enough arguments"
    for word in words do
      match Octets.natural? word with
      | some process =>
        if !(← Tool.act (Action.kill process signal)) then
          Tool.blame 1 s!"({process}): No such process"
      | none => Tool.blame 1 s!"cannot find process \"{word.toText}\""

/-! ## Where programs are -/

/-- Prints the paths of programs. -/
def which (arguments : List Octets) : Tool Unit := do
  let found ← Options.ofWords ["a all", "s"] arguments 2
  let directories := ((← Tool.setting? "PATH")).getD Program.defaultPath
  for name in found.operands do
    let paths := if name.contains '/' then [name] else Program.candidates directories name
    let here ← Tool.look fun machine =>
      paths.filter fun path => (Program.content machine path).toOption.isSome
    if here.isEmpty then Tool.setStatus 1
    for path in (if found.has "a" then here else here.take 1) do
      if !found.has "s" then Tool.putLine path

end TaskRunner.Shell.Utility
