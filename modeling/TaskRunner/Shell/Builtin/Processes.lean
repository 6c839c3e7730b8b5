import TaskRunner.Shell.Builtin.Basic
/- # TaskRunner.Shell.Builtin.Processes -- processes and signals

A shell waits for the processes that it started, sends signals, and arranges what is to be done when
one comes.  The number zero stands for the end of the shell. -/

namespace TaskRunner.Shell.Builtin
set_option autoImplicit false

/-! ## Waiting -/

/-- The process that a word names, by its number or its place among those that were started. -/
def jobOf (process : Process) (word : Octets) : Option Nat :=
  match word with
  | ['%', '%'] | ['%', '+'] | ['%'] => process.jobs.getLast?
  | '%' :: digits => (Octets.natural? digits).bind fun n => process.jobs[n - 1]?
  | digits => Octets.natural? digits

/-- Waits until one of some processes has ended, or a signal has come; the flag tells them apart. -/
def awaitAny (children : List Nat) : Work Bool := do
  let self ← Work.look (·.current)
  let isDone (machine : Machine) : Bool := children.any fun child => !machine.isAlive child
  let isCalled (machine : Machine) : Bool :=
    (machine.record? self).any fun record => !record.pending.isEmpty
  Work.act (Action.await fun machine => isDone machine || isCalled machine)
  Work.look isDone

/-- The status of a shell that a signal kept from waiting. -/
def signalStatus : Work Nat := do
  return 128 + (← Work.look fun machine => (machine.self.pending.head?.getD 0))

/-- Waits for a process. -/
def waitFor (child : Nat) : Work Unit := do
  if ← awaitAny [child] then
    let ending ← Work.look fun machine => (Action.endingOf? child machine).getD (.status 127)
    Work.modify fun process => { process with jobs := process.jobs.erase child }
    Work.setStatus ending.toStatus
  else Work.setStatus (← signalStatus)

/-- Waits for all processes of a list. -/
def waitForAll (fuel : Nat) (children : List Nat) : Work Unit :=
  match fuel, children with
  | fuel + 1, child :: rest => do
    if ← awaitAny [child] then waitForAll fuel rest else Work.setStatus (← signalStatus)
  | _, _ => do
    Work.modify fun process => { process with jobs := [] }
    succeed

def wait (arguments : List Octets) : Work Unit := do
  let process ← Work.process
  let (found, words) ← options (if process.isExtended then "fnp:" else "") "wait [-fn] [-p var] [id ...]"
    arguments
  if hasOption found 'n' then
    if process.jobs.isEmpty then Work.setStatus 127
    else if ← awaitAny process.jobs then
      let ended ← Work.look fun machine => process.jobs.find? fun child => !machine.isAlive child
      waitFor (ended.getD 0)
    else Work.setStatus (← signalStatus)
  else if words.isEmpty then waitForAll (process.jobs.length + 1) process.jobs
  else
    words.forM fun word => do
      match jobOf process word with
      | none =>
        if word.head? == some '%' then
          if process.isExtended then failing 127 s!"{word.toText}: no such job"
          else Work.fail 2 s!"No such job: {word.toText}"
        else if process.isExtended then
          failing 1 s!"\x60{word.toText}': not a pid or valid job spec"
        else Work.fail 2 s!"Illegal number: {word.toText}"
      | some child =>
        if process.jobs.contains child then waitFor child
        else if process.isExtended then
          failing 127 s!"pid {child} is not a child of this shell"
        else Work.setStatus 127

/-- Lists the processes that run in the background. -/
def listJobs (arguments : List Octets) : Work Unit := do
  let process ← Work.process
  let (found, _) ← options "lprsnx" "jobs [-lnprs] [jobspec ...]" arguments
  let alive ← Work.look fun machine => process.jobs.filter machine.isAlive
  if hasOption found 'p' then printOut (Octets.unlines (alive.map Octets.ofNat)) else succeed

/-- There is no terminal that a process could be given. -/
def moveJob : Work Unit := do
  if (← Work.process).isExtended then failing 1 "no job control"
  else Work.fail 2 "No current job"

/-! ## Signals -/

/-- The signal that a word names; only the extended dialect knows names with the usual letters in
front. -/
def signalOf (isExtended : Bool) (word : Octets) : Option Nat :=
  let upper := word.map Char.toUpper
  if !isExtended && "SIG".toList.isPrefixOf upper then none
  else if isExtended && upper == "ERR".toList then some errorSignal
  else if isExtended && upper == "DEBUG".toList then some (errorSignal + 1)
  else if isExtended && upper == "RETURN".toList then some (errorSignal + 2)
  else Signal.ofText? word
where
  /-- A number for failures, which can be arranged for like signals. -/
  errorSignal : Nat := 1000

/-- The name of a signal. -/
def signalName (signal : Nat) : String := (Signal.name? signal).getD s!"{signal}"

def killUsage : String := "Usage: kill [-s sigspec | -signum | -sigspec] [pid | job]... or\nkill -l [exitstatus]"

def extendedKillUsage : String :=
  "kill: usage: kill [-s sigspec | -n signum | -sigspec] pid | jobspec ... or kill -l [sigspec]"

def refuseKill : Work Unit := do
  if (← Work.process).isExtended then
    Work.report extendedKillUsage
    Work.setStatus 2
  else Work.fail 2 killUsage

/-- Names signals. -/
def nameSignals (words : List Octets) : Work Unit := do
  let process ← Work.process
  match words with
  | [] =>
    let names := Signal.table.map (·.1)
    let names := if process.isExtended then names else "0" :: names
    printOut (Octets.ofText (String.join (names.map (· ++ "\n"))))
  | word :: _ =>
    match Octets.natural? word with
    | some n =>
      let signal := if n > 128 then n - 128 else n
      match if signal == 0 then none else Signal.name? signal with
      | some name => printOut (Octets.ofText (name ++ "\n"))
      | none =>
        if process.isExtended then failing 1 s!"{word.toText}: invalid signal specification"
        else Work.fail 2 s!"invalid signal number or exit status: {word.toText}"
    | none =>
      if process.isExtended then
        match signalOf true word with
        | some signal => printOut (Octets.ofNat signal ++ ['\n'])
        | none => failing 1 s!"{word.toText}: invalid signal specification"
      else Work.fail 2 s!"Illegal number: {word.toText}"

/-- Sends a signal to the processes that words name. -/
def sendTo (signal : Nat) (words : List Octets) : Work Unit := do
  let process ← Work.process
  if words.isEmpty then refuseKill
  else
    succeed
    words.forM fun word => do
      let missing (n : Octets) : Work Unit := do
        if process.isExtended then failing 1 s!"({n.toText}) - No such process"
        else failing 1 "No such process\n"
      let target := match word with
        | '-' :: digits => jobOf process digits
        | word => jobOf process word
      match target with
      | none =>
        if word.head? == some '%' then
          if process.isExtended then failing 1 s!"{word.toText}: no such job"
          else Work.fail 2 s!"No such job: {word.toText}"
        else if process.isExtended then
          failing 1 s!"{word.toText}: arguments must be process or job IDs"
        else Work.fail 2 s!"Illegal number: {word.toText}"
      | some target =>
        if !(← Work.act (Action.kill target signal)) then missing (Octets.ofNat target)

def kill (arguments : List Octets) : Work Unit := do
  let process ← Work.process
  let invalid (word : Octets) : Work Unit := do
    if process.isExtended then failing 1 s!"{word.toText}: invalid signal specification"
    else Work.fail 2 s!"invalid signal number or name: {word.toText}"
  match arguments with
  | [] => refuseKill
  | ['-', 'l'] :: words => nameSignals words
  | ['-', 's'] :: name :: words | ['-', 'n'] :: name :: words =>
    match signalOf process.isExtended name with
    | some signal =>
      sendTo signal (if words.head? == some ['-', '-'] then words.tail else words)
    | none => invalid name
  | ['-', '-'] :: words => sendTo Signal.terminate words
  | ('-' :: c :: name) :: words =>
    match signalOf process.isExtended (c :: name) with
    | some signal =>
      sendTo signal (if words.head? == some ['-', '-'] then words.tail else words)
    | none =>
      if process.isExtended then invalid (c :: name) else refuseOption c ""
  | words => sendTo Signal.terminate words

/-! ## Arrangements -/

/-- What is arranged for signals, as commands. -/
def arrangements (process : Process) : Octets :=
  let sorted := process.traps.mergeSort fun a b => a.1 ≤ b.1
  sorted.flatMap fun (signal, text) =>
    let name := if process.isExtended && signal != 0 then "SIG" ++ signalName signal
      else signalName signal
    "trap -- ".toList ++
      (if process.isExtended then Quoting.singleEscaped text else Quoting.single text) ++
      ' ' :: Octets.ofText name ++ ['\n']

/-- Arranges for a signal, or leaves it to itself again. -/
def arrange (signal : Nat) (text : Option Octets) : Work Unit := do
  Work.modify fun process =>
    let others := process.traps.filter (·.1 != signal)
    { process with
      traps := match text with
        | some text => (signal, text) :: others
        | none => others }
  if signal != 0 then
    Work.change (·.modifySelf fun record =>
      let ignored := record.ignored.filter (· != signal)
      let caught := record.caught.filter (· != signal)
      match text with
      | some [] => { record with ignored := signal :: ignored, caught }
      | some _ => { record with ignored, caught := signal :: caught }
      | none => { record with ignored, caught })

/-- Arranges for the signals that words name. -/
def arrangeEach (text : Option Octets) (words : List Octets) : Work Unit :=
  match words with
  | [] => succeed
  | word :: rest => do
    let process ← Work.process
    match signalOf process.isExtended word with
    | some signal =>
      arrange signal text
      arrangeEach text rest
    | none =>
      if process.isExtended then
        failing 1 s!"{word.toText}: invalid signal specification"
        let status := (← Work.process).status
        arrangeEach text rest
        Work.setStatus status
      else
        Work.report s!"trap: {word.toText}: bad trap"
        Work.setStatus 1

def trap (arguments : List Octets) : Work Unit := do
  let process ← Work.process
  let (found, words) ← options (if process.isExtended then "lp" else "")
    "trap [-lp] [[arg] signal_spec ...]" arguments
  if hasOption found 'l' then nameSignals []
  else if hasOption found 'p' then
    let wanted := words.filterMap (signalOf true)
    let shown := if words.isEmpty then process
      else { process with traps := process.traps.filter fun entry => wanted.contains entry.1 }
    printOut (arrangements shown)
  else
    match words with
    | [] => printOut (arrangements process)
    | [word] => arrangeEach none [word]
    | text :: signals =>
      if (Octets.natural? text).any (· ≤ 64) then arrangeEach none words
      else arrangeEach (if text == ['-'] then none else some text) signals

/-! ## Limits -/

/-- The time that the shell and its processes have taken. -/
def times : Work Unit := do
  let zero := if (← Work.process).isExtended then "0m0.000s" else "0m0.000000s"
  printOut (Octets.ofText s!"{zero} {zero}\n{zero} {zero}\n")

def limit (arguments : List Octets) : Work Unit := do
  let words := arguments.filter (·.head? != some '-')
  let letters := ((arguments.filter (·.head? == some '-')).flatten).filter (· != '-')
  if words.isEmpty then
    let text := match letters.getLast? with
      | some 'n' => "1048576"
      | some 'c' => "0"
      | some 's' => "8192"
      | _ => "unlimited"
    printOut (Octets.ofText (text ++ "\n"))
  else succeed

end TaskRunner.Shell.Builtin
