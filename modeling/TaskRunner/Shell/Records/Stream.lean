import TaskRunner.Shell.Records.State
/- # TaskRunner.Shell.Records.Stream -- what a script for records reads and writes

The input are the files that the operands name.  Other files and the commands of pipes are opened when
they are used first, and stay open until they are closed. -/

namespace TaskRunner.Shell.Records
set_option autoImplicit false

/-- Starts a shell for a command. -/
def launch (streams : List (Nat × Nat)) (shell : String) (command : Octets) : Tool Nat := do
  Tool.flush
  let progress ← Tool.progress
  let words := ["-c".toList, command]
  Tool.act (Action.fork streams do
    Action.change fun machine => machine.modifySelf fun record =>
      { record with descriptors := record.descriptors.filter (·.1 < 10) }
    match ← progress.execute {
        path := "/bin/sh".toList, name := shell.toList, arguments := words
        environment := progress.invocation.environment } with
    | .ok ending => return ending
    | .error _ => return .status 127)

/-- The status of a command for a script. -/
def statusOf : Ending → Int
  | .status n => n
  | ending => 128 + ending.toStatus

/-- Opens a pipe with a command at its other end; it is written to, or else read from. -/
def openPipe (writes : Bool) (command : Octets) : Tool (Nat × Nat) := do
  let (reader, writer) ← Tool.act (Action.update Machine.newPipe)
  let (own, other) := if writes then (writer, (0, reader)) else (reader, (1, writer))
  Tool.change (·.hold own)
  let process ← launch [other] "/bin/sh" command
  let number ← Tool.look Action.freeNumber
  Tool.change fun machine => (machine.setDescriptor number own).release own
  return (number, process)

/-- The outlet of a name. -/
def outlet (target : PrintTarget) (name : Octets) : Run Nat := do
  match (← get).outlets.find? (·.name == name) with
  | some found => return found.number
  | none =>
    let add (number : Nat) (process : Option Nat) : Run Nat := do
      modify fun state => { state with outlets := { name, number, process } :: state.outlets }
      return number
    match target with
    | .command =>
      let (number, process) ← (openPipe true name : Tool (Nat × Nat))
      add number (some process)
    | _ =>
      if name == "/dev/stdout".toList || name == ['-'] then return 1
      else if name == "/dev/stderr".toList then return 2
      else
        let mode := if target matches .append then Machine.Mode.append else Machine.Mode.output
        match ← (Tool.act (Action.openFile name mode) : Tool (Except FileError Nat)) with
        | .error cause => refuse s!"cannot open \"{name.toText}\" for output ({cause.wording})"
        | .ok opening =>
          let number ← (Tool.look Action.freeNumber : Tool Nat)
          (Tool.change (·.setDescriptor number opening) : Tool Unit)
          add number none

/-- Writes octets to the output or to an outlet. -/
def emit (target : PrintTarget) (name octets : Octets) : Run Unit := do
  if target matches .output then (Tool.put octets : Tool Unit)
  else
    let number ← outlet target name
    if number == 1 then (Tool.put octets : Tool Unit)
    else
      match ← (Tool.act (Action.write number octets) : Tool (Except FileError Unit)) with
      | .ok _ => return ()
      | .error cause => refuse s!"write failure\n{← Tool.name}: {cause.wording}"

/-- Waits for the process of a stream, and gives its status. -/
def statusOfProcess (process : Option Nat) : Tool Int := do
  match process with
  | some process => return statusOf (← Tool.act (Action.wait process))
  | none => return 0

/-- Closes an outlet. -/
def Outlet.close (outlet : Outlet) : Tool Int := do
  Tool.change (·.close outlet.number)
  statusOfProcess outlet.process

/-- Closes what has a name, and gives the status of a command. -/
def closeNamed (name : Octets) : Run Int := do
  let state ← get
  let mut status : Int := -1
  for outlet in state.outlets do
    if outlet.name == name then status := ← (outlet.close : Tool Int)
  for inlet in state.inlets do
    if inlet.name == name then
      (Tool.closeInput inlet.number : Tool Unit)
      status := ← (statusOfProcess inlet.process : Tool Int)
  modify fun state =>
    { state with
      outlets := state.outlets.filter (·.name != name)
      inlets := state.inlets.filter (·.name != name) }
  return status

/-- The inlet of a name; nothing if it cannot be opened. -/
def inlet? (source : LineSource) (name : Octets) : Run (Option Nat) := do
  match (← get).inlets.find? (·.name == name) with
  | some found => return some found.number
  | none =>
    let add (number : Nat) (process : Option Nat) : Run (Option Nat) := do
      modify fun state => { state with inlets := { name, number, process } :: state.inlets }
      return some number
    match source with
    | .command =>
      let (number, process) ← (openPipe false name : Tool (Nat × Nat))
      add number (some process)
    | _ =>
      match ← (Tool.openInput name : Tool (Except FileError Nat)) with
      | .ok number => add number none
      | .error _ => return none

/-! ## Records -/

/-- Reads the lines of a record that an empty line ends. -/
def readParagraph (fuel number : Nat) (found : List Octets) :
    Tool (Except FileError (Option Octets)) := do
  let whole (found : List Octets) : Option Octets :=
    if found.isEmpty then none else some (Octets.join ['\n'] found.reverse)
  match fuel with
  | 0 => return .ok (whole found)
  | fuel + 1 =>
    match ← Tool.line? number with
    | .error cause => return .error cause
    | .ok none => return .ok (whole found)
    | .ok (some (line, _)) =>
      if line.isEmpty then
        if found.isEmpty then readParagraph fuel number found else return .ok (whole found)
      else readParagraph fuel number (line :: found)

/-- Reads a record that an expression ends. -/
def readUpTo (e : Expression) (number : Nat) : Tool (Except FileError (Option Octets)) := do
  match ← Tool.rest number with
  | .error cause => return .error cause
  | .ok text =>
    let subject : Expression.Subject := { text := text.toArray }
    match (e.all subject).find? fun found => found.start < found.stop with
    | some found =>
      Tool.setUnread number {
        octets := subject.part found.stop subject.size, ended := true }
      return .ok (some (subject.part 0 found.start))
    | none =>
      let text := if text.getLast? == some '\n' then text.dropLast else text
      return .ok (if subject.size == 0 then none else some text)

/-- The next record. -/
def readRecord? (number : Nat) : Run (Option Octets) := do
  let result ← match ← settingText "RS" with
    | [c] => do
      match ← (Tool.line? number c : Tool (Except FileError (Option (Octets × Bool)))) with
      | .ok found => pure (.ok (found.map Prod.fst))
      | .error cause => pure (.error cause)
    | [] => (readParagraph Tool.maxSteps number [] : Tool (Except FileError (Option Octets)))
    | text => do
      let e ← expressionOfText text
      (readUpTo e number : Tool (Except FileError (Option Octets)))
  match result with
  | .ok found => return found
  | .error cause => refuse s!"read error ({cause.wording})"

/-- The name and the value of an operand that gives a variable a value. -/
def operandAssignment? (operand : Octets) : Option (String × Octets) :=
  let name := operand.takeWhile fun c => c.isAlphanum || c == '_'
  match name, operand.drop name.length with
  | c :: _, '=' :: value => if c.isDigit then none else some (Octets.toText name, value)
  | _, _ => none

/-- Gives a variable a value as it is written in an operand. -/
def assign (name : String) (value : Octets) : Run Unit :=
  setVariable name (.read (Token.unescaped (value.length + 1) value))

/-- Opens the next file of the operands, or the input if there is none. -/
def openNext (fuel : Nat) : Run Bool := do
  match fuel with
  | 0 => return false
  | fuel + 1 =>
    let state ← get
    let count := wholeOf (← setting "ARGC").toNumber
    let start (name : Octets) : Run Bool := do
      match ← (Tool.openInput name : Tool (Except FileError Nat)) with
      | .error cause => refuse s!"cannot open \"{name.toText}\" ({cause.wording})"
      | .ok number =>
        modify fun state => { state with input := some number, opened := true }
        setSetting "FILENAME" (.text name)
        setSetting "FNR" (.number 0)
        return true
    if (state.operand : Int) ≥ count then
      if state.opened then return false
      else start ['-']
    else
      set { state with operand := state.operand + 1 }
      let arguments ← arrayOf "ARGV"
      let operand := match (← table arguments).get? (Octets.ofNat state.operand) with
        | some value => value.toOctets "%.6g".toList
        | none => []
      if operand.isEmpty then openNext fuel
      else
        match operandAssignment? operand with
        | some (name, value) =>
          assign name value
          openNext fuel
        | none => start operand

/-- The next record of the input. -/
def nextRecord? (fuel : Nat) : Run (Option Octets) := do
  match fuel with
  | 0 => return none
  | fuel + 1 =>
    match (← get).input with
    | none =>
      let size := (wholeOf (← setting "ARGC").toNumber).toNat
      if ← openNext (size + 2) then nextRecord? fuel else return none
    | some number =>
      match ← readRecord? number with
      | some record =>
        setSetting "NR" (.number ((← setting "NR").toNumber + 1))
        setSetting "FNR" (.number ((← setting "FNR").toNumber + 1))
        return some record
      | none =>
        (Tool.closeInput number : Tool Unit)
        modify fun state => { state with input := none }
        nextRecord? fuel

end TaskRunner.Shell.Records
