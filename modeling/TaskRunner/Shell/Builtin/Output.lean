import TaskRunner.Shell.Builtin.Basic
import TaskRunner.Shell.Condition
import TaskRunner.Shell.Printing
/- # TaskRunner.Shell.Builtin.Output -- printing, and conditions

What these commands print or decide depends on their arguments alone, and on the files that a
condition asks about. -/

namespace TaskRunner.Shell.Builtin
set_option autoImplicit false

def echo (arguments : List Octets) : Work Unit := do
  if (← Work.process).isExtended then
    printOut (Printing.echoWithOptions Printing.extendedEcho arguments)
  else printOut (Printing.echo arguments)

/-! ## Formats -/

/-- A complaint in the words of the plain dialect. -/
def plainComplaint : Printing.Complaint → String
  | .noNumber text => s!"{text.toText}: expected numeric value"
  | .incomplete text => s!"{text.toText}: not completely converted"
  | .outOfRange text => s!"{text.toText}: Numerical result out of range"
  | .badDirective text => s!"{text.toText}: invalid directive"
  | .noDirective _ => "missing format character"

/-- A complaint in the words of the extended dialect. -/
def extendedComplaint : Printing.Complaint → String
  | .noNumber text | .incomplete text => s!"{text.toText}: invalid number"
  | .outOfRange text => s!"warning: {text.toText}: Numerical result out of range"
  | .badDirective text =>
    s!"\x60{Octets.toText (text.reverse.take 1)}': invalid format character"
  | .noDirective text => s!"\x60{text.toText}': missing format character"

/-- Whether a complaint makes the command fail. -/
def counts (isExtended : Bool) : Printing.Complaint → Bool
  | .outOfRange _ => !isExtended
  | _ => true

/-- The status of a command with complaints. -/
def complaintStatus (isExtended : Bool) (complaints : List Printing.Complaint) : Nat :=
  let isFatal := complaints.any fun
    | .badDirective _ | .noDirective _ => true
    | _ => false
  if isFatal && !isExtended then 2 else if complaints.any (counts isExtended) then 1 else 0

def printf (arguments : List Octets) : Work Unit := do
  let process ← Work.process
  let isExtended := process.isExtended
  let (found, words) ← options (if isExtended then "v:" else "")
    "printf [-v var] format [arguments]" arguments
  match words with
  | [] =>
    if isExtended then
      Work.report "printf: usage: printf [-v var] format [arguments]"
      Work.setStatus 2
    else Work.fail 2 "usage: printf format [arg ...]"
  | format :: arguments =>
    let style := if isExtended then Printing.Style.extended else Printing.Style.plain
    let (text, complaints, _) := Printing.fillIn style format arguments
    complaints.forM fun complaint =>
      Work.complain (if isExtended then extendedComplaint complaint else plainComplaint complaint)
    match found.lookup 'v' with
    | some word =>
      let name := word.takeWhile (· != '[')
      if name.length < word.length then
        Work.assignElement name ((word.drop (name.length + 1)).dropLast) text
      else Work.assign name text
      succeed
    | none => printOut text
    let process ← Work.process
    if process.status == 0 then Work.setStatus (complaintStatus isExtended complaints)

/-! ## Conditions -/

/-- What the conditions of a process look at. -/
def view (process : Process) (machine : Machine) : Condition.View where
  files := machine.files
  place := machine.place
  isSet name := (process.bindings.text? name).isSome || process.bindings.contains name
  hasOption name := process.has (Octets.toText name)

/-- Decides a condition; `closed` asks for a bracket behind it. -/
def test (closed : Bool) (arguments : List Octets) : Work Unit := do
  let process ← Work.process
  let mistaken (text : String) : Work Unit := do
    if process.isExtended then failing 2 text else Work.fail 2 text
  if closed && arguments.getLast? != some [']'] then
    mistaken (if process.isExtended then "missing \x60]'" else "missing ]")
  else
    let words := if closed then arguments.dropLast else arguments
    let view ← Work.look (view process)
    let result := if process.isExtended then Condition.decideExtended view words
      else Condition.decidePlain view words
    match result with
    | .ok holds => answer holds
    | .error fault =>
      mistaken (if process.isExtended then fault.extendedMessage else fault.message)

end TaskRunner.Shell.Builtin
