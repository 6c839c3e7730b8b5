import TaskRunner.Shell.Records.Formatting
import TaskRunner.Shell.Records.Reader
import TaskRunner.Shell.Tool
/- # TaskRunner.Shell.Records.State -- what a script for records works with

A name stands for a value or for an array.  One that was not used yet can become either: so an array
that is given to a function before anything is in it is the same array inside and outside.  The record
and its fields follow each other. -/

namespace TaskRunner.Shell.Records
set_option autoImplicit false

/-- What a name stands for. -/
inductive Slot where
  | value (value : Value)
  | array (number : Nat)
  /-- Nothing yet; it becomes this array if it becomes one. -/
  | undecided (number : Nat)
  deriving Inhabited

/-- The elements of an array, each with the moment when it was used last. -/
structure Table where
  elements : Std.HashMap Octets (Nat × Value) := {}
  clock : Nat := 0
  deriving Inhabited

namespace Table

def size (table : Table) : Nat := table.elements.size

def get? (table : Table) (key : Octets) : Option Value := (table.elements[key]?).map Prod.snd

def put (table : Table) (key : Octets) (value : Value) : Table :=
  { elements := table.elements.insert key (table.clock, value), clock := table.clock + 1 }

def erase (table : Table) (key : Octets) : Table :=
  { table with elements := table.elements.erase key }

/-- Where a key belongs. -/
def placeOf (key : Octets) : Nat :=
  key.foldl (fun hash c => ((hash ^^^ (c.toNat % 256)) * 16777619) % 4294967296) 2166136261

/-- How many rows an array has: more when they have become long. -/
def rows (fuel count size : Nat) : Nat :=
  match fuel with
  | 0 => count
  | fuel + 1 => if size > 12 * count then rows fuel (2 * count) size else count

/-- The keys row by row, in each row the one that was used last in front. -/
def keys (table : Table) : List Octets :=
  let count := rows 32 64 table.size
  let entries := table.elements.toList.map fun (key, used, _) => (placeOf key % count, used, key)
  let sorted := entries.mergeSort fun (row, used, _) (row', used', _) =>
    row < row' || (row == row' && used ≥ used')
  sorted.map fun (_, _, key) => key

end Table

/-- What is written somewhere else than to the output. -/
structure Outlet where
  name : Octets
  number : Nat
  /-- The process that reads it. -/
  process : Option Nat := none

/-- What lines are read from besides the input. -/
structure Inlet where
  name : Octets
  number : Nat
  process : Option Nat := none

/-- How far a script has been carried out. -/
structure RunState where
  script : Script
  names : Std.HashMap String Slot := {}
  /-- The names of the function that is carried out. -/
  frame : List (String × Slot) := []
  arrays : Std.HashMap Nat Table := {}
  fresh : Nat := 0
  record : Octets := []
  fields : Array Value := #[]
  /-- The file that is read. -/
  input : Option Nat := none
  /-- The operand that comes next. -/
  operand : Nat := 1
  /-- Whether anything was opened as input. -/
  opened : Bool := false
  outlets : List Outlet := []
  inlets : List Inlet := []
  /-- The expressions of texts. -/
  expressions : Std.HashMap Octets Expression := {}
  /-- Whether each rule with a first and a last record is between them. -/
  between : Array Bool := #[]
  status : Nat := 0
  seed : Nat := 0
  random : Nat := 1

/-- Why what is carried out is left. -/
inductive Leap where
  | leave | continue | next | nextFile | exit
  | give (value : Value)
  /-- Nothing more is carried out. -/
  | stop

abbrev Run := ExceptT Leap (StateT RunState Tool)

/-! ## Names -/

def slot (name : String) : Run Slot := do
  let state ← get
  match state.frame.lookup name with
  | some found => return found
  | none => return (state.names[name]?).getD (.value .unset)

def setSlot (name : String) (found : Slot) : Run Unit := modify fun state =>
  if (state.frame.lookup name).isSome then
    { state with
      frame := state.frame.map fun entry => if entry.1 == name then (name, found) else entry }
  else { state with names := state.names.insert name found }

/-- The value of a variable that the program itself uses. -/
def setting (name : String) : Run Value := do
  match ((← get).names[name]?).getD (.value .unset) with
  | .value value => return value
  | _ => return .unset

def settingText (name : String) : Run Octets := do
  return (← setting name).toOctets "%.6g".toList

def setSetting (name : String) (value : Value) : Run Unit := modify fun state =>
  { state with names := state.names.insert name (.value value) }

/-- A value as a text. -/
def textOf (value : Value) : Run Octets := do
  match value with
  | .number n => return textOfNumber (← settingText "CONVFMT") n
  | other => return other.toOctets []

/-- Carries out work, and says how it ended. -/
def outcome {α : Type} (work : Run α) : Run (Except Leap α) := ExceptT.mk do
  return .ok (← work.run)

/-- Ends the program because of something that only shows when the script is carried out. -/
def fault {α : Type} (problem : String) : Run α := do
  let name := (← settingText "FILENAME").toText
  let ofFile := (← settingText "FNR").toText
  let count := (← settingText "NR").toText
  (Tool.reportAhead s!"{← Tool.name}: run time error: {problem}\n\tFILENAME=\"{name}\" FNR={
    ofFile} NR={count}" : Tool Unit)
  modify fun state => { state with status := 2 }
  throw .stop

/-- Ends the program with a complaint. -/
def refuse {α : Type} (problem : String) : Run α := do
  (Tool.reportAhead s!"{← Tool.name}: {problem}" : Tool Unit)
  modify fun state => { state with status := 2 }
  throw .stop

/-! ## Fields -/

/-- What stands between fields. -/
inductive Separator where
  | blanks
  /-- Nothing: every octet is a field. -/
  | nothing
  | octet (c : Char)
  | expression (expression : Expression)

/-- The expression of a text. -/
def expressionOfText (text : Octets) : Run Expression := do
  match (← get).expressions[text]? with
  | some found => return found
  | none =>
    match expressionOf text with
    | .ok found =>
      modify fun state => { state with expressions := state.expressions.insert text found }
      return found
    | .error message => refuse s!"regular expression compile failed ({message})\n{text.toText}"

def separatorOf (text : Octets) : Run Separator := do
  match text with
  | [] => return .nothing
  | [' '] => return .blanks
  | [c] => return .octet c
  | _ => return .expression (← expressionOfText text)

/-- The parts of a text between the matches of an expression. -/
def cutAround (e : Expression) (text : Octets) : List Octets :=
  let subject : Expression.Subject := { text := text.toArray }
  let matched := (e.all subject).filter fun found => found.start < found.stop
  let starts := 0 :: matched.map (·.stop)
  let stops := matched.map (·.start) ++ [subject.size]
  (starts.zip stops).map fun (start, stop) => subject.part start stop

def cut (separator : Separator) (text : Octets) : List Octets :=
  if text.isEmpty then []
  else match separator with
    | .blanks => text.words
    | .nothing => text.map fun c => [c]
    | .octet c => text.splitAt c
    | .expression e => cutAround e text

/-- The fields of a record. -/
def fieldsOf (text : Octets) : Run (Array Value) := do
  let separator ← separatorOf (← settingText "FS")
  let parts : List Octets := match separator with
    | .blanks => cut .blanks text
    | other => if text.isEmpty then [] else [text].flatMap (cut other)
  if (← settingText "RS").isEmpty then
    let lines : List Octets := text.splitAt '\n'
    let parts := lines.flatMap fun line =>
      match separator with
      | .blanks => cut .blanks line
      | other => if line.isEmpty then [[]] else cut other line
    return (if text.isEmpty then #[] else parts.toArray.map Value.read)
  else return parts.toArray.map Value.read

def setRecord (text : Octets) : Run Unit := do
  let fields ← fieldsOf text
  modify fun state => { state with record := text, fields }

/-- Makes the record from its fields. -/
def joinFields : Run Unit := do
  let between ← settingText "OFS"
  let format ← settingText "CONVFMT"
  modify fun state =>
    { state with
      record := Octets.join between (state.fields.toList.map (Value.toOctets format)) }

/-- Gives the record a number of fields. -/
def setFieldCount (count : Nat) : Run Unit := do
  modify fun state =>
    let kept := state.fields.extract 0 count
    { state with fields := kept ++ Array.replicate (count - kept.size) .unset }
  joinFields

def field (number : Nat) : Run Value := do
  let state ← get
  if number == 0 then return .read state.record
  else return (state.fields[number - 1]?).getD .unset

def setField (number : Nat) (value : Value) : Run Unit := do
  if number == 0 then setRecord (← textOf value)
  else
    let count := (← get).fields.size
    if number > count then setFieldCount number
    modify fun state => { state with fields := state.fields.setIfInBounds (number - 1) value }
    joinFields

/-! ## Variables and arrays -/

def variableValue (name : String) : Run Value := do
  if name == "NF" then return .ofNat (← get).fields.size
  else
    match ← slot name with
    | .value value => return value
    | _ => return .unset

def setVariable (name : String) (value : Value) : Run Unit := do
  if name == "NF" then setFieldCount (wholeOf value.toNumber).toNat
  else setSlot name (.value value)

/-- The number of an array that is new. -/
def freshArray : Run Nat := do
  let number := (← get).fresh
  modify fun state => { state with fresh := number + 1 }
  return number

/-- The number of the array that a name stands for. -/
def arrayOf (name : String) : Run Nat := do
  match ← slot name with
  | .array number => return number
  | .undecided number =>
    setSlot name (.array number)
    return number
  | .value .unset =>
    let number ← freshArray
    setSlot name (.array number)
    return number
  | .value _ => refuse s!"line 1: illegal reference to variable {name}"

def table (number : Nat) : Run Table := do return ((← get).arrays[number]?).getD {}

def setTable (number : Nat) (table : Table) : Run Unit := modify fun state =>
  { state with arrays := state.arrays.insert number table }

/-- The value of an element, which is made if there is none. -/
def element (number : Nat) (key : Octets) : Run Value := do
  let found ← table number
  let value := (found.get? key).getD .unset
  setTable number (found.put key value)
  return value

def setElement (number : Nat) (key : Octets) (value : Value) : Run Unit := do
  setTable number ((← table number).put key value)

/-- What a target stands for once its parts are worked out. -/
inductive Place where
  | variable (name : String)
  | field (number : Nat)
  | element (array : Nat) (key : Octets)

namespace Place

def value (place : Place) : Run Value :=
  match place with
  | .variable name => variableValue name
  | .field number => Records.field number
  | .element array key => Records.element array key

def set (place : Place) (value : Value) : Run Unit :=
  match place with
  | .variable name => setVariable name value
  | .field number => setField number value
  | .element array key => setElement array key value

end Place

/-! ## Operators -/

/-- What is left of a number when another one is taken from it as often as it goes. -/
def restOf (a b : Float) : Float :=
  match Fraction.ofFloat a, Fraction.ofFloat b with
  | .finite negative m e, .finite _ m' e' =>
    let (n, d) := Fraction.ratio m e
    let (n', d') := Fraction.ratio m' e'
    if n' == 0 then 0.0 / 0.0
    else
      (Fraction.ofRatio Fraction.doubleBits negative ((n * d') % (n' * d)) (d * d')).toFloat
  | .finite _ _ _, .infinite _ => a
  | _, _ => 0.0 / 0.0

def Arithmetic.apply (operator : Arithmetic) (a b : Float) : Float :=
  match operator with
  | .add => a + b
  | .subtract => a - b
  | .multiply => a * b
  | .divide => a / b
  | .remainder => restOf a b
  | .power => Float.pow a b

def holds (comparison : Comparison) (less equal : Bool) : Bool :=
  match comparison with
  | .less => less
  | .atMost => less || equal
  | .equal => equal
  | .different => !equal
  | .atLeast => !less
  | .greater => !less && !equal

def compare (comparison : Comparison) (a b : Value) : Run Bool := do
  if a.isNumeric && b.isNumeric then
    return holds comparison (a.toNumber < b.toNumber) (a.toNumber == b.toNumber)
  else
    let s ← textOf a
    let t ← textOf b
    return holds comparison (s != t && Octets.isOrdered s t) (s == t)

/-- A number towards zero. -/
def truncated (number : Float) : Float :=
  if number < 0 then number.ceil else number.floor

/-- Whether a text has a match of an expression. -/
def matchesIn (e : Expression) (text : Octets) : Bool := e.matchesIn { text := text.toArray }

end TaskRunner.Shell.Records
