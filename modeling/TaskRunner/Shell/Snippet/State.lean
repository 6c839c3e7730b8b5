import TaskRunner.Shell.Snippet.Formatting
import TaskRunner.Shell.Snippet.Reader
import TaskRunner.Shell.Tool
/- # TaskRunner.Shell.Snippet.State -- what a snippet works with

Names are kept in scopes, of which each knows the one around it.  What goes wrong is an exception,
which goes up through the functions that are carried out until it is taken care of. -/

namespace TaskRunner.Shell.Snippet
set_option autoImplicit false

/-- The names of a function, or of the whole snippet. -/
structure Scope where
  names : List (String × Value) := []
  parent : Option Nat := none
  /-- The names that belong to the whole snippet. -/
  globals : List String := []
  /-- The names that belong to the functions around. -/
  nonlocals : List String := []
  deriving Inhabited

/-- How far a snippet has been carried out. -/
structure State where
  heap : Heap := {}
  scopes : Std.HashMap Nat Scope := {}
  fresh : Nat := 10
  scope : Nat := 0
  line : Nat := 1
  /-- The functions that are carried out, each with the line that it was called from. -/
  calls : List (String × Nat) := []
  /-- The exceptions that are taken care of, the latest first. -/
  handled : List Value := []
  /-- What the snippet was called with. -/
  arguments : List (List Char)
  /-- How the snippet is named in complaints. -/
  file : String := "<string>"

/-- Why what is carried out is left. -/
inductive Leap where
  /-- An exception, and the functions with the lines where it came from, the outermost first. -/
  | raised (exception : Value) (trace : List (Nat × String))
  | leave | continue
  | give (value : Value)
  /-- The program ends at once. -/
  | stop (status : Nat)

abbrev Run := ExceptT Leap (StateT State Tool)

/-- Carries out work, and says how it ended. -/
def outcome {α : Type} (work : Run α) : Run (Except Leap α) := ExceptT.mk do
  return .ok (← work.run)

/-! ## Exceptions -/

/-- The functions that are carried out with the lines where they are, the outermost first. -/
def trace : Run (List (Nat × String)) := do
  let state ← get
  let names := state.calls.map Prod.fst ++ ["<module>"]
  let lines := state.line :: state.calls.map Prod.snd
  return (lines.zip names).reverse

def raiseValue {α : Type} (exception : Value) : Run α := do throw (.raised exception (← trace))

/-- Raises an exception with a text. -/
def raise {α : Type} (kind problem : String) : Run α :=
  raiseValue (.exception kind [.ofString problem])

/-- The value of a result, or an exception for what is wrong. -/
def orRaise {α : Type} (result : Except Problem α) : Run α := do
  match result with
  | .ok value => return value
  | .error (kind, problem) => raise kind problem

/-- The class of an exception about files. -/
def fileErrorKind : FileError → String
  | .notFound => "FileNotFoundError"
  | .alreadyThere => "FileExistsError"
  | .isDirectory => "IsADirectoryError"
  | .notDirectory => "NotADirectoryError"
  | .denied | .notPermitted => "PermissionError"
  | .brokenPipe => "BrokenPipeError"
  | _ => "OSError"

/-- Raises an exception about files. -/
def raiseFileError {α : Type} (cause : FileError) (names : List Value) : Run α :=
  match cause.condition? with
  | some (number, wording) =>
    let names := match names with
      | [source, target] => [source, .nothing, target]
      | other => other
    raiseValue (.exception (fileErrorKind cause) (.int number :: .ofString wording :: names))
  | none => raise "ValueError" "embedded null byte"

/-! ## What can change -/

def object (number : Nat) : Run (Option Object) := do return (← get).heap[number]?

def setObject (number : Nat) (object : Object) : Run Unit := modify fun state =>
  { state with heap := state.heap.insert number object }

/-- Puts something that can change under a number of its own. -/
def allot (object : Object) : Run Value := do
  let number := (← get).fresh
  modify fun state =>
    { state with fresh := number + 1, heap := state.heap.insert number object }
  return .object number

def newList (items : List Value) : Run Value := allot (.list items.toArray)

def newDict (entries : List (Value × Value)) : Run Value := allot (.dict entries.toArray)

def kindOf (value : Value) : Run String := do return value.kind (← get).heap

def shownText (value : Value) : Run (List Char) := do return value.shown (← get).heap

def reprText (value : Value) : Run (List Char) := do return value.repr (← get).heap

def truth (value : Value) : Run Bool := do return value.isTrue (← get).heap

def equal (a b : Value) : Run Bool := do return a.equals (← get).heap b

/-- The entries of a dictionary with another value for a key. -/
def withEntry (heap : Heap) (entries : Array (Value × Value)) (key value : Value) :
    Array (Value × Value) :=
  match entries.findIdx? fun entry => entry.1.equals heap key with
  | some place => entries.modify place fun entry => (entry.1, value)
  | none => entries.push (key, value)

def entryOf? (heap : Heap) (entries : Array (Value × Value)) (key : Value) : Option Value :=
  (entries.find? fun entry => entry.1.equals heap key).map Prod.snd

/-- The values of a row without those that came before. -/
def distinct (heap : Heap) (values : List Value) : Array Value :=
  values.foldl
    (fun (found : Array Value) value =>
      if found.any (·.equals heap value) then found else found.push value)
    #[]

/-- Refuses what can change as a key. -/
def requireFixed (value : Value) : Run Unit := do
  match value with
  | .object number =>
    match ← object number with
    | some (.list _) | some (.dict _) | some (.set _) =>
      raise "TypeError" s!"unhashable type: '{← kindOf value}'"
    | _ => return ()
  | _ => return ()

/-! ## Names -/

def scopeAt (number : Nat) : Run Scope := do return ((← get).scopes[number]?).getD {}

/-- The value of a name in a scope or in those around it. -/
def lookUp? (scopes : Std.HashMap Nat Scope) (fuel number : Nat) (name : String) : Option Value :=
  match fuel with
  | 0 => none
  | fuel + 1 =>
    match scopes[number]? with
    | none => none
    | some scope =>
      let here := if scope.globals.contains name then none else scope.names.lookup name
      match here, scope.parent with
      | some value, _ => some value
      | none, some parent => lookUp? scopes fuel parent name
      | none, none => none

/-- The scope around a scope that knows a name. -/
def owner? (scopes : Std.HashMap Nat Scope) (fuel number : Nat) (name : String) : Option Nat :=
  match fuel with
  | 0 => none
  | fuel + 1 =>
    match scopes[number]? with
    | none => none
    | some scope =>
      if (scope.names.lookup name).isSome then some number
      else scope.parent.bind fun parent => owner? scopes fuel parent name

def setIn (number : Nat) (name : String) (value : Value) : Run Unit := modify fun state =>
  let scope := (state.scopes[number]?).getD {}
  let names := if (scope.names.lookup name).isSome then
      scope.names.map fun entry => if entry.1 == name then (name, value) else entry
    else (name, value) :: scope.names
  { state with scopes := state.scopes.insert number { scope with names } }

/-- Gives a name a value. -/
def setName (name : String) (value : Value) : Run Unit := do
  let state ← get
  let scope ← scopeAt state.scope
  if scope.globals.contains name then setIn 0 name value
  else if scope.nonlocals.contains name then
    let above := (scope.parent.bind fun parent => owner? state.scopes 1000 parent name).getD 0
    setIn above name value
  else setIn state.scope name value

/-- Takes a name away. -/
def deleteName (name : String) : Run Unit := do
  let state ← get
  let scope ← scopeAt state.scope
  if (scope.names.lookup name).isNone then raise "NameError" s!"name '{name}' is not defined"
  let names := scope.names.filter (·.1 != name)
  set { state with scopes := state.scopes.insert state.scope { scope with names } }

/-! ## Rows of values -/

/-- How many values a row may have. -/
def maxItems : Nat := 10000000

/-- The whole numbers of a range. -/
def rangeItems (start stop step : Int) : List Value :=
  let span := if step > 0 then stop - start else start - stop
  let count := if step == 0 || span ≤ 0 then 0
    else ((span + step.natAbs - 1) / (step.natAbs : Int)).toNat
  (List.range (min count maxItems)).map fun (n : Nat) => Value.int (start + step * (n : Int))

/-- The lines of a file, up to one that is empty. -/
def fileLines (file : OpenFile) (fuel : Nat) (found : List Value) : Run (List Value) := do
  match fuel with
  | 0 => return found.reverse
  | fuel + 1 =>
    match ← (Tool.line? file.number : Tool (Except FileError (Option (Octets × Bool)))) with
    | .error cause => raiseFileError cause []
    | .ok none => return found.reverse
    | .ok (some (line, ended)) =>
      let octets := if ended then line ++ ['\n'] else line
      let value : Value := if file.binary then .bytes octets else .text octets.decode
      fileLines file fuel (value :: found)

/-- The values that a value goes through. -/
def itemsOf (value : Value) : Run (List Value) := do
  match value with
  | .text t => return t.map fun c => .text [c]
  | .bytes octets => return octets.map fun c => .int c.toNat
  | .tuple items => return items
  | .range start stop step => return rangeItems start stop step
  | .object number =>
    match ← object number with
    | some (.list items) | some (.set items) => return items.toList
    | some (.dict entries) => return entries.toList.map Prod.fst
    | some (.iterator kind items) =>
      setObject number (.iterator kind [])
      return items
    | some (.file file) => fileLines file maxItems []
    | _ => raise "TypeError" s!"'{← kindOf value}' object is not iterable"
  | _ => raise "TypeError" s!"'{← kindOf value}' object is not iterable"

/-- Sorts values; `keys` are what they are sorted by. -/
def sorted (keyed : List (Value × Value)) (backwards : Bool) : Run (List Value) := do
  let heap := (← get).heap
  let less (a b : Value) : Option Bool := a.less? heap 10000 b
  let wrong := (keyed.zip (keyed.drop 1)).find? fun (a, b) => (less a.1 b.1).isNone
  match wrong with
  | some (a, b) =>
    raise "TypeError" s!"'<' not supported between instances of '{b.1.kind heap}' and '{
      a.1.kind heap}'"
  | none =>
    let isOrdered (a b : Value × Value) : Bool :=
      if backwards then (less a.1 b.1) != some true else (less b.1 a.1) != some true
    return (keyed.mergeSort isOrdered).map Prod.snd

/-! ## Numbers in calls -/

/-- The whole number that a value is. -/
def wholeOf (value : Value) : Run Int := do
  match value.int? with
  | some n => return n
  | none => raise "TypeError" s!"'{← kindOf value}' object cannot be interpreted as an integer"

/-- How many digits a whole number may have to be written. -/
def maxDigits : Nat := 4300

/-- Refuses to write whole numbers with too many digits. -/
def requireWritable (value : Value) : Run Unit := do
  match value with
  | .int n =>
    -- A number below this power of two has fewer digits than may be.
    if Nat.log2 n.natAbs ≥ 14280 && (Octets.ofNat n.natAbs).length > maxDigits then
      raise "ValueError" s!"Exceeds the limit ({maxDigits} digits) for integer string conversion; use sys.set_int_max_str_digits() to increase the limit"
  | _ => return ()

/-- The name of a file in a value. -/
def pathOf (value : Value) : Run Octets := do
  match value with
  | .text t | .path t =>
    if t.contains '\x00' then raise "ValueError" "embedded null byte"
    else return Octets.ofText (String.ofList t)
  | .bytes octets => return octets
  | _ =>
    raise "TypeError" s!"expected str, bytes or os.PathLike object, not {← kindOf value}"

/-- A text that was read. -/
def ofOctets (octets : Octets) : Value := .text octets.decode

/-- The octets of a text. -/
def toOctets (text : List Char) : Octets := Octets.ofText (String.ofList text)

end TaskRunner.Shell.Snippet
