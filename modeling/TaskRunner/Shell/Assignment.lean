import TaskRunner.Shell.Expansion
/- # TaskRunner.Shell.Assignment -- giving variables their values

A variable is given the text of a word, or the elements of an array.  What is assigned in front of a
command holds for its duration. -/

namespace TaskRunner.Shell.Assign
set_option autoImplicit false

variable (substitution : Substitution)

/-- The elements of an array by number, put behind those that it has. -/
def indexedElements (name : Octets) (next : Nat) (items : List (Nat × Octets)) :
    List Element → Work (List (Nat × Octets))
  | [] => return items
  | .mk index value :: rest => do
    if index.isEmpty then
      let texts ← Expansion.arguments substitution value
      let items := (texts.zipIdx next).foldl
        (fun items (text, n) => Value.insertNumber n text items) items
      indexedElements name (next + texts.length) items rest
    else
      let text ← Expansion.single substitution value
      let n := (← Work.calculate (← Expansion.single substitution index)).toNat
      indexedElements name (n + 1) (Value.insertNumber n text items) rest

/-- The elements of an array by key, put to those that it has. -/
def keyedElements (items : List (Octets × Octets)) :
    List Element → Work (List (Octets × Octets))
  | [] => return items
  | .mk [] key :: .mk [] value :: rest => do
    let key ← Expansion.single substitution key
    let value ← Expansion.single substitution value
    keyedElements (Value.insertKey key value items) rest
  | .mk index value :: rest => do
    let key ← Expansion.single substitution index
    let value ← Expansion.single substitution value
    keyedElements (Value.insertKey key value items) rest

/-- Gives an array its elements. -/
def array (name : Octets) (appends : Bool) (elements : List Element) : Work Unit := do
  let bindings := (← Work.process).bindings
  let name := bindings.target name
  let before := (bindings.find name).value
  let value ← match before with
    | some (.keyed items) => do
      pure (Value.keyed (← keyedElements substitution (if appends then items else []) elements))
    | before => do
      let items := if appends then (before.map Value.toIndexed).getD [] else []
      let next := ((items.getLast?).map (·.1 + 1)).getD 0
      pure (Value.indexed (← indexedElements substitution name next items elements))
  Work.modify fun process => { process with bindings := process.bindings.setValue name value }

/-- An assignment whose words are expanded. -/
structure Ready where
  name : Octets
  /-- The index of the element that is meant, if it is one. -/
  index : Option Octets := none
  appends : Bool := false
  text : Octets := []
  /-- The elements, if the assignment is of an array. -/
  elements : Option (List Element) := none

/-- Expands the words of an assignment. -/
def expand : Assignment → Work Ready
  | .mk name index appends value isArray elements => do
    let index ← if index.isEmpty then pure none else do
      pure (some (← Expansion.single substitution index))
    if isArray then return { name, index, appends, elements := some elements }
    else return { name, index, appends, text := ← Expansion.assigned substitution value }

/-- The text that a report shows of an assignment. -/
def Ready.shown (ready : Ready) (quote : Octets → Octets) : Octets :=
  let index := match ready.index with
    | some index => '[' :: index ++ [']']
    | none => []
  let sign := if ready.appends then ['+', '='] else ['=']
  match ready.elements with
  | none => ready.name ++ index ++ sign ++ quote ready.text
  | some elements =>
    let shownWord (word : Word) : Octets := word.flatMap fun
      | .text true octets => '"' :: octets ++ ['"']
      | .text false octets => octets
      | _ => []
    let words := elements.map fun
      | .mk [] value => shownWord value
      | .mk index value => '[' :: shownWord index ++ ']' :: '=' :: shownWord value
    ready.name ++ index ++ sign ++ '(' :: Octets.join [' '] words ++ [')']

/-- The value that an assignment adds to: of a number it is the sum. -/
def joined (process : Process) (name : Octets) (before text : Octets) : Octets :=
  if (process.bindings.find (process.bindings.target name)).integer then
    (if before.isEmpty then ['0'] else before) ++ '+' :: text
  else before ++ text

/-- Carries out an assignment. -/
def apply (ready : Ready) : Work Unit := do
  let process ← Work.process
  match ready.elements, ready.index with
  | some elements, _ =>
    if (process.bindings.find ready.name).readOnly then Work.refuse ready.name
    else array substitution ready.name ready.appends elements
  | none, none =>
    let before := if ready.appends then process.bindings.text ready.name else []
    Work.assign ready.name
      (if ready.appends then joined process ready.name before ready.text else ready.text)
  | none, some index =>
    if ready.appends then
      let key ← Work.indexOf ready.name index
      let before := (process.bindings.element? ready.name key).getD []
      Work.assignElement ready.name index (joined process ready.name before ready.text)
    else Work.assignElement ready.name index ready.text

/-- Carries out assignments, one after the other. -/
def all (assignments : List Assignment) : Work (List Ready) := do
  assignments.mapM fun assignment => do
    let ready ← expand substitution assignment
    apply substitution ready
    return ready

/-- Makes a variable one that other programs see. -/
def makeVisible (name : Octets) : Work Unit := Work.modify fun process =>
  { process with
    bindings := process.bindings.insert name { process.bindings.find name with exported := true } }

/-- Carries out assignments for the time of some work, for which the variables can be seen by other
programs; the work is given the assignments. -/
def during (assignments : List Assignment) (work : List Ready → Work Unit) : Work Unit := do
  if assignments.isEmpty then work []
  else
    let before := (← Work.process).bindings
    let names := assignments.map fun
      | .mk name _ _ _ _ _ => name
    let values := names.map fun name => (name, before[name]?)
    Work.restoring (fun _ after => after.restore values) do
      let ready ← assignments.mapM fun assignment => do
        let ready ← expand substitution assignment
        apply substitution ready
        makeVisible ready.name
        return ready
      work ready

end TaskRunner.Shell.Assign
