import Std.Data.HashMap
import TaskRunner.Shell.Octets
/- # TaskRunner.Shell.Variable -- variables of the shell

A variable holds a text, or an array of texts by number or by key, and has marks that say what may be
done with it and who sees it.  Where one text is wanted of an array it is the one of index zero. -/

namespace TaskRunner.Shell
set_option autoImplicit false

/-- What a variable holds. -/
inductive Value where
  | scalar (text : Octets)
  /-- Texts by number, in increasing order. -/
  | indexed (items : List (Nat × Octets))
  /-- Texts by key, in the order in which they are listed. -/
  | keyed (items : List (Octets × Octets))
  deriving DecidableEq, Repr, Inhabited

namespace Value

/-- The one text of a value. -/
def text? : Value → Option Octets
  | scalar text => some text
  | indexed items => items.lookup 0
  | keyed items => items.lookup ['0']

/-- All texts of a value. -/
def texts : Value → List Octets
  | scalar text => [text]
  | indexed items => items.map (·.2)
  | keyed items => items.map (·.2)

/-- The indices of a value. -/
def keys : Value → List Octets
  | scalar _ => [['0']]
  | indexed items => items.map fun item => Octets.ofNat item.1
  | keyed items => items.map (·.1)

/-- Puts an item among items in increasing order. -/
def insertNumber (n : Nat) (text : Octets) : List (Nat × Octets) → List (Nat × Octets)
  | [] => [(n, text)]
  | (m, other) :: rest =>
    if n < m then (n, text) :: (m, other) :: rest
    else if n == m then (n, text) :: rest
    else (m, other) :: insertNumber n text rest

/-- How many places the listing of keys has. -/
def placeCount : Nat := 1024

/-- The place of a key in the listing: a product of its octets and a prime, modulo the number of
places. -/
def place (key : Octets) : Nat :=
  key.foldl (fun n c => ((n * 16777619) % 4294967296) ^^^ c.toNat) 2166136261 % placeCount

/-- Puts an item where its key is listed: by place, and at one place the latest first. -/
def insertKey (key text : Octets) (items : List (Octets × Octets)) : List (Octets × Octets) :=
  if items.any (·.1 == key) then
    items.map fun item => if item.1 == key then (key, text) else item
  else
    let before := items.takeWhile fun item => place item.1 < place key
    before ++ (key, text) :: items.drop before.length

/-- The items of a value by number. -/
def toIndexed : Value → List (Nat × Octets)
  | scalar text => [(0, text)]
  | indexed items => items
  | keyed items => items.filterMap fun (key, text) => (Octets.natural? key).map (·, text)

/-- The number behind the last item. -/
def next (value : Value) : Nat := ((value.toIndexed.getLast?).map (·.1 + 1)).getD 0

end Value

/-- A variable. -/
structure Variable where
  value : Option Value := none
  exported : Bool := false
  readOnly : Bool := false
  /-- Whether what is assigned is calculated first. -/
  integer : Bool := false
  /-- Whether letters are put into one case. -/
  upper : Bool := false
  lower : Bool := false
  /-- Whether the variable stands for the one that it names. -/
  reference : Bool := false
  deriving Inhabited

/-- The variables of a process. -/
abbrev Variables := Std.HashMap Octets Variable

namespace Variables

def find (bindings : Variables) (name : Octets) : Variable := (bindings[name]?).getD {}

/-- The text of a variable, if it has one. -/
def text? (bindings : Variables) (name : Octets) : Option Octets :=
  ((bindings[name]?).bind (·.value)).bind Value.text?

/-- The text of a variable, empty if it has none. -/
def text (bindings : Variables) (name : Octets) : Octets := (bindings.text? name).getD []

/-- The text of an element. -/
def element? (bindings : Variables) (name index : Octets) : Option Octets :=
  match (bindings.find name).value with
  | some (.keyed items) => items.lookup index
  | some value => (Octets.natural? index).bind fun n => value.toIndexed.lookup n
  | none => none

def isKeyed (bindings : Variables) (name : Octets) : Bool :=
  match (bindings.find name).value with
  | some (.keyed _) => true
  | _ => false

def setValue (bindings : Variables) (name : Octets) (value : Value) : Variables :=
  bindings.insert name { bindings.find name with value := some value }

/-- Gives a variable a text; of an array it becomes the element zero. -/
def set (bindings : Variables) (name text : Octets) : Variables :=
  let entry := bindings.find name
  let text := if entry.upper then text.map Char.toUpper
    else if entry.lower then text.map Char.toLower else text
  match entry.value with
  | some (.indexed items) => bindings.setValue name (.indexed (Value.insertNumber 0 text items))
  | some (.keyed items) => bindings.setValue name (.keyed (Value.insertKey ['0'] text items))
  | _ => bindings.setValue name (.scalar text)

/-- Gives an element a text. -/
def setElement (bindings : Variables) (name index text : Octets) : Variables :=
  match (bindings.find name).value with
  | some (.keyed items) => bindings.setValue name (.keyed (Value.insertKey index text items))
  | value =>
    let items := (value.map Value.toIndexed).getD []
    bindings.setValue name
      (.indexed (Value.insertNumber ((Octets.natural? index).getD 0) text items))

/-- Takes an element away. -/
def eraseElement (bindings : Variables) (name index : Octets) : Variables :=
  match (bindings.find name).value with
  | some (.keyed items) =>
    bindings.setValue name (.keyed (items.filter (·.1 != index)))
  | some value =>
    let n := Octets.natural? index
    bindings.setValue name (.indexed (value.toIndexed.filter fun item => some item.1 != n))
  | none => bindings

/-- The name that a name stands for. -/
def target (bindings : Variables) (name : Octets) : Octets :=
  match if (bindings.find name).reference then bindings.text? name else none with
  | some other => other
  | none => name

/-- The variables that other programs see, with their texts. -/
def environment (bindings : Variables) : List (Octets × Octets) :=
  bindings.fold
    (fun found name entry =>
      match entry.exported, entry.value.bind Value.text? with
      | true, some text => (name, text) :: found
      | _, _ => found)
    []

end Variables
end TaskRunner.Shell
