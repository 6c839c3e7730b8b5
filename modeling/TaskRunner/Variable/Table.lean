import Std.Data.TreeMap
import TaskRunner.Error
/- # TaskRunner.Variable.Table -- the values of variables

A value is one text or a list of texts; where a reference stands, a list appears with its items
joined by single spaces.  A table maps names to values, and a later definition replaces an earlier
one. -/

namespace TaskRunner.Variable
set_option autoImplicit false

/-- What a variable holds. -/
inductive Value where
  | scalar (text : String)
  | list (items : List String)
  deriving DecidableEq, Repr

/-- The text that stands for a value. -/
def Value.render : Value → String
  | scalar text => text
  | list items => " ".intercalate items

/-- The variables of a project. -/
structure Table where
  values : Std.TreeMap String Value

namespace Table

def empty : Table := ⟨{}⟩

instance : Inhabited Table := ⟨empty⟩

/-- Gives a name a value, in place of any value it had. -/
def define (table : Table) (name : String) (value : Value) : Table :=
  ⟨table.values.insert name value⟩

/-- The value of a name, if it has one. -/
def get? (table : Table) (name : String) : Option Value := table.values[name]?

/-- The value of a name. -/
def resolve (table : Table) (name : String) : Except ConfigError Value :=
  match table.get? name with
  | some value => .ok value
  | none => .error (.undefinedVariable name)

/-- The defined names, in increasing order. -/
def names (table : Table) : List String := table.values.keys

@[simp] theorem get?_empty (name : String) : empty.get? name = none := by
  simp [empty, get?]

theorem get?_define (table : Table) (name other : String) (value : Value) :
    (table.define name value).get? other = if name = other then some value else table.get? other := by
  simp [define, get?, Std.TreeMap.getElem?_insert]

/-- Definitions made one after the other: the last one of a name counts. -/
theorem get?_foldl_define {α : Type} (key : α → String) (value : α → Value) (items : List α)
    (table : Table) (name : String) :
    (items.foldl (fun table item => table.define (key item) (value item)) table).get? name =
      ((items.reverse.find? fun item => key item = name).map value).or (table.get? name) := by
  induction items generalizing table with
  | nil => rfl
  | cons item items ih =>
    rw [List.foldl_cons, ih, get?_define, List.reverse_cons, List.find?_append]
    cases items.reverse.find? fun item => key item = name with
    | some later => rfl
    | none => by_cases same : key item = name <;> simp [same]

theorem mem_names_iff (table : Table) (name : String) :
    name ∈ table.names ↔ (table.get? name).isSome := by
  simp [names, get?, Std.TreeMap.mem_keys]

end Table
end TaskRunner.Variable
