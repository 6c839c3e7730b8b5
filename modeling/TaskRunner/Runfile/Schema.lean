import TaskRunner.Runfile
/- # TaskRunner.Runfile.Schema -- the shape that a Runfile must have

The schema is the same for every format that can hold a Runfile; a `Format` says how the values of
such a format are looked at.  A record has named fields, each at most once and none that the schema
does not name.  A field that is optional may be left out, and so may a list, which is then empty. -/

namespace TaskRunner.Runfile
set_option autoImplicit false

/-- How the values of a format are looked at.  Each view fails on values that do not have it. -/
structure Format (α : Type) where
  text? : α → Option String
  bool? : α → Option Bool
  items? : α → Option (List α)
  entries? : α → Option (List (String × α))
  /-- The fields of a record that is written without their names, in the order of the schema. -/
  positions? : α → Option (List α)
  /-- What an optional field holds, or that it holds nothing. -/
  optional? : α → Option (Option α)
  /-- What a variable holds. -/
  assigned? : α → Option Variable.Value

/-- A field of a record. -/
structure Field where
  name : String
  /-- Another name that means the same. -/
  other : Option String := none

/-- The fields of a record in their order, of which the first `least` cannot be left out where they
are written without names. -/
structure Record where
  fields : List Field
  least : Nat

namespace Record

/-- The field that a key means. -/
def key? (record : Record) (key : String) : Option String :=
  (record.fields.find? fun field => field.name == key || field.other == some key).map (·.name)

/-- Named fields under the names of the schema, if every key is in it and none is there twice. -/
def ofEntries? {α : Type} (record : Record) (entries : List (String × α)) :
    Option (List (String × α)) := do
  let fields ← entries.mapM fun (key, content) => (record.key? key).map (·, content)
  if (fields.map (·.1)).Nodup then return fields else none

/-- Fields without names under the names of the schema. -/
def ofPositions? {α : Type} (record : Record) (contents : List α) : Option (List (String × α)) :=
  if record.least ≤ contents.length ∧ contents.length ≤ record.fields.length then
    some ((record.fields.map (·.name)).zip contents)
  else none

end Record

namespace Format
variable {α : Type} (format : Format α)

/-- The fields of a record. -/
def record? (record : Record) (content : α) : Option (List (String × α)) :=
  match format.entries? content with
  | some entries => record.ofEntries? entries
  | none => (format.positions? content).bind record.ofPositions?

def texts? (content : α) : Option (List String) :=
  (format.items? content).bind (·.mapM format.text?)

/-- The list in a field, which is empty if the field is left out. -/
def list? {β : Type} (read : α → Option β) (fields : List (String × α)) (name : String) :
    Option (List β) :=
  match fields.lookup name with
  | some content => (format.items? content).bind (·.mapM read)
  | none => some []

/-- The content of an optional field. -/
def option? {β : Type} (read : α → Option β) (fields : List (String × α)) (name : String) :
    Option (Option β) :=
  match fields.lookup name with
  | none => some none
  | some content =>
    match format.optional? content with
    | none => none
    | some none => some none
    | some (some content) => (read content).map some

end Format

/-- A variable has a name and a value. -/
def variableRecord : Record := ⟨[⟨"name", none⟩, ⟨"value", none⟩], 2⟩

/-- The prerequisites of a target may be called its dependencies for short. -/
def targetRecord : Record :=
  ⟨[⟨"name", none⟩, ⟨"prerequisites", some "deps"⟩, ⟨"recipe", none⟩, ⟨"phony", none⟩,
    ⟨"outputs", none⟩, ⟨"description", none⟩], 6⟩

def fileRecord : Record :=
  ⟨[⟨"default", none⟩, ⟨"shell", none⟩, ⟨"variables", none⟩, ⟨"targets", none⟩], 2⟩

namespace Format
variable {α : Type} (format : Format α)

def variableDecl? (content : α) : Option VariableDecl := do
  let fields ← format.record? variableRecord content
  return {
    name := ← format.text? (← fields.lookup "name")
    value := ← format.assigned? (← fields.lookup "value") }

def targetDecl? (content : α) : Option TargetDecl := do
  let fields ← format.record? targetRecord content
  return {
    name := ← format.text? (← fields.lookup "name")
    prerequisites := ← format.list? format.text? fields "prerequisites"
    recipe := ← format.list? format.text? fields "recipe"
    phony := ← format.option? format.bool? fields "phony"
    outputs := ← format.list? format.text? fields "outputs"
    description := ← format.option? format.text? fields "description" }

/-- The Runfile that a value holds. -/
def runfile? (content : α) : Option Runfile := do
  let fields ← format.record? fileRecord content
  return {
    default := ← format.option? format.text? fields "default"
    shell := ← format.option? format.texts? fields "shell"
    definitions := ← format.list? format.variableDecl? fields "variables"
    targets := ← format.list? format.targetDecl? fields "targets" }

end Format
end TaskRunner.Runfile
