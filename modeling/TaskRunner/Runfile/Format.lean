import TaskRunner.Json.Basic
import TaskRunner.Runfile.Schema
import TaskRunner.Yaml.Node.Builder
import TaskRunner.Yaml.Resolution
/- # TaskRunner.Runfile.Format -- Runfiles in JSON and in YAML

In JSON a text is a string and nothing else, and an optional field holds nothing where it is null.

In YAML a field that wants a text takes the text of any scalar, whatever it would stand for
elsewhere, and a field that wants a list or a record takes nothing at all for an empty one.  The
value of a variable may be a text or a list, so there a scalar must really stand for a text. -/

namespace TaskRunner
set_option autoImplicit false

namespace Runfile

/-! ## JSON -/

/-- The text or list of texts that a JSON value is. -/
def jsonVariable? : Json → Option Variable.Value
  | .string text => some (.scalar text)
  | .array items => (items.mapM Json.string?).map .list
  | _ => none

def jsonEntries? : Json → Option (List (String × Json))
  | .object fields => some fields
  | _ => none

def jsonFormat : Format Json where
  text? := Json.string?
  bool? := Json.bool?
  items? := Json.array?
  entries? := jsonEntries?
  positions? := Json.array?
  optional? content := some (if content.isNull then none else some content)
  assigned? := jsonVariable?

/-- The Runfile that a JSON value holds. -/
def ofJson? (content : Json) : Option Runfile := jsonFormat.runfile? content

/-! ## YAML -/

open Yaml

/-- The text of a scalar, whatever it stands for. -/
def yamlText? : Yaml.Value → Option String
  | .scalar _ _ text => some text
  | _ => none

/-- The truth value of a plain scalar, or of a literal block that is tagged as one. -/
def yamlBool? : Yaml.Value → Option Bool
  | .scalar _ .plain text => Resolution.bool? text
  | .scalar tag .literal text =>
    if tag == some (commonTag "bool") then Resolution.bool? text else none
  | _ => none

def yamlItems? : Yaml.Value → Option (List Yaml.Value)
  | .sequence _ items => some items
  | .scalar _ .plain "" => some []
  | _ => none

def yamlEntries? : Yaml.Value → Option (List (String × Yaml.Value))
  | .mapping _ entries => entries.mapM fun (key, content) => (yamlText? key).map (·, content)
  | .scalar _ .plain "" => some []
  | _ => none

/-- A plain scalar that is empty or spelt like null is nothing.  One that is tagged as null must be
spelt like it. -/
def yamlOptional? (content : Yaml.Value) : Option (Option Yaml.Value) :=
  match content with
  | .scalar none .plain text =>
    some (if text.isEmpty || Resolution.isNull text then none else some content)
  | .scalar (some tag) .plain text =>
    if tag == commonTag "null" then
      if Resolution.isNull text then some none else none
    else some (some content)
  | _ => some (some content)

def yamlVariable? (content : Yaml.Value) : Option Variable.Value :=
  match content with
  | .sequence tag items =>
    if isLocalTag tag then none else (items.mapM Yaml.Value.string?).map .list
  | .mapping _ _ => none
  | .scalar _ _ _ => content.string?.map .scalar

def yamlFormat : Format Yaml.Value where
  text? := yamlText?
  bool? := yamlBool?
  items? := yamlItems?
  entries? := yamlEntries?
  positions? _ := none
  optional? := yamlOptional?
  assigned? := yamlVariable?

/-- The depth to which the nodes of a Runfile are nested: five levels, each reached by a reference
at most. -/
def yamlDepth : Nat := 10

/-- Reads a Runfile from YAML.  A text without a document declares nothing. -/
def ofYaml? (text : String) : Option Runfile := do
  match ← Content.ofText? text with
  | .nothing => return {}
  | .document document => yamlFormat.runfile? (← document.value? yamlDepth)

end Runfile
end TaskRunner
