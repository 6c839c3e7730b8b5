/- # TaskRunner.Json.Basic -- JSON values

Run records are kept as JSON.  The fields of an object stay in the order in which they are written,
and a field that is written twice is there twice: what a repeated field means is for the reader of a
value to say. -/

namespace TaskRunner
set_option autoImplicit false

/-- A JSON value. -/
inductive Json where
  | null
  | bool (value : Bool)
  /-- The number `mantissa * 10 ^ exponent`. -/
  | number (mantissa exponent : Int)
  | string (text : String)
  /-- A string, or an object one of whose names is such a string, that is written with half of a
  surrogate pair.  No text is meant by it, so it can only be passed over. -/
  | unreadable
  | array (items : List Json)
  | object (fields : List (String × Json))
  deriving BEq, Repr, Inhabited

namespace Json

/-- A whole number. -/
def ofInt (n : Int) : Json := .number n 0

/-- An array of texts. -/
def ofStrings (texts : List String) : Json := .array (texts.map .string)

/-- A text, or null. -/
def ofString? : Option String → Json
  | some text => .string text
  | none => .null

def isNull : Json → Bool
  | .null => true
  | _ => false

def string? : Json → Option String
  | .string text => some text
  | _ => none

def bool? : Json → Option Bool
  | .bool value => some value
  | _ => none

/-- The value as a whole number, if it is written as one. -/
def int? : Json → Option Int
  | .number mantissa 0 => some mantissa
  | _ => none

def array? : Json → Option (List Json)
  | .array items => some items
  | _ => none

/-- An array of texts. -/
def strings? : Json → Option (List String)
  | .array items => items.mapM string?
  | _ => none

/-- The last value written for a field. -/
def field? (name : String) : Json → Option Json
  | .object fields => (fields.reverse.find? (·.1 == name)).map (·.2)
  | _ => none

end Json
end TaskRunner
