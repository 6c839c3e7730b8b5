import TaskRunner.Shell.Snippet.State
/- # TaskRunner.Shell.Snippet.Method -- what values can do

The functions that belong to texts, rows, dictionaries and files, and those that stand for
themselves. -/

namespace TaskRunner.Shell.Snippet
set_option autoImplicit false

/-! ## Texts -/

def isBlankChar (c : Char) : Bool := c.isWhitespace || c == '\x0b' || c == '\x0c'

/-- Where a text is in another one, from a place on. -/
def placeOf? (part : List Char) (fuel place : Nat) (text : List Char) : Option Nat :=
  match fuel with
  | 0 => none
  | fuel + 1 =>
    if part.isPrefixOf text then some place
    else
      match text with
      | [] => none
      | _ :: rest => placeOf? part fuel (place + 1) rest

def findIn? (part text : List Char) : Option Nat := placeOf? part (text.length + 1) 0 text

/-- The parts of a text around another one, of which so many are looked for. -/
def splitAround (mark : List Char) (fuel : Nat) (text : List Char) : List (List Char) :=
  match fuel with
  | 0 => [text]
  | fuel + 1 =>
    match findIn? mark text with
    | none => [text]
    | some place => text.take place :: splitAround mark fuel (text.drop (place + mark.length))

/-- The words of a text, of which the last one has the rest. -/
def splitBlanks (fuel : Nat) (text : List Char) : List (List Char) :=
  let text := text.dropWhile isBlankChar
  if text.isEmpty then []
  else
    match fuel with
    | 0 => [text]
    | fuel + 1 =>
      let word := text.takeWhile (!isBlankChar ·)
      word :: splitBlanks fuel (text.drop word.length)

/-- How often a text is in another one. -/
def countIn (part text : List Char) : Nat :=
  if part.isEmpty then text.length + 1 else (splitAround part (text.length + 1) text).length - 1

/-- A text with another text in place of a part. -/
def replacing (part other : List Char) (count : Nat) (text : List Char) : List Char :=
  if part.isEmpty then
    if count == 0 then text
    else
      let lead := text.take (count - 1)
      other ++ lead.flatMap (fun c => c :: other) ++ text.drop (count - 1)
  else other.intercalate (splitAround part count text)

/-- The lines of a text. -/
def linesOf (keepsEnds : Bool) (fuel : Nat) (text : List Char) : List (List Char) :=
  match fuel, text with
  | 0, _ | _, [] => []
  | fuel + 1, text =>
    let line := text.takeWhile fun c => c != '\n' && c != '\r'
    let rest := text.drop line.length
    let ending := match rest with
      | '\r' :: '\n' :: _ => ['\r', '\n']
      | c :: _ => [c]
      | [] => []
    (if keepsEnds then line ++ ending else line) ::
      linesOf keepsEnds fuel (rest.drop ending.length)

/-- A text whose words begin with capitals. -/
def titled (fresh : Bool) : List Char → List Char
  | [] => []
  | c :: rest =>
    (if fresh then c.toUpper else c.toLower) :: titled (!c.isAlpha) rest

/-- A part of a row between two places, of which one below zero counts from the end. -/
def partBetween {α : Type} (start stop : Option Int) (items : List α) : List α :=
  let size : Int := items.length
  let place (n : Int) : Nat := (if n < 0 then max 0 (n + size) else min n size).toNat
  let first := place (start.getD 0)
  let last := match stop with
    | some n => place n
    | none => items.length
  (items.take last).drop first

/-- What may stand at an end of a text. -/
def endings (value : Value) : Run (List (List Char)) := do
  match value with
  | .text t => return [t]
  | .tuple items => items.mapM fun item => match item with
    | .text t => return t
    | _ => raise "TypeError" "tuple for startswith must only contain str"
  | _ => raise "TypeError" s!"startswith first arg must be str or a tuple of str, not {← kindOf value}"

/-- The text that is given to a function at a place. -/
def textAt (values : List Value) (place : Nat) : Run (List Char) := do
  match values[place]? with
  | some (.text t) => return t
  | some other => raise "TypeError" s!"must be str, not {← kindOf other}"
  | none => raise "TypeError" "missing argument"

/-- The whole number that is given to a function at a place, if there is one. -/
def intAt? (values : List Value) (place : Nat) : Run (Option Int) := do
  match values[place]? with
  | some .nothing | none => return none
  | some value => return some (← wholeOf value)

def textMethods : List String :=
  ["capitalize", "casefold", "center", "count", "encode", "endswith", "find", "format", "index",
    "isalnum", "isalpha", "isdecimal", "isdigit", "islower", "isnumeric", "isspace", "isupper",
    "join", "ljust", "lower", "lstrip", "partition", "removeprefix", "removesuffix", "replace",
    "rfind", "rjust", "rpartition", "rsplit", "rstrip", "split", "splitlines", "startswith", "strip",
    "swapcase", "title", "upper", "zfill"]

/-- A method of a text. -/
def textMethod (self : List Char) (name : String) (values : List Value)
    (named : List (String × Value)) : Run Value := do
  let text (t : List Char) : Run Value := return .text t
  let bool (b : Bool) : Run Value := return .bool b
  let part : Run (List Char) := do
    return partBetween (← intAt? values 1) (← intAt? values 2) self
  let stripSet : Run (Char → Bool) := do
    match values with
    | [] | [.nothing] => return isBlankChar
    | _ => return (← textAt values 0).contains
  let padded (left right : Nat → Nat) : Run Value := do
    let width := ((← intAt? values 0).getD 0).toNat
    let fill ← (if values.length > 1 then textAt values 1 else pure [' '] : Run (List Char))
    let missing := width - self.length
    let c := (fill.head?).getD ' '
    text (List.replicate (left missing) c ++ self ++ List.replicate (right missing) c)
  let texts (found : List (List Char)) : Run Value := newList (found.map Value.text)
  match name with
  | "upper" => text (self.map Char.toUpper)
  | "lower" | "casefold" => text (self.map Char.toLower)
  | "capitalize" => text (self.take 1 |>.map Char.toUpper |> (· ++ (self.drop 1).map Char.toLower))
  | "title" => text (titled true self)
  | "swapcase" => text (self.map fun c => if c.isUpper then c.toLower else c.toUpper)
  | "strip" =>
    let inSet ← stripSet
    text (((self.dropWhile inSet).reverse.dropWhile inSet).reverse)
  | "lstrip" =>
    let inSet ← stripSet
    text (self.dropWhile inSet)
  | "rstrip" =>
    let inSet ← stripSet
    text (self.reverse.dropWhile inSet).reverse
  | "split" =>
    let mark := match values with
      | [] | .nothing :: _ => (named.lookup "sep").getD .nothing
      | mark :: _ => mark
    let most : Option Value := match values with
      | _ :: n :: _ => some n
      | _ => named.lookup "maxsplit"
    let most ← (match most with
      | some n => do
        let n ← wholeOf n
        return (if n < 0 then self.length + 1 else n.toNat)
      | none => pure (self.length + 1) : Run Nat)
    match mark with
    | .text [] => raise "ValueError" "empty separator"
    | .text mark => texts (splitAround mark most self)
    | _ => texts (splitBlanks most self)
  | "rsplit" =>
    match values with
    | .text (c :: mark) :: _ =>
      let most := ((← intAt? values 1).getD (self.length + 1)).toNat
      let found := splitAround (c :: mark).reverse most self.reverse
      texts (found.map List.reverse).reverse
    | _ => texts (splitBlanks (self.length + 1) self)
  | "splitlines" =>
    let keeps ← (match values with
      | [value] => truth value
      | _ => pure false : Run Bool)
    texts (linesOf keeps (self.length + 1) self)
  | "join" =>
    let items ← itemsOf ((values.head?).getD .nothing)
    let mut found : List (List Char) := []
    for (item, n) in items.zipIdx do
      match item with
      | .text t => found := t :: found
      | other =>
        raise "TypeError" s!"sequence item {n}: expected str instance, {← kindOf other} found"
    text (self.intercalate found.reverse)
  | "replace" =>
    let count := match ← intAt? values 2 with
      | some n => if n < 0 then self.length + 1 else n.toNat
      | none => self.length + 1
    text (replacing (← textAt values 0) (← textAt values 1) count self)
  | "startswith" =>
    let here ← part
    let found ← endings ((values.head?).getD .nothing)
    bool (found.any fun t => t.isPrefixOf here)
  | "endswith" =>
    let here ← part
    let found ← endings ((values.head?).getD .nothing)
    bool (found.any fun t => t.isSuffixOf here)
  | "find" | "index" =>
    let start := ((← intAt? values 1).getD 0).toNat
    match findIn? (← textAt values 0) (self.drop start) with
    | some place => return .int (place + start)
    | none =>
      if name == "find" then return .int (-1) else raise "ValueError" "substring not found"
  | "rfind" =>
    let mark ← textAt values 0
    match findIn? mark.reverse self.reverse with
    | some place => return .int ((self.length - place - mark.length : Nat) : Int)
    | none => return .int (-1)
  | "count" => return .int (countIn (← textAt values 0) self)
  | "zfill" =>
    let width := ((← intAt? values 0).getD 0).toNat
    match self with
    | '-' :: rest => text ('-' :: Octets.padStart (width - 1) rest '0')
    | _ => text (Octets.padStart width self '0')
  | "ljust" => padded (fun _ => 0) id
  | "rjust" => padded id (fun _ => 0)
  | "center" => padded (· / 2) (fun n => n - n / 2)
  | "isdigit" | "isdecimal" | "isnumeric" => bool (!self.isEmpty && self.all Char.isDigit)
  | "isalpha" => bool (!self.isEmpty && self.all fun c => c.isAlpha || c.toNat ≥ 192)
  | "isalnum" => bool (!self.isEmpty && self.all fun c => c.isAlphanum || c.toNat ≥ 192)
  | "isspace" => bool (!self.isEmpty && self.all isBlankChar)
  | "isupper" => bool (self.any Char.isUpper && !self.any Char.isLower)
  | "islower" => bool (self.any Char.isLower && !self.any Char.isUpper)
  | "encode" => return .bytes (toOctets self)
  | "partition" =>
    let mark ← textAt values 0
    match findIn? mark self with
    | some place =>
      return .tuple [.text (self.take place), .text mark, .text (self.drop (place + mark.length))]
    | none => return .tuple [.text self, .text [], .text []]
  | "rpartition" =>
    let mark ← textAt values 0
    match findIn? mark.reverse self.reverse with
    | some place =>
      let stop := self.length - place - mark.length
      return .tuple [.text (self.take stop), .text mark, .text (self.drop (stop + mark.length))]
    | none => return .tuple [.text [], .text [], .text self]
  | "removeprefix" =>
    let mark ← textAt values 0
    text (if mark.isPrefixOf self then self.drop mark.length else self)
  | "removesuffix" =>
    let mark ← textAt values 0
    text (if mark.isSuffixOf self then self.take (self.length - mark.length) else self)
  | _ => raise "AttributeError" s!"'str' object has no attribute '{name}'"

def bytesMethods : List String := ["decode", "hex", "strip", "split"]

/-- A method of octets. -/
def bytesMethod (self : Octets) (name : String) : Run Value := do
  match name with
  | "decode" => return ofOctets self
  | "hex" => return .text (self.flatMap fun c => Value.hexadecimal 2 c.toNat)
  | "strip" =>
    return .bytes (((self.dropWhile Octets.isSpace).reverse.dropWhile Octets.isSpace).reverse)
  | "split" => newList ((splitBlanks (self.length + 1) self).map Value.bytes)
  | _ => raise "AttributeError" s!"'bytes' object has no attribute '{name}'"

/-! ## Rows -/

def listMethods : List String :=
  ["append", "clear", "copy", "count", "extend", "index", "insert", "pop", "remove", "reverse",
    "sort"]

/-- The place of a value in a row. -/
def indexOf? (heap : Heap) (items : List Value) (value : Value) : Option Nat :=
  items.findIdx? (·.equals heap value)

/-- A method of a list, other than sorting. -/
def listMethod (number : Nat) (items : Array Value) (name : String) (values : List Value) :
    Run Value := do
  let first : Value := (values.head?).getD .nothing
  let put (items : Array Value) : Run Value := do
    setObject number (.list items)
    return .nothing
  let heap := (← get).heap
  match name with
  | "append" => put (items.push first)
  | "extend" => put (items ++ (← itemsOf first).toArray)
  | "clear" => put #[]
  | "copy" => newList items.toList
  | "reverse" => put items.reverse
  | "count" => return .int (items.toList.countP (·.equals heap first))
  | "index" =>
    match indexOf? heap items.toList first with
    | some place => return .int place
    | none => raise "ValueError" s!"{String.ofList (first.repr heap)} is not in list"
  | "remove" =>
    match indexOf? heap items.toList first with
    | some place => put (items.toList.eraseIdx place).toArray
    | none => raise "ValueError" "list.remove(x): x not in list"
  | "insert" =>
    let n ← wholeOf first
    let size : Int := items.size
    let place := (if n < 0 then max 0 (n + size) else min n size).toNat
    let value : Value := (values[1]?).getD .nothing
    put ((items.toList.take place) ++ value :: items.toList.drop place).toArray
  | "pop" =>
    let n := (← intAt? values 0).getD (-1)
    let place := if n < 0 then n + items.size else n
    if items.isEmpty then raise "IndexError" "pop from empty list"
    else
      match (if place < 0 then none else items[place.toNat]?) with
      | none => raise "IndexError" "pop index out of range"
      | some value =>
        setObject number (.list (items.toList.eraseIdx place.toNat).toArray)
        return value
  | _ => raise "AttributeError" s!"'list' object has no attribute '{name}'"

def setMethods : List String :=
  ["add", "clear", "copy", "difference", "discard", "intersection", "issubset", "pop", "remove",
    "union", "update"]

/-- A method of a set. -/
def setMethod (number : Nat) (items : Array Value) (name : String) (values : List Value) :
    Run Value := do
  let first : Value := (values.head?).getD .nothing
  let heap := (← get).heap
  let has (items : List Value) (value : Value) : Bool := items.any (·.equals heap value)
  let put (items : Array Value) : Run Value := do
    setObject number (.set items)
    return .nothing
  match name with
  | "add" =>
    requireFixed first
    put (if has items.toList first then items else items.push first)
  | "clear" => put #[]
  | "copy" => allot (.set items)
  | "discard" => put (items.filter (!·.equals heap first))
  | "remove" =>
    if has items.toList first then put (items.filter (!·.equals heap first))
    else raiseValue (.exception "KeyError" [first])
  | "pop" =>
    match items.toList with
    | [] => raise "KeyError" "pop from an empty set"
    | value :: rest =>
      setObject number (.set rest.toArray)
      return value
  | _ =>
    let others ← itemsOf first
    match name with
    | "update" => put (distinct heap (items.toList ++ others))
    | "union" => allot (.set (distinct heap (items.toList ++ others)))
    | "intersection" => allot (.set (items.filter (has others ·)))
    | "difference" => allot (.set (items.filter (!has others ·)))
    | "issubset" => return .bool (items.all (has others ·))
    | _ => raise "AttributeError" s!"'set' object has no attribute '{name}'"

def dictMethods : List String :=
  ["clear", "copy", "get", "items", "keys", "pop", "popitem", "setdefault", "update", "values"]

/-- A method of a dictionary. -/
def dictMethod (number : Nat) (entries : Array (Value × Value)) (name : String)
    (values : List Value) (named : List (String × Value)) : Run Value := do
  let first : Value := (values.head?).getD .nothing
  let second? : Option Value := values[1]?
  let heap := (← get).heap
  let put (entries : Array (Value × Value)) : Run Unit := setObject number (.dict entries)
  match name with
  | "get" => return (entryOf? heap entries first).getD (second?.getD .nothing)
  | "keys" => newList (entries.toList.map Prod.fst)
  | "values" => newList (entries.toList.map Prod.snd)
  | "items" => newList (entries.toList.map fun (key, value) => .tuple [key, value])
  | "copy" => newDict entries.toList
  | "clear" =>
    put #[]
    return .nothing
  | "setdefault" =>
    match entryOf? heap entries first with
    | some value => return value
    | none =>
      put (entries.push (first, second?.getD .nothing))
      return second?.getD .nothing
  | "pop" =>
    match entryOf? heap entries first with
    | some value =>
      put (entries.filter fun entry => !entry.1.equals heap first)
      return value
    | none =>
      match second? with
      | some value => return value
      | none => raiseValue (.exception "KeyError" [first])
  | "popitem" =>
    match entries.back? with
    | some (key, value) =>
      put entries.pop
      return .tuple [key, value]
    | none => raise "KeyError" "popitem(): dictionary is empty"
  | "update" =>
    let others ← (match values with
      | .object other :: _ => do
        match ← object other with
        | some (.dict entries) => return entries.toList
        | _ => return []
      | _ => pure [] : Run (List (Value × Value)))
    let others := others ++ named.map fun (name, value) => (Value.ofString name, value)
    put (others.foldl (fun entries (key, value) => withEntry heap entries key value) entries)
    return .nothing
  | _ => raise "AttributeError" s!"'dict' object has no attribute '{name}'"

/-! ## Files -/

def fileMethods : List String :=
  ["close", "fileno", "flush", "isatty", "read", "readable", "readline", "readlines", "write",
    "writelines", "writable"]

/-- Writes octets to a file. -/
def writeTo (file : OpenFile) (octets : Octets) : Run Unit := do
  if file.number == 1 then (Tool.put octets : Tool Unit)
  else
    match ← (Tool.act (Action.write file.number octets) : Tool (Except FileError Unit)) with
    | .ok _ => return ()
    | .error cause => raiseFileError cause []

/-- Writes a value to a file, and gives its size. -/
def writeValue (file : OpenFile) (value : Value) : Run Nat := do
  if !file.isOpen then raise "ValueError" "I/O operation on closed file."
  if !file.writes then raise "UnsupportedOperation" "not writable"
  match value, file.binary with
  | .text t, false =>
    writeTo file (toOctets t)
    return t.length
  | .bytes octets, true =>
    writeTo file octets
    return octets.length
  | other, true =>
    raise "TypeError" s!"a bytes-like object is required, not '{← kindOf other}'"
  | other, false =>
    raise "TypeError" s!"write() argument must be str, not {← kindOf other}"

/-- Closes a file. -/
def closeFile (number : Nat) (file : OpenFile) : Run Unit := do
  if file.isOpen then
    setObject number (.file { file with isOpen := false })
    if file.number > 2 then
      (Tool.closeInput file.number : Tool Unit)

/-- A method of a file. -/
def fileMethod (number : Nat) (file : OpenFile) (name : String) (values : List Value) :
    Run Value := do
  let made (octets : Octets) : Value := if file.binary then .bytes octets else ofOctets octets
  let requireReading : Run Unit := do
    if !file.isOpen then raise "ValueError" "I/O operation on closed file."
    if !file.reads then raise "UnsupportedOperation" "not readable"
  match name with
  | "write" => return .int (← writeValue file ((values.head?).getD .nothing))
  | "writelines" =>
    for value in ← itemsOf ((values.head?).getD .nothing) do
      let _ ← writeValue file value
    return .nothing
  | "flush" =>
    if file.number == 1 then (Tool.flush : Tool Unit)
    return .nothing
  | "close" =>
    closeFile number file
    return .nothing
  | "fileno" => return .int file.number
  | "isatty" => return .bool false
  | "readable" => return .bool file.reads
  | "writable" => return .bool file.writes
  | "read" =>
    requireReading
    match ← (Tool.rest file.number : Tool (Except FileError Octets)) with
    | .error cause => raiseFileError cause []
    | .ok octets =>
      match ← intAt? values 0 with
      | none => return made octets
      | some n =>
        if n < 0 then return made octets
        else
          let count := if file.binary then n.toNat
            else (toOctets (octets.decode.take n.toNat)).length
          (Tool.setUnread file.number { octets := octets.drop count, ended := true } : Tool Unit)
          return made (octets.take count)
  | "readline" =>
    requireReading
    match ← (Tool.line? file.number : Tool (Except FileError (Option (Octets × Bool)))) with
    | .error cause => raiseFileError cause []
    | .ok none => return made []
    | .ok (some (line, ended)) => return made (if ended then line ++ ['\n'] else line)
  | "readlines" =>
    requireReading
    newList (← fileLines file maxItems [])
  | _ => raise "AttributeError" s!"'_io.TextIOWrapper' object has no attribute '{name}'"

end TaskRunner.Shell.Snippet
