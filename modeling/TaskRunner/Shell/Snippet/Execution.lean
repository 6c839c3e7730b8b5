import TaskRunner.Shell.Snippet.Builtin
/- # TaskRunner.Shell.Snippet.Execution -- carrying out snippets

Formulas are worked out from left to right.  A function sees the names of the functions around it, and
what it assigns is its own unless it says otherwise. -/

namespace TaskRunner.Shell.Snippet
set_option autoImplicit false

/-! ## Parts of values -/

/-- The members of a row that a slice says. -/
def sliced {α : Type} (start stop step : Option Int) (items : List α) : List α :=
  let step := step.getD 1
  let size : Int := items.length
  if step == 1 then partBetween start stop items
  else
    let low : Int := if step > 0 then 0 else -1
    let high : Int := if step > 0 then size else size - 1
    let place (n : Int) : Int := max low (min high (if n < 0 then n + size else n))
    let first := match start with
      | some n => place n
      | none => if step > 0 then low else high
    let last := match stop with
      | some n => place n
      | none => if step > 0 then high else low
    let count := if step > 0 then (last - first + step - 1) / step
      else (first - last + (-step) - 1) / (-step)
    (List.range count.toNat).filterMap fun (n : Nat) =>
      let place := first + step * (n : Int)
      if place < 0 then none else items[place.toNat]?

/-- A member of a row. -/
def memberAt {α : Type} (kind : String) (items : List α) (index : Value) : Run α := do
  match index.int? with
  | none => raise "TypeError" s!"{kind} indices must be integers or slices, not {← kindOf index}"
  | some n =>
    let place := if n < 0 then n + items.length else n
    match (if place < 0 then none else items[place.toNat]?) with
    | some item => return item
    | none => raise "IndexError" s!"{kind} index out of range"

/-- An element of a value. -/
def elementOf (value index : Value) : Run Value := do
  match value with
  | .text t => return .text [← memberAt "string" t index]
  | .bytes octets => return .int (← memberAt "index" octets index).toNat
  | .tuple items => memberAt "tuple" items index
  | .range start stop step => memberAt "range object" (rangeItems start stop step) index
  | .object number =>
    match ← object number with
    | some (.list items) => memberAt "list" items.toList index
    | some (.dict entries) =>
      requireFixed index
      match entryOf? (← get).heap entries index with
      | some found => return found
      | none => raiseValue (.exception "KeyError" [index])
    | _ => raise "TypeError" s!"'{← kindOf value}' object is not subscriptable"
  | _ => raise "TypeError" s!"'{← kindOf value}' object is not subscriptable"

/-- A slice of a value. -/
def sliceOf (value : Value) (start stop step : Option Int) : Run Value := do
  if step == some 0 then raise "ValueError" "slice step cannot be zero"
  match value with
  | .text t => return .text (sliced start stop step t)
  | .bytes octets => return .bytes (sliced start stop step octets)
  | .tuple items => return .tuple (sliced start stop step items)
  | .range first last by_ => newList (sliced start stop step (rangeItems first last by_))
  | .object number =>
    match ← object number with
    | some (.list items) => newList (sliced start stop step items.toList)
    | _ => raise "TypeError" s!"'{← kindOf value}' object is not subscriptable"
  | _ => raise "TypeError" s!"'{← kindOf value}' object is not subscriptable"

/-- Gives an element of a value another value. -/
def setElement (value index other : Value) : Run Unit := do
  match value with
  | .object number =>
    match ← object number with
    | some (.list items) =>
      match index.int? with
      | none => raise "TypeError" s!"list indices must be integers or slices, not {← kindOf index}"
      | some n =>
        let place := if n < 0 then n + items.size else n
        if place < 0 || place ≥ items.size then
          raise "IndexError" "list assignment index out of range"
        else setObject number (.list (items.setIfInBounds place.toNat other))
    | some (.dict entries) =>
      requireFixed index
      setObject number (.dict (withEntry (← get).heap entries index other))
    | _ => raise "TypeError" s!"'{← kindOf value}' object does not support item assignment"
  | _ => raise "TypeError" s!"'{← kindOf value}' object does not support item assignment"

/-- Takes an element of a value away. -/
def deleteElement (value index : Value) : Run Unit := do
  match value with
  | .object number =>
    match ← object number with
    | some (.list items) =>
      let _ ← memberAt "list" items.toList index
      let n := (index.int?).getD 0
      let place := if n < 0 then n + items.size else n
      setObject number (.list (items.toList.eraseIdx place.toNat).toArray)
    | some (.dict entries) =>
      let heap := (← get).heap
      if (entryOf? heap entries index).isNone then raiseValue (.exception "KeyError" [index])
      else setObject number (.dict (entries.filter fun entry => !entry.1.equals heap index))
    | _ => raise "TypeError" s!"'{← kindOf value}' object doesn't support item deletion"
  | _ => raise "TypeError" s!"'{← kindOf value}' object doesn't support item deletion"

/-- The methods that a value has. -/
def methodsOf (value : Value) : Run (List String) := do
  match value with
  | .text _ => return textMethods
  | .bytes _ => return bytesMethods
  | .tuple _ => return ["count", "index"]
  | .int _ | .bool _ => return ["bit_length"]
  | .float _ => return ["is_integer"]
  | .path _ => return pathMethods
  | .object number =>
    match ← object number with
    | some (.list _) => return listMethods
    | some (.dict _) => return dictMethods
    | some (.set _) => return setMethods
    | some (.file _) => return fileMethods
    | _ => return []
  | _ => return []

/-- An attribute of a value. -/
def attributeOf (value : Value) (name : String) : Run Value := do
  let missing : Run Value := do
    raise "AttributeError" s!"'{← kindOf value}' object has no attribute '{name}'"
  if (← methodsOf value).contains name then return .method value name
  else
    match value with
    | .module source =>
      match ← moduleAttribute? source name with
      | some found => return found
      | none => raise "AttributeError" s!"module '{source}' has no attribute '{name}'"
    | .exception _ items =>
      let at_ (n : Nat) : Value := (items[n]?).getD .nothing
      match name with
      | "args" => return .tuple items
      | "code" => return at_ 0
      | "errno" | "returncode" => return at_ 0
      | "strerror" | "cmd" => return at_ 1
      | "filename" => return at_ 2
      | _ => missing
    | .path p =>
      let (front, base) := splitPath p
      match name with
      | "name" => return .text base
      | "parent" => return .path (if front.isEmpty then ['.'] else front)
      | "suffix" => return .text (suffixOf base)
      | "stem" => return .text (base.take (base.length - (suffixOf base).length))
      | _ => missing
    | .builtin kind =>
      if name == "__name__" then return .ofString kind
      else if kind == "dict" && name == "fromkeys" then missing
      else if kind == "str" && textMethods.contains name then return .builtin ("str." ++ name)
      else missing
    | .object number =>
      match ← object number, name with
      | some (.ended words status output errors), _ =>
        match name with
        | "returncode" => return .int status
        | "stdout" => return output
        | "stderr" => return errors
        | "args" => return words
        | _ => missing
      | some (.file file), "name" => return .text file.name
      | some (.file file), "closed" => return .bool (!file.isOpen)
      | some (.function known _ _ _), "__name__" => return .ofString known
      | _, _ => missing
    | _ => missing

/-- A method of a value that calls no functions. -/
def callMethod (self : Value) (name : String) (values : List Value)
    (named : List (String × Value)) : Run Value := do
  match self with
  | .text t => textMethod t name values named
  | .bytes octets => bytesMethod octets name
  | .tuple items =>
    let heap := (← get).heap
    let first : Value := (values.head?).getD .nothing
    if name == "count" then return .int (items.countP (·.equals heap first))
    else
      match indexOf? heap items first with
      | some place => return .int place
      | none => raise "ValueError" "tuple.index(x): x not in tuple"
  | .int n => return .int (if n == 0 then 0 else Nat.log2 n.natAbs + 1)
  | .bool b => return .int (if b then 1 else 0)
  | .float x => return .bool (x.floor == x)
  | .path p => pathMethod p name values named
  | .object number =>
    match ← object number with
    | some (.list items) => listMethod number items name values
    | some (.dict entries) => dictMethod number entries name values named
    | some (.set items) => setMethod number items name values
    | some (.file file) => fileMethod number file name values
    | _ => raise "AttributeError" name
  | _ => raise "AttributeError" name

/-- The value of a name. -/
def nameValue (name : String) : Run Value := do
  let state ← get
  match lookUp? state.scopes 1000 state.scope name with
  | some value => return value
  | none =>
    if name == "__name__" then return .ofString "__main__"
    else if builtinNames.contains name || Value.classes.contains name then return .builtin name
    else
      match Value.exceptionKind? name with
      | some kind =>
        if kind == "CalledProcessError" || kind == "UnsupportedOperation" then unknown
        else return .builtin kind
      | none => unknown
where
  unknown : Run Value := raise "NameError" s!"name '{name}' is not defined"

/-- Whether an exception is of a class, or of one of several. -/
def isCaught (exception kind : Value) : Run Bool := do
  match exception, kind with
  | .exception here _, .builtin name => return Value.belongsTo 20 here name
  | .exception here _, .tuple kinds =>
    return kinds.any fun kind => match kind with
      | .builtin name => Value.belongsTo 20 here name
      | _ => false
  | _, _ => raise "TypeError" "catching classes that do not inherit from BaseException is not allowed"

/-- The values that are given to parameters. -/
def matchParameters (function : String)
    (parameters : List (ParameterKind × String × Option Value)) (values : List Value)
    (named : List (String × Value)) : Run (List (String × Value)) := do
  let mut found : List (String × Value) := []
  let mut left := values
  let mut others := named
  for (kind, name, default) in parameters do
    match kind with
    | .rest =>
      found := (name, .tuple left) :: found
      left := []
    | .named =>
      let entries ← newDict (others.map fun (name, value) => (.ofString name, value))
      found := (name, entries) :: found
      others := []
    | .single =>
      match left, others.lookup name with
      | value :: rest, _ =>
        found := (name, value) :: found
        left := rest
      | [], some value =>
        found := (name, value) :: found
        others := others.filter (·.1 != name)
      | [], none =>
        match default with
        | some value => found := (name, value) :: found
        | none =>
          raise "TypeError" s!"{function}() missing 1 required positional argument: '{name}'"
  if !left.isEmpty then
    let wanted := parameters.length
    let noun := if wanted == 1 then "argument" else "arguments"
    let verb := if values.length == 1 then "was" else "were"
    raise "TypeError" s!"{function}() takes {wanted} positional {noun} but {values.length} {
      verb} given"
  match others with
  | (name, _) :: _ =>
    raise "TypeError" s!"{function}() got an unexpected keyword argument '{name}'"
  | [] => return found

/-- A part of what a text form names: an attribute or an element. -/
def namedPart (value : Value) (fuel : Nat) (path : List Char) : Run Value := do
  match fuel, path with
  | 0, _ | _, [] => return value
  | fuel + 1, '.' :: rest =>
    let word := rest.takeWhile Token.isWordChar
    namedPart (← attributeOf value (String.ofList word)) fuel (rest.drop word.length)
  | fuel + 1, '[' :: rest =>
    let word := rest.takeWhile (· != ']')
    let index : Value := match Octets.natural? word with
      | some n => .int n
      | none => .text word
    namedPart (← elementOf value index) fuel (rest.drop (word.length + 1))
  | _, _ => return value

/-- Fills values into the fields of a text. -/
def fillFields (fuel : Nat) (next : Nat) (values : List Value) (named : List (String × Value))
    (found text : List Char) : Run (List Char) := do
  match fuel, text with
  | 0, _ | _, [] => return found.reverse
  | fuel + 1, '\x7b' :: '\x7b' :: rest => fillFields fuel next values named ('\x7b' :: found) rest
  | fuel + 1, '\x7d' :: '\x7d' :: rest => fillFields fuel next values named ('\x7d' :: found) rest
  | _, '\x7d' :: _ => raise "ValueError" "Single '\x7d' encountered in format string"
  | fuel + 1, '\x7b' :: rest =>
    let key := rest.takeWhile fun c => c != ':' && c != '!' && c != '\x7d'
    let rest := rest.drop key.length
    let (conversion, rest) := match rest with
      | '!' :: c :: rest => (some c, rest)
      | rest => (none, rest)
    let (form, rest) := match rest with
      | ':' :: rest => formText (rest.length + 1) 0 [] rest
      | rest => ([], rest)
    if rest.isEmpty then raise "ValueError" "expected '\x7d' before end of string"
    let head := key.takeWhile fun c => c != '.' && c != '['
    let (place, next) : Option Nat × Nat :=
      if head.isEmpty then (some next, next + 1) else (Octets.natural? head, next)
    let value ← (match place with
      | some n =>
        match values[n]? with
        | some value => return value
        | none =>
          raise "IndexError" s!"Replacement index {n} out of range for positional args tuple"
      | none =>
        match named.lookup (String.ofList head) with
        | some value => return value
        | none => raiseValue (.exception "KeyError" [.text head]) : Run Value)
    let value ← namedPart value (key.length + 1) (key.drop head.length)
    let form ← (if form.contains '\x7b' then fillFields fuel next values named [] form
      else pure form : Run (List Char))
    let value ← (match conversion with
      | some 'r' => return .text (← reprText value)
      | some 's' => return .text (← shownText value)
      | _ => return value : Run Value)
    let shown ← orRaise (formatted (← get).heap value form)
    fillFields fuel next values named (shown.reverse ++ found) (rest.drop 1)
  | fuel + 1, c :: rest => fillFields fuel next values named (c :: found) rest

mutual

/-- The value of a formula. -/
def value (fuel : Nat) (formula : Formula) : Run Value := do
  match fuel with
  | 0 => raise "RecursionError" "maximum recursion depth exceeded"
  | fuel + 1 =>
    match formula with
    | .nothing => return .nothing
    | .ellipsis => return .ellipsis
    | .bool b => return .bool b
    | .int n => return .int n
    | .float x => return .float x
    | .text t => return .text t
    | .bytes octets => return .bytes octets
    | .formatted found => return .text (← pieceTexts fuel found)
    | .name name => nameValue name
    | .row kind formulas =>
      let items ← values fuel formulas
      match kind with
      | .set =>
        items.forM requireFixed
        allot (.set (distinct (← get).heap items))
      | _ => newList items
    | .tuple formulas => return .tuple (← values fuel formulas)
    | .dict formulas =>
      let entries ← pairs fuel formulas
      entries.forM fun entry => requireFixed entry.1
      let heap := (← get).heap
      allot (.dict (entries.foldl (fun found (key, value) => withEntry heap found key value) #[]))
    | .starred _ => raise "SyntaxError" "can't use starred expression here"
    | .collected kind key element found =>
      let state ← get
      let inner := state.fresh
      set { state with
        fresh := inner + 1, scope := inner
        scopes := state.scopes.insert inner { parent := some state.scope } }
      let result ← outcome (collect fuel found key element [])
      modify fun after => { after with scope := state.scope }
      match result with
      | .error leap => throw leap
      | .ok entries =>
        let items := entries.reverse.map Prod.snd
        match kind with
        | .list => newList items
        | .set => allot (.set (distinct (← get).heap items))
        | .generator => allot (.iterator "generator" items)
        | .dict =>
          let heap := (← get).heap
          allot (.dict (entries.reverse.foldl
            (fun found (key, value) => withEntry heap found key value) #[]))
    | .signed sign inner =>
      let found ← value fuel inner
      match sign, found with
      | .not, found => return .bool (!(← truth found))
      | .negative, .float x => return .float (-x)
      | .positive, .float x => return .float x
      | sign, found =>
        match found.int?, sign with
        | some n, .negative => return .int (-n)
        | some n, .positive => return .int n
        | some n, .invert => return .int (-n - 1)
        | _, _ =>
          let mark := match sign with
            | .negative => "-"
            | .positive => "+"
            | _ => "~"
          raise "TypeError" s!"bad operand type for unary {mark}: '{← kindOf found}'"
    | .binary operator left right =>
      let a ← value fuel left
      let b ← value fuel right
      operate operator a b
    | .compare first rest => comparison fuel (← value fuel first) rest
    | .both first second =>
      let found ← value fuel first
      if ← truth found then value fuel second else return found
    | .either first second =>
      let found ← value fuel first
      if ← truth found then return found else value fuel second
    | .choice condition yes no =>
      if ← truth (← value fuel condition) then value fuel yes else value fuel no
    | .function parameters body =>
      let known ← defaults fuel parameters
      allot (.function "<lambda>" known [((← get).line, .give (some body))] (← get).scope)
    | .call function given =>
      let callee ← value fuel function
      let (items, named) ← arguments' fuel given
      call fuel callee items named
    | .attribute inner name => attributeOf (← value fuel inner) name
    | .element inner (.slice start stop step) =>
      let found ← value fuel inner
      sliceOf found (← bound fuel start) (← bound fuel stop) (← bound fuel step)
    | .element inner index =>
      let found ← value fuel inner
      elementOf found (← value fuel index)
    | .slice _ _ _ => raise "SyntaxError" "invalid syntax"
    | .assigning name inner =>
      let found ← value fuel inner
      setName name found
      return found

/-- The bound of a slice. -/
def bound (fuel : Nat) (formula : Option Formula) : Run (Option Int) := do
  match fuel, formula with
  | 0, _ | _, none => return none
  | fuel + 1, some formula =>
    match ← value fuel formula with
    | .nothing => return none
    | found =>
      match found.int? with
      | some n => return some n
      | none =>
        raise "TypeError"
          "slice indices must be integers or None or have an __index__ method"

/-- The values of formulas, of which some stand for several. -/
def values (fuel : Nat) (formulas : List Formula) : Run (List Value) := do
  match fuel, formulas with
  | 0, _ => raise "RecursionError" "maximum recursion depth exceeded"
  | _, [] => return []
  | fuel + 1, .starred inner :: rest =>
    let found ← itemsOf (← value fuel inner)
    return found ++ (← values fuel rest)
  | fuel + 1, formula :: rest =>
    let found ← value fuel formula
    return found :: (← values fuel rest)

/-- The entries of a dictionary. -/
def pairs (fuel : Nat) (formulas : List (Option Formula × Formula)) :
    Run (List (Value × Value)) := do
  match fuel, formulas with
  | 0, _ => raise "RecursionError" "maximum recursion depth exceeded"
  | _, [] => return []
  | fuel + 1, (some key, formula) :: rest =>
    let name ← value fuel key
    let found ← value fuel formula
    return (name, found) :: (← pairs fuel rest)
  | fuel + 1, (none, formula) :: rest =>
    let entries : List (Value × Value) ← match ← value fuel formula with
      | .object number => do
        match ← object number with
        | some (.dict entries) => pure entries.toList
        | _ => raise "TypeError" "argument is not a mapping"
      | _ => raise "TypeError" "argument is not a mapping"
    return entries ++ (← pairs fuel rest)

/-- The parts of a text that is put together. -/
def pieceTexts (fuel : Nat) (pieces : List Piece) : Run (List Char) := do
  match fuel, pieces with
  | 0, _ => raise "RecursionError" "maximum recursion depth exceeded"
  | _, [] => return []
  | fuel + 1, .text t :: rest => return t ++ (← pieceTexts fuel rest)
  | fuel + 1, .field inner conversion form :: rest =>
    let found ← value fuel inner
    let form ← pieceTexts fuel form
    let found ← (match conversion with
      | some 'r' => return .text (← reprText found)
      | some 's' => return .text (← shownText found)
      | some 'a' => return .text (asciiOnly (← reprText found))
      | _ => return found : Run Value)
    requireWritable found
    let shown ← orRaise (formatted (← get).heap found form)
    return shown ++ (← pieceTexts fuel rest)

/-- Whether relations hold one behind the other. -/
def comparison (fuel : Nat) (first : Value) (rest : List (Relation × Formula)) : Run Value := do
  match fuel, rest with
  | 0, _ => raise "RecursionError" "maximum recursion depth exceeded"
  | _, [] => return .bool true
  | fuel + 1, (relation, formula) :: rest =>
    let second ← value fuel formula
    if ← relate relation first second then
      if rest.isEmpty then return .bool true else comparison fuel second rest
    else return .bool false

/-- What is given to a function. -/
def arguments' (fuel : Nat) (given : List Argument) :
    Run (List Value × List (String × Value)) := do
  match fuel, given with
  | 0, _ => raise "RecursionError" "maximum recursion depth exceeded"
  | _, [] => return ([], [])
  | fuel + 1, first :: rest =>
    match first with
    | .plain formula =>
      let found ← value fuel formula
      let (items, named) ← arguments' fuel rest
      return (found :: items, named)
    | .spread formula =>
      let found ← itemsOf (← value fuel formula)
      let (items, named) ← arguments' fuel rest
      return (found ++ items, named)
    | .named name formula =>
      let found ← value fuel formula
      let (items, named) ← arguments' fuel rest
      return (items, (name, found) :: named)
    | .spreadNamed formula =>
      let entries ← pairs fuel [(none, formula)]
      let (items, named) ← arguments' fuel rest
      let more := entries.map fun ((key, value) : Value × Value) =>
        (String.ofList (key.shown {}), value)
      return (items, more ++ named)

/-- The parameters of a function with their defaults. -/
def defaults (fuel : Nat) (parameters : List Parameter) :
    Run (List (ParameterKind × String × Option Value)) := do
  match fuel, parameters with
  | 0, _ => raise "RecursionError" "maximum recursion depth exceeded"
  | _, [] => return []
  | fuel + 1, .mk kind name default :: rest =>
    let found ← (match default with
      | some formula => return some (← value fuel formula)
      | none => return none : Run (Option Value))
    return (kind, name, found) :: (← defaults fuel rest)

/-- Goes through what the clauses say, and collects keys and values, the latest first. -/
def collect (fuel : Nat) (clauses : List Clause) (key : Option Formula) (element : Formula)
    (found : List (Value × Value)) : Run (List (Value × Value)) := do
  match fuel, clauses with
  | 0, _ => raise "RecursionError" "maximum recursion depth exceeded"
  | fuel + 1, [] =>
    let name ← (match key with
      | some key => value fuel key
      | none => return .nothing : Run Value)
    return (name, ← value fuel element) :: found
  | fuel + 1, .when condition :: rest =>
    if ← truth (← value fuel condition) then collect fuel rest key element found else return found
  | fuel + 1, .each target source :: rest =>
    let items ← itemsOf (← value fuel source)
    collectEach fuel target items rest key element found

def collectEach (fuel : Nat) (target : Formula) (items : List Value) (clauses : List Clause)
    (key : Option Formula) (element : Formula) (found : List (Value × Value)) :
    Run (List (Value × Value)) := do
  match fuel, items with
  | 0, _ => raise "RecursionError" "maximum recursion depth exceeded"
  | _, [] => return found
  | fuel + 1, item :: rest =>
    (Tool.breatheAtTimes : Tool Unit)
    assign fuel target item
    let found ← collect fuel clauses key element found
    collectEach fuel target rest clauses key element found

/-- Calls a function. -/
def call (fuel : Nat) (callee : Value) (items : List Value) (named : List (String × Value)) :
    Run Value := do
  match fuel with
  | 0 => raise "RecursionError" "maximum recursion depth exceeded"
  | fuel + 1 =>
    match callee with
    | .builtin name =>
      if name.startsWith "str." then
        match items with
        | self :: rest => callMethod self (name.drop 4).toString rest named
        | [] => raise "TypeError" "unbound method needs an argument"
      else if name.contains '.' then moduleFunction name items named
      else if Value.classes.contains name || (Value.exceptionKind? name).isSome then
        construct name items named
      else
        match name with
        | "map" =>
          match items with
          | function :: rows =>
            let rows ← rows.mapM itemsOf
            let size := ((rows.map List.length).min?).getD 0
            let given := (List.range size).map fun n =>
              rows.map fun row => (row[n]?).getD Value.nothing
            allot (.iterator "map" (← callEach fuel function given))
          | [] => raise "TypeError" "map() must have at least two arguments."
        | "filter" =>
          match items with
          | [function, row] =>
            let row ← itemsOf row
            let tests ← (match function with
              | .nothing => pure row
              | function => callEach fuel function (row.map fun item => [item]) : Run (List Value))
            let heap := (← get).heap
            allot (.iterator "filter" ((row.zip tests).filterMap fun (item, test) =>
              if test.isTrue heap then some item else none))
          | _ => raise "TypeError" s!"filter expected 2 arguments, got {items.length}"
        | "sorted" =>
          let row ← itemsOf ((items.head?).getD .nothing)
          newList (← sortBy fuel row named)
        | "min" | "max" => extreme fuel (name == "max") items named
        | "eval" | "exec" =>
          let text ← shownText ((items.head?).getD .nothing)
          match Block.ofText text with
          | .error fault => raise fault.kind fault.problem
          | .ok body =>
            match name, body with
            | "eval", [(_, .formula formula)] => value fuel formula
            | _, _ =>
              carryOutAll fuel body
              return .nothing
        | "getattr" =>
          match items with
          | [self, word] => attributeOf self (String.ofList (← shownText word))
          | [self, word, other] =>
            match ← outcome (attributeOf self (String.ofList (← shownText word))) with
            | .ok found => return found
            | .error _ => return other
          | _ => raise "TypeError" "getattr expected at least 2 arguments"
        | "hasattr" =>
          match items with
          | [self, word] =>
            match ← outcome (attributeOf self (String.ofList (← shownText word))) with
            | .ok _ => return .bool true
            | .error _ => return .bool false
          | _ => raise "TypeError" s!"hasattr expected 2 arguments, got {items.length}"
        | _ => builtinFunction name items named
    | .method self name =>
      match self, name with
      | .text t, "format" => return .text (← fillFields (t.length + 1) 0 items named [] t)
      | .object number, "sort" =>
        match ← object number with
        | some (.list row) =>
          setObject number (.list (← sortBy fuel row.toList named).toArray)
          return .nothing
        | _ => callMethod self name items named
      | _, _ => callMethod self name items named
    | .object number =>
      match ← object number with
      | some (.function name parameters body home) =>
        let state ← get
        if state.calls.length ≥ 999 then
          raise "RecursionError" "maximum recursion depth exceeded"
        let names ← matchParameters name parameters items named
        let inner := (← get).fresh
        modify fun now =>
          { now with
            fresh := inner + 1, scope := inner
            calls := (name, now.line) :: now.calls
            scopes := now.scopes.insert inner { names, parent := some home } }
        let result ← outcome (carryOutAll fuel body)
        modify fun after =>
          { after with scope := state.scope, calls := state.calls, line := state.line }
        match result with
        | .ok _ => return .nothing
        | .error (.give found) => return found
        | .error leap => throw leap
      | _ => raise "TypeError" s!"'{← kindOf callee}' object is not callable"
    | _ => raise "TypeError" s!"'{← kindOf callee}' object is not callable"

/-- Calls a function for each of several rows of values. -/
def callEach (fuel : Nat) (function : Value) (given : List (List Value)) : Run (List Value) := do
  match fuel, given with
  | 0, _ => raise "RecursionError" "maximum recursion depth exceeded"
  | _, [] => return []
  | fuel + 1, items :: rest =>
    (Tool.breatheAtTimes : Tool Unit)
    let found ← call fuel function items []
    return found :: (← callEach fuel function rest)

/-- The keys of values: what a function makes of them, or themselves. -/
def keysOf (fuel : Nat) (row : List Value) (named : List (String × Value)) : Run (List Value) := do
  match fuel with
  | 0 => raise "RecursionError" "maximum recursion depth exceeded"
  | fuel + 1 =>
    match named.lookup "key" with
    | none | some .nothing => return row
    | some function => callEach fuel function (row.map fun item => [item])

/-- Sorts values as named arguments say. -/
def sortBy (fuel : Nat) (row : List Value) (named : List (String × Value)) : Run (List Value) := do
  match fuel with
  | 0 => raise "RecursionError" "maximum recursion depth exceeded"
  | fuel + 1 =>
    let keys ← keysOf fuel row named
    let backwards ← (match named.lookup "reverse" with
      | some found => truth found
      | none => pure false : Run Bool)
    sorted (keys.zip row) backwards

/-- The least or the greatest of values. -/
def extreme (fuel : Nat) (greatest : Bool) (items : List Value) (named : List (String × Value)) :
    Run Value := do
  match fuel with
  | 0 => raise "RecursionError" "maximum recursion depth exceeded"
  | fuel + 1 =>
    let row ← (match items with
      | [one] => itemsOf one
      | several => pure several : Run (List Value))
    let keys ← keysOf fuel row named
    match keys.zip row with
    | [] =>
      match named.lookup "default" with
      | some found => return found
      | none =>
        let name := if greatest then "max" else "min"
        raise "ValueError" s!"{name}() iterable argument is empty"
    | first :: rest =>
      let mut best := first
      for entry in rest do
        let isBetter ← relate (if greatest then .greater else .less) entry.1 best.1
        if isBetter then best := entry
      return best.2

/-- Assigns a value to a target. -/
def assign (fuel : Nat) (target : Formula) (found : Value) : Run Unit := do
  match fuel with
  | 0 => raise "RecursionError" "maximum recursion depth exceeded"
  | fuel + 1 =>
    match target with
    | .name name => setName name found
    | .element inner (.slice start stop step) =>
      let whole ← value fuel inner
      match whole with
      | .object number =>
        match ← object number with
        | some (.list items) =>
          let start ← bound fuel start
          let stop ← bound fuel stop
          let _ ← bound fuel step
          let size : Int := items.size
          let place (n : Int) : Nat := (if n < 0 then max 0 (n + size) else min n size).toNat
          let first := place (start.getD 0)
          let last := max first (place (stop.getD size))
          let middle ← itemsOf found
          let all := items.toList.take first ++ middle ++ items.toList.drop last
          setObject number (.list all.toArray)
        | _ => raise "TypeError" s!"'{← kindOf whole}' object does not support item assignment"
      | _ => raise "TypeError" s!"'{← kindOf whole}' object does not support item assignment"
    | .element inner index =>
      let whole ← value fuel inner
      setElement whole (← value fuel index) found
    | .attribute inner name =>
      let whole ← value fuel inner
      raise "AttributeError" s!"'{← kindOf whole}' object has no attribute '{name}'"
    | .starred inner => assign fuel inner found
    | .tuple targets | .row .list targets =>
      let items ← (match found with
        | .object _ | .tuple _ | .text _ | .range _ _ _ | .bytes _ => itemsOf found
        | _ => do
          raise "TypeError" s!"cannot unpack non-iterable {← kindOf found} object"
        : Run (List Value))
      let wanted := targets.length
      match targets.findIdx? fun target => target matches .starred _ with
      | some place =>
        if items.length + 1 < wanted then
          raise "ValueError" s!"not enough values to unpack (expected at least {wanted - 1}, got {
            items.length})"
        let behind := wanted - place - 1
        let middle ← newList ((items.drop place).take (items.length - place - behind))
        assignEach fuel targets
          (items.take place ++ middle :: items.drop (items.length - behind))
      | none =>
        if items.length < wanted then
          raise "ValueError" s!"not enough values to unpack (expected {wanted}, got {items.length})"
        else if items.length > wanted then
          raise "ValueError" s!"too many values to unpack (expected {wanted})"
        else assignEach fuel targets items
    | _ => raise "SyntaxError" "cannot assign to expression"

def assignEach (fuel : Nat) (targets : List Formula) (items : List Value) : Run Unit := do
  match fuel, targets, items with
  | fuel + 1, target :: targets, item :: items =>
    assign fuel target item
    assignEach fuel targets items
  | _, _, _ => return ()

/-- Carries out statements. -/
def carryOutAll (fuel : Nat) (block : Block) : Run Unit := do
  match fuel, block with
  | 0, _ => raise "RecursionError" "maximum recursion depth exceeded"
  | _, [] => return ()
  | fuel + 1, (line, statement) :: rest =>
    modify fun state => { state with line }
    carryOut fuel statement
    carryOutAll fuel rest

/-- Carries out a statement. -/
def carryOut (fuel : Nat) (statement : Statement) : Run Unit := do
  match fuel with
  | 0 => raise "RecursionError" "maximum recursion depth exceeded"
  | fuel + 1 =>
    (Tool.breatheAtTimes : Tool Unit)
    match statement with
    | .formula formula =>
      let _ ← value fuel formula
    | .assign targets formula =>
      let found ← value fuel formula
      assignAll fuel targets found
    | .change operator target formula =>
      let before ← value fuel target
      let other ← value fuel formula
      match operator, before, ← rowOf? before with
      | .add, .object number, some items =>
        setObject number (.list (items ++ (← itemsOf other)).toArray)
        assign fuel target before
      | operator, before, _ => assign fuel target (← operate operator before other)
    | .load names =>
      for (source, known) in names do
        let isKnown := moduleNames.contains source
        if !isKnown then raise "ModuleNotFoundError" s!"No module named '{source}'"
        let base := (source.splitOn ".").headD source
        setName known (.module (if known == base then base else source))
    | .loadFrom source names =>
      if source == "__future__" then return ()
      if !moduleNames.contains source then
        raise "ModuleNotFoundError" s!"No module named '{source}'"
      for (name, known) in names do
        if name == "*" then
          for found in functionsOf source do
            setName found (.builtin (source ++ "." ++ found))
        else
          match ← moduleAttribute? source name with
          | some found => setName known found
          | none =>
            raise "ImportError" s!"cannot import name '{name}' from '{source}' (unknown location)"
    | .choice condition yes no =>
      if ← truth (← value fuel condition) then carryOutAll fuel yes else carryOutAll fuel no
    | .repeated condition body finish => repeatWhile fuel condition body finish
    | .each target source body finish =>
      let row ← value fuel source
      visit fuel target (← itemsOf row) body finish
    | .define name parameters body =>
      let known ← defaults fuel parameters
      let function ← allot (.function name known body (← get).scope)
      setName name function
    | .give formula =>
      match formula with
      | some formula => throw (.give (← value fuel formula))
      | none => throw (.give .nothing)
    | .throw formula =>
      match formula with
      | none =>
        match (← get).handled with
        | exception :: _ => raiseValue exception
        | [] => raise "RuntimeError" "No active exception to reraise"
      | some formula =>
        match ← value fuel formula with
        | .exception kind items => raiseValue (.exception kind items)
        | .builtin name =>
          match Value.exceptionKind? name with
          | some kind => raiseValue (.exception kind [])
          | none => raise "TypeError" "exceptions must derive from BaseException"
        | _ => raise "TypeError" "exceptions must derive from BaseException"
    | .guarded body handlers otherwise finish =>
      let before ← get
      let result ← outcome (carryOutAll fuel body)
      let result ← (match result with
        | .ok _ => outcome (carryOutAll fuel otherwise)
        | .error (.raised exception origin) => do
          modify fun state =>
            { state with scope := before.scope, calls := before.calls }
          outcome (handle fuel exception origin handlers)
        | .error leap => return .error leap : Run (Except Leap Unit))
      carryOutAll fuel finish
      match result with
      | .ok _ => return ()
      | .error leap => throw leap
    | .during items body => useEach fuel items body
    | .delete targets => deleteEach fuel targets
    | .require condition problem =>
      if !(← truth (← value fuel condition)) then
        match problem with
        | some formula => raiseValue (.exception "AssertionError" [← value fuel formula])
        | none => raiseValue (.exception "AssertionError" [])
    | .global names => modify fun state =>
      let scope := (state.scopes[state.scope]?).getD {}
      if state.scope == 0 then state
      else { state with
        scopes := state.scopes.insert state.scope { scope with globals := names ++ scope.globals } }
    | .nonlocal names => modify fun state =>
      let scope := (state.scopes[state.scope]?).getD {}
      { state with
        scopes := state.scopes.insert state.scope
          { scope with nonlocals := names ++ scope.nonlocals } }
    | .pass => return ()
    | .leave => throw .leave
    | .continue => throw .continue

/-- Assigns a value to several targets. -/
def assignAll (fuel : Nat) (targets : List Formula) (found : Value) : Run Unit := do
  match fuel, targets with
  | 0, _ => raise "RecursionError" "maximum recursion depth exceeded"
  | _, [] => return ()
  | fuel + 1, target :: rest =>
    assign fuel target found
    assignAll fuel rest found

/-- Takes targets away. -/
def deleteEach (fuel : Nat) (targets : List Formula) : Run Unit := do
  match fuel, targets with
  | 0, _ => raise "RecursionError" "maximum recursion depth exceeded"
  | _, [] => return ()
  | fuel + 1, target :: rest =>
    match target with
    | .name name => deleteName name
    | .element inner index =>
      let whole ← value fuel inner
      deleteElement whole (← value fuel index)
    | _ => raise "SyntaxError" "cannot delete expression"
    deleteEach fuel rest

/-- Carries out the body of a loop, and says whether the loop goes on. -/
def carryOutBody (fuel : Nat) (body : Block) : Run Bool := do
  match fuel with
  | 0 => raise "RecursionError" "maximum recursion depth exceeded"
  | fuel + 1 =>
    match ← outcome (carryOutAll fuel body) with
    | .ok _ | .error .continue => return true
    | .error .leave => return false
    | .error leap => throw leap

def repeatWhile (fuel : Nat) (condition : Formula) (body finish : Block) : Run Unit := do
  match fuel with
  | 0 => raise "RecursionError" "maximum recursion depth exceeded"
  | fuel + 1 =>
    if ← truth (← value fuel condition) then
      if ← carryOutBody fuel body then repeatWhile fuel condition body finish
    else carryOutAll fuel finish

/-- Carries out a body for each of the values of a row. -/
def visit (fuel : Nat) (target : Formula) (items : List Value) (body finish : Block) :
    Run Unit := do
  match fuel, items with
  | 0, _ => raise "RecursionError" "maximum recursion depth exceeded"
  | fuel + 1, [] => carryOutAll fuel finish
  | fuel + 1, item :: rest =>
    assign fuel target item
    if ← carryOutBody fuel body then visit fuel target rest body finish

/-- Takes care of an exception, if one of the handlers is for it. -/
def handle (fuel : Nat) (exception : Value) (origin : List (Nat × String))
    (handlers : List (Option Formula × Option String × Block)) : Run Unit := do
  match fuel, handlers with
  | 0, _ => raise "RecursionError" "maximum recursion depth exceeded"
  | _, [] => throw (.raised exception origin)
  | fuel + 1, (kind, known, body) :: rest =>
    let isFor ← (match kind with
      | none => pure true
      | some formula => do
        let kind ← value fuel formula
        isCaught exception kind : Run Bool)
    if isFor then
      match known with
      | some name => setName name exception
      | none => pure ()
      let before := (← get).handled
      modify fun state => { state with handled := exception :: state.handled }
      let result ← outcome (carryOutAll fuel body)
      modify fun state => { state with handled := before }
      match result with
      | .ok _ => return ()
      | .error leap => throw leap
    else handle fuel exception origin rest

/-- Carries out a body with files that are closed behind it. -/
def useEach (fuel : Nat) (items : List (Formula × Option Formula)) (body : Block) : Run Unit := do
  match fuel, items with
  | 0, _ => raise "RecursionError" "maximum recursion depth exceeded"
  | fuel + 1, [] => carryOutAll fuel body
  | fuel + 1, (formula, target) :: rest =>
    let found ← value fuel formula
    match target with
    | some target => assign fuel target found
    | none => pure ()
    let result ← outcome (useEach fuel rest body)
    match found with
    | .object number =>
      match ← object number with
      | some (.file file) => closeFile number file
      | _ => pure ()
    | _ => pure ()
    match result with
    | .ok _ => return ()
    | .error leap => throw leap

end

/-! ## Snippets -/

/-- How many steps a snippet may take. -/
def maxSteps : Nat := 1000000000000

/-- Lines of which those that are repeated often are written only three times. -/
def shortened (fuel : Nat) : List String → List String
  | [] => []
  | line :: rest =>
    match fuel with
    | 0 => line :: rest
    | fuel + 1 =>
      let again := (rest.takeWhile (· == line)).length
      let left := shortened fuel (rest.drop again)
      if again < 3 then List.replicate (again + 1) line ++ left
      else
        let noun := if again == 3 then "time" else "times"
        [line, line, line, s!"  [Previous line repeated {again - 2} more {noun}]\n"] ++ left

/-- What is written about an exception that nothing took care of. -/
def complaint (file : String) (heap : Heap) (exception : Value) (origin : List (Nat × String)) :
    List Char :=
  let places := origin.map fun (line, name) => s!"  File \"{file}\", line {line}, in {name}\n"
  let kind := exception.kind heap
  let text := match exception with
    | .exception "CalledProcessError" [.int status, words] =>
      s!"Command '{String.ofList (words.shown heap)}' returned non-zero exit status {status}.".toList
    | other => other.shown heap
  let kind := if kind == "CalledProcessError" then "subprocess.CalledProcessError"
    else if kind == "UnsupportedOperation" then "io.UnsupportedOperation" else kind
  let last := if text.isEmpty then kind.toList else kind.toList ++ ": ".toList ++ text
  ("Traceback (most recent call last):\n" ++ String.join (shortened places.length places)).toList ++
    last ++ ['\n']

/-- The status with which an exception ends the program, and what is written about it. -/
def farewell (file : String) (heap : Heap) (exception : Value) (origin : List (Nat × String)) :
    Nat × List Char :=
  match exception with
  | .exception "SystemExit" items =>
    match items with
    | [] | [.nothing] => (0, [])
    | [.int n] => ((n % 256).toNat, [])
    | [.bool b] => (if b then 1 else 0, [])
    | [other] => (1, other.shown heap ++ ['\n'])
    | several => (1, (Value.tuple several).shown heap ++ ['\n'])
  | other => (1, complaint file heap other origin)

end TaskRunner.Shell.Snippet
