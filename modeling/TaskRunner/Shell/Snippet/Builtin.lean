import TaskRunner.Shell.Snippet.Library
/- # TaskRunner.Shell.Snippet.Builtin -- the functions that are always there

Those that call no other functions, and the operators. -/

namespace TaskRunner.Shell.Snippet
set_option autoImplicit false

/-- The functions that are always there. -/
def builtinNames : List String :=
  ["abs", "all", "any", "ascii", "bin", "callable", "chr", "dir", "divmod", "enumerate", "eval",
    "exec", "exit", "filter", "format", "getattr", "globals", "hasattr", "hex", "id", "input",
    "isinstance", "issubclass", "iter", "len", "locals", "map", "max", "min", "next", "oct", "open",
    "ord", "pow", "print", "quit", "repr", "reversed", "round", "setattr", "sorted", "sum",
    "__import__", "zip"]

/-! ## Operators -/

/-- A whole number to the power of another one that is not below zero; nothing if that is too
large. -/
def power? (base : Int) (exponent : Nat) : Option Int :=
  if base.natAbs > 1 && (Nat.log2 base.natAbs + 1) * exponent > 20000000 then none
  else some (Int.pow base exponent)

def floatFloorDivide (x y : Float) : Float := (x / y).floor

/-- What is left of a number, with the sign of the other one. -/
def floatRemainder (x y : Float) : Float :=
  match Fraction.ofFloat x, Fraction.ofFloat y with
  | .finite negative m e, .finite negative' m' e' =>
    let (n, d) := Fraction.ratio m e
    let (n', d') := Fraction.ratio m' e'
    if n' == 0 then 0.0 / 0.0
    else
      let left := ((n * d') % (n' * d), d * d')
      let part := (Fraction.ofRatio Fraction.doubleBits negative left.1 left.2).toFloat
      if left.1 != 0 && negative != negative' then part + y else part
  | _, _ => x

/-- A quotient of whole numbers as a number of the machine. -/
def quotient (a b : Int) : Float :=
  (Fraction.ofRatio Fraction.doubleBits ((a < 0) != (b < 0)) a.natAbs b.natAbs).toFloat

/-- A row as often as a number says. -/
def repeated {α : Type} (items : List α) (n : Int) : List α :=
  (List.replicate (min n.toNat maxItems) items).flatten

def unsupported (operator : Operator) (a b : Value) : Run Value := do
  raise "TypeError" s!"unsupported operand type(s) for {operator.sign}: '{← kindOf a}' and '{
    ← kindOf b}'"

/-- An operator on whole numbers. -/
def intOperation (operator : Operator) (a b : Int) : Run Value := do
  let int (n : Int) : Run Value := return .int n
  match operator with
  | .add => int (a + b)
  | .subtract => int (a - b)
  | .multiply => int (a * b)
  | .divide =>
    if b == 0 then raise "ZeroDivisionError" "division by zero" else return .float (quotient a b)
  | .floorDivide =>
    if b == 0 then raise "ZeroDivisionError" "integer division or modulo by zero"
    else int (Int.fdiv a b)
  | .remainder =>
    if b == 0 then raise "ZeroDivisionError" "integer modulo by zero" else int (Int.fmod a b)
  | .power =>
    if b < 0 then
      if a == 0 then raise "ZeroDivisionError" "0.0 cannot be raised to a negative power"
      else return .float (Float.pow (Value.floatOfInt a) (Value.floatOfInt b))
    else
      match power? a b.toNat with
      | some n => int n
      | none => raise "MemoryError" ""
  | .shiftLeft =>
    if b < 0 then raise "ValueError" "negative shift count"
    else if b > 20000000 then raise "MemoryError" ""
    else int (a * (Nat.pow 2 b.toNat : Nat))
  | .shiftRight =>
    if b < 0 then raise "ValueError" "negative shift count"
    else int (Int.fdiv a (Nat.pow 2 (min b.toNat 20000000) : Nat))
  | .bitAnd => int (bits (fun x y => x && y) a b)
  | .bitOr => int (bits (fun x y => x || y) a b)
  | .bitXor => int (bits (fun x y => x != y) a b)
where
  /-- Combines the bits of two numbers, of which those below zero have ones without end in front. -/
  bits (f : Bool → Bool → Bool) (a b : Int) : Int :=
    let size := max (Nat.log2 a.natAbs) (Nat.log2 b.natAbs) + 2
    let whole : Int := ((1 <<< size : Nat) : Int)
    let m := (a % whole).toNat
    let n := (b % whole).toNat
    let combined := (List.range size).foldl
      (fun found i => if f (m.testBit i) (n.testBit i) then found + (1 <<< i) else found) 0
    if combined.testBit (size - 1) then (combined : Int) - whole else combined

/-- An operator on numbers of the machine. -/
def floatOperation (operator : Operator) (a b : Value) (x y : Float) : Run Value := do
  let float (x : Float) : Run Value := return .float x
  match operator with
  | .add => float (x + y)
  | .subtract => float (x - y)
  | .multiply => float (x * y)
  | .divide =>
    if y == 0 then raise "ZeroDivisionError" "float division by zero" else float (x / y)
  | .floorDivide =>
    if y == 0 then raise "ZeroDivisionError" "float floor division by zero"
    else float (floatFloorDivide x y)
  | .remainder =>
    if y == 0 then raise "ZeroDivisionError" "float modulo" else float (floatRemainder x y)
  | .power =>
    if x == 0 && y < 0 then
      raise "ZeroDivisionError" "0.0 cannot be raised to a negative power"
    else float (Float.pow x y)
  | other => unsupported other a b

/-- The row that an object is. -/
def rowOf? (value : Value) : Run (Option (List Value)) := do
  match value with
  | .object number =>
    match ← object number with
    | some (.list items) => return some items.toList
    | _ => return none
  | _ => return none

def setOf? (value : Value) : Run (Option (List Value)) := do
  match value with
  | .object number =>
    match ← object number with
    | some (.set items) => return some items.toList
    | _ => return none
  | _ => return none

/-- Fills values into a text with directives. -/
def fillText (text : List Char) (value : Value) : Run Value := do
  let heap := (← get).heap
  let entries : Array (Value × Value) ← match value with
    | .object number => do
      match ← object number with
      | some (.dict entries) => pure entries
      | _ => pure #[]
    | _ => pure #[]
  let values := match value with
    | .tuple items => items
    | other => [other]
  let named (name : List Char) : Option Value := entryOf? heap entries (.text name)
  let (shown, rest) ← orRaise (fillIn heap named (text.length + 1) text values)
  if !rest.isEmpty && entries.isEmpty then
    raise "TypeError" "not all arguments converted during string formatting"
  else return .text shown

/-- An operator on two values. -/
def operate (operator : Operator) (a b : Value) : Run Value := do
  match operator, a, b with
  | .add, .text s, .text t => return .text (s ++ t)
  | .add, .text _, other =>
    raise "TypeError" s!"can only concatenate str (not \"{← kindOf other}\") to str"
  | .add, .bytes s, .bytes t => return .bytes (s ++ t)
  | .add, .tuple s, .tuple t => return .tuple (s ++ t)
  | .remainder, .text t, value => fillText t value
  | .divide, .path p, other => return .path (joinPaths p (← shownText other))
  | .divide, .text p, .path q => return .path (joinPaths p q)
  | _, _, _ =>
    match a.int?, b.int? with
    | some m, some n =>
      match operator, a, b with
      | .bitAnd, .bool p, .bool q => return .bool (p && q)
      | .bitOr, .bool p, .bool q => return .bool (p || q)
      | .bitXor, .bool p, .bool q => return .bool (p != q)
      | _, _, _ => intOperation operator m n
    | _, _ =>
      match a.float?, b.float? with
      | some x, some y => floatOperation operator a b x y
      | _, _ =>
        let times (value count : Value) : Run (Option Value) := do
          match count.int? with
          | none => return none
          | some n =>
            match value with
            | .text t => return some (.text (repeated t n))
            | .bytes octets => return some (.bytes (repeated octets n))
            | .tuple items => return some (.tuple (repeated items n))
            | value =>
              match ← rowOf? value with
              | some items => return some (← newList (repeated items n))
              | none => return none
        let product ← (if operator == .multiply then do
            match ← times a b with
            | some value => return some value
            | none => times b a
          else pure none : Run (Option Value))
        match product with
        | some value => return value
        | none =>
          match operator, ← rowOf? a, ← rowOf? b with
          | .add, some s, some t => newList (s ++ t)
          | .add, some _, none =>
            raise "TypeError" s!"can only concatenate list (not \"{← kindOf b}\") to list"
          | _, _, _ =>
            let heap := (← get).heap
            let has (items : List Value) (value : Value) : Bool := items.any (·.equals heap value)
            match operator, ← setOf? a, ← setOf? b with
            | .bitOr, some s, some t => allot (.set (distinct heap (s ++ t)))
            | .bitAnd, some s, some t => allot (.set (s.filter (has t)).toArray)
            | .subtract, some s, some t => allot (.set (s.filter (!has t ·)).toArray)
            | .bitXor, some s, some t =>
              allot (.set (s.filter (!has t ·) ++ t.filter (!has s ·)).toArray)
            | _, _, _ => unsupported operator a b

/-- Whether a value is in another one. -/
def isMember (value whole : Value) : Run Bool := do
  match whole with
  | .text t =>
    match value with
    | .text part => return (findIn? part t).isSome
    | other =>
      raise "TypeError" s!"'in <string>' requires string as left operand, not {← kindOf other}"
  | .range start stop step =>
    match value.int? with
    | some n =>
      let inside := if step > 0 then start ≤ n && n < stop else stop < n && n ≤ start
      return inside && (n - start) % step == 0
    | none => return false
  | .object _ | .tuple _ | .bytes _ =>
    let heap := (← get).heap
    return (← itemsOf whole).any (·.equals heap value)
  | _ => raise "TypeError" s!"argument of type '{← kindOf whole}' is not iterable"

/-- Whether two values are one. -/
def isSame (a b : Value) : Run Bool := do
  match a, b with
  | .object m, .object n => return m == n
  | .nothing, .nothing => return true
  | .bool p, .bool q => return p == q
  | .nothing, _ | _, .nothing | .bool _, _ | _, .bool _ => return false
  | a, b => equal a b

/-- Whether a relation holds. -/
def relate (relation : Relation) (a b : Value) : Run Bool := do
  let heap := (← get).heap
  let less (a b : Value) : Run Bool := do
    match a.less? heap 10000 b with
    | some found => return found
    | none =>
      raise "TypeError" s!"'{relation.sign}' not supported between instances of '{
        a.kind heap}' and '{b.kind heap}'"
  match relation with
  | .equal => equal a b
  | .different => return !(← equal a b)
  | .less => less a b
  | .greater => less b a
  | .atMost => return (← less a b) || (← equal a b)
  | .atLeast => return (← less b a) || (← equal a b)
  | .member negated => return (← isMember a b) != negated
  | .same negated => return (← isSame a b) != negated

/-! ## Functions -/

/-- The whole number that a text writes to a base. -/
def readInt? (base : Nat) (text : List Char) : Option Int :=
  let body := ((text.dropWhile isBlankChar).reverse.dropWhile isBlankChar).reverse
  let (negative, digits) := match body with
    | '-' :: rest => (true, rest)
    | '+' :: rest => (false, rest)
    | rest => (false, rest)
  let mark := (digits.take 2).map Char.toLower
  let (base, digits) :=
    if (base == 16 || base == 0) && mark == ['0', 'x'] then (16, digits.drop 2)
    else if (base == 8 || base == 0) && mark == ['0', 'o'] then (8, digits.drop 2)
    else if (base == 2 || base == 0) && mark == ['0', 'b'] then (2, digits.drop 2)
    else (if base == 0 then 10 else base, digits)
  let valueOf (c : Char) : Option Nat :=
    let c := c.toLower
    let n := if c.isDigit then c.toNat - 48 else if c.isAlpha then c.toNat - 87 else 99
    if n < base then some n else none
  let plain := digits.filter (· != '_')
  if plain.isEmpty || digits.head? == some '_' || digits.getLast? == some '_' then none
  else
    (plain.mapM valueOf).map fun values =>
      let n : Nat := values.foldl (fun n d => n * base + d) 0
      if negative then -(n : Int) else n

/-- The number of the machine that a text writes. -/
def readFloat? (text : List Char) : Option Float :=
  let body := ((text.dropWhile isBlankChar).reverse.dropWhile isBlankChar).reverse
  let digits := match body with
    | '-' :: rest | '+' :: rest => rest
    | rest => rest
  let word := String.ofList (digits.map Char.toLower)
  let isNumber := match digits with
    | '.' :: c :: _ => c.isDigit
    | c :: _ => c.isDigit
    | [] => false
  let signed (x : Float) : Float := if body.head? == some '-' then -x else x
  if word == "inf" || word == "infinity" then some (signed (1.0 / 0.0))
  else if word == "nan" then some (0.0 / 0.0)
  else if !isNumber || digits.any (fun c => c == 'x' || c == 'X') then none
  else
    match Fraction.read? Fraction.doubleBits (body.filter (· != '_')) with
    | some (fraction, []) => some fraction.toFloat
    | _ => none

/-- A number of the machine next to another one with so many digits behind the point; a half goes to
the even neighbour. -/
def roundTo (x : Float) (places : Int) : Float :=
  match Fraction.ofFloat x with
  | .finite negative m e =>
    let (n, d) := Fraction.ratio m e
    let scale := Nat.pow 10 places.natAbs
    let result := if places ≥ 0 then
        Fraction.ofRatio Fraction.doubleBits negative (Fraction.roundDiv (n * scale) d) scale
      else
        Fraction.ofRatio Fraction.doubleBits negative (Fraction.roundDiv n (d * scale) * scale) 1
    result.toFloat
  | _ => x

/-- How many values a value has. -/
def sizeOfValue (value : Value) : Run Nat := do
  match value with
  | .text t => return t.length
  | .bytes octets => return octets.length
  | .tuple items => return items.length
  | .range start stop step => return (rangeItems start stop step).length
  | .object number =>
    match ← object number with
    | some (.list items) | some (.set items) => return items.size
    | some (.dict entries) => return entries.size
    | _ => raise "TypeError" s!"object of type '{← kindOf value}' has no len()"
  | _ => raise "TypeError" s!"object of type '{← kindOf value}' has no len()"

/-- Whether a value belongs to a class. -/
def isInstance (value kind : Value) : Run Bool := do
  let here ← kindOf value
  let name := match kind with
    | .builtin name => name
    | _ => ""
  return here == name || name == "object" || (here == "bool" && name == "int") ||
    ((Value.exceptionKind? here).isSome && Value.belongsTo 20 here name)

/-- Writes values as they are meant to be read. -/
def print (values : List Value) (named : List (String × Value)) : Run Value := do
  let between ← (match named.lookup "sep" with
    | some (.text t) => pure t
    | _ => pure [' '] : Run (List Char))
  let ending ← (match named.lookup "end" with
    | some (.text t) => pure t
    | _ => pure ['\n'] : Run (List Char))
  values.forM requireWritable
  let texts ← values.mapM shownText
  let target : Value := match named.lookup "file" with
    | some .nothing | none => .object 1
    | some other => other
  match target with
  | .object number =>
    match ← object number with
    | some (.file file) =>
      let _ ← writeValue file (.text (between.intercalate texts ++ ending))
      match named.lookup "flush" with
      | some value =>
        if ← truth value then
          let _ ← fileMethod number file "flush" []
      | none => pure ()
      return .nothing
    | _ => raise "AttributeError" s!"'{← kindOf target}' object has no attribute 'write'"
  | other => raise "AttributeError" s!"'{← kindOf other}' object has no attribute 'write'"

/-- A class as a function. -/
def construct (name : String) (values : List Value) (named : List (String × Value)) :
    Run Value := do
  let first? : Option Value := values.head?
  match name with
  | "str" =>
    match first? with
    | none => return .text []
    | some value =>
      requireWritable value
      match value, values with
      | .bytes octets, _ :: _ :: _ => return ofOctets octets
      | value, _ => return .text (← shownText value)
  | "int" =>
    match first? with
    | none => return .int 0
    | some (.text t) =>
      let base? : Option Value := (values[1]?).orElse fun _ => named.lookup "base"
      let base := ((base?.bind Value.int?).getD 10).toNat
      match readInt? base t with
      | some n => return .int n
      | none =>
        raise "ValueError" s!"invalid literal for int() with base {base}: {
          String.ofList (Value.quotedText t)}"
    | some (.float x) => wholeNear (.float x) id
    | some value =>
      match value.int? with
      | some n => return .int n
      | none =>
        raise "TypeError" s!"int() argument must be a string, a bytes-like object or a real number, not '{
          ← kindOf value}'"
  | "float" =>
    match first? with
    | none => return .float 0
    | some (.text t) =>
      match readFloat? t with
      | some x => return .float x
      | none =>
        raise "ValueError" s!"could not convert string to float: {
          String.ofList (Value.quotedText t)}"
    | some value =>
      match value.float? with
      | some x => return .float x
      | none =>
        raise "TypeError" s!"float() argument must be a string or a real number, not '{
          ← kindOf value}'"
  | "bool" =>
    match first? with
    | none => return .bool false
    | some value => return .bool (← truth value)
  | "list" =>
    match first? with
    | none => newList []
    | some value => newList (← itemsOf value)
  | "tuple" =>
    match first? with
    | none => return .tuple []
    | some value => return .tuple (← itemsOf value)
  | "set" | "frozenset" =>
    let items ← (match first? with
      | none => pure []
      | some value => itemsOf value : Run (List Value))
    allot (.set (distinct (← get).heap items))
  | "dict" =>
    let entries : List (Value × Value) ← match first? with
      | none => pure []
      | some (.object number) => do
        match ← object number with
        | some (.dict entries) => pure entries.toList
        | _ => do
          let pairs ← (← itemsOf (.object number)).mapM itemsOf
          pure (pairs.filterMap fun pair => match pair with
            | [key, value] => some (key, value)
            | _ => none)
      | some other => do
        let pairs ← (← itemsOf other).mapM itemsOf
        pure (pairs.filterMap fun pair => match pair with
          | [key, value] => some (key, value)
          | _ => none)
    let heap := (← get).heap
    let more := named.map fun (name, value) => (Value.ofString name, value)
    let entries : Array (Value × Value) := (entries ++ more).foldl
      (fun found (key, value) => withEntry heap found key value) #[]
    allot (.dict entries)
  | "range" =>
    match ← values.mapM wholeOf with
    | [stop] => return .range 0 stop 1
    | [start, stop] => return .range start stop 1
    | [start, stop, step] =>
      if step == 0 then raise "ValueError" "range() arg 3 must not be zero"
      else return .range start stop step
    | _ => raise "TypeError" "range expected at least 1 argument, got 0"
  | "bytes" =>
    match first? with
    | none => return .bytes []
    | some (.text t) => return .bytes (toOctets t)
    | some (.int n) => return .bytes (List.replicate (min n.toNat maxItems) '\x00')
    | some value =>
      let numbers ← (← itemsOf value).mapM wholeOf
      return .bytes (numbers.map fun n => Char.ofNat (n % 256).toNat)
  | "type" =>
    match first? with
    | some value => return .builtin (← kindOf value)
    | none => raise "TypeError" "type() takes 1 or 3 arguments"
  | _ => return .exception name values

/-- A function that is always there and calls no other one. -/
def builtinFunction (name : String) (values : List Value) (named : List (String × Value)) :
    Run Value := do
  let heap := (← get).heap
  let needed : Run Value := do
    match values with
    | value :: _ => return value
    | [] => raise "TypeError" s!"{name}() takes exactly one argument (0 given)"
  let first : Value := (values.head?).getD .nothing
  let second? : Option Value := values[1]?
  let based (mark : String) (base : Nat) : Run Value := do
    let n ← wholeOf (← needed)
    let sign := if n < 0 then ['-'] else []
    return .text (sign ++ mark.toList ++ Nat.toDigits base n.natAbs)
  let come (items : List Value) (kind : String) : Run Value := allot (.iterator kind items)
  match name with
  | "print" => print values named
  | "len" => return .int (← sizeOfValue (← needed))
  | "repr" =>
    requireWritable (← needed)
    return .text (first.repr heap)
  | "ascii" => return .text (asciiOnly (first.repr heap))
  | "format" =>
    let form ← (match second? with
      | some value => shownText value
      | none => pure [] : Run (List Char))
    return .text (← orRaise (formatted heap first form))
  | "abs" =>
    match ← needed with
    | .float x => return .float x.abs
    | value => return .int (← wholeOf value).natAbs
  | "ord" =>
    match ← needed with
    | .text [c] => return .int c.toNat
    | .text t =>
      raise "TypeError" s!"ord() expected a character, but string of length {t.length} found"
    | other => raise "TypeError" s!"ord() expected string of length 1, but {← kindOf other} found"
  | "chr" =>
    let n ← wholeOf (← needed)
    if n < 0 || n ≥ 1114112 then raise "ValueError" "chr() arg not in range(0x110000)"
    else return .text [Char.ofNat n.toNat]
  | "hex" => based "0x" 16
  | "oct" => based "0o" 8
  | "bin" => based "0b" 2
  | "id" => return .int 140000000000000
  | "callable" =>
    return .bool (match first with
      | .builtin _ | .method _ _ => true
      | .object number => match heap[number]? with
        | some (.function _ _ _ _) => true
        | _ => false
      | _ => false)
  | "isinstance" =>
    let kinds : List Value := match second? with
      | some (.tuple kinds) => kinds
      | some kind => [kind]
      | none => []
    let mut found := false
    for kind in kinds do
      if ← isInstance first kind then found := true
    return .bool found
  | "sum" =>
    let mut total : Value := second?.getD ((named.lookup "start").getD (.int 0))
    for item in ← itemsOf (← needed) do total ← operate .add total item
    return total
  | "any" =>
    let items ← itemsOf (← needed)
    return .bool (items.any (·.isTrue heap))
  | "all" =>
    let items ← itemsOf (← needed)
    return .bool (items.all (·.isTrue heap))
  | "reversed" =>
    let items ← itemsOf (← needed)
    come items.reverse "list_reverseiterator"
  | "enumerate" =>
    let start ← (match second?, named.lookup "start" with
      | some value, _ | none, some value => wholeOf value
      | none, none => pure 0 : Run Int)
    let items ← itemsOf (← needed)
    come (items.zipIdx.map fun (item, n) => .tuple [.int (start + n), item]) "enumerate"
  | "zip" =>
    let rows ← values.mapM itemsOf
    let size := ((rows.map List.length).min?).getD 0
    come ((List.range size).map fun n =>
      .tuple (rows.map fun row => (row[n]?).getD .nothing)) "zip"
  | "iter" => come (← itemsOf (← needed)) "list_iterator"
  | "next" =>
    match first with
    | .object number =>
      match ← object number with
      | some (.iterator kind (item :: rest)) =>
        setObject number (.iterator kind rest)
        return item
      | some (.iterator _ []) =>
        match second? with
        | some value => return value
        | none => raiseValue (.exception "StopIteration" [])
      | some (.file file) =>
        match ← fileMethod number file "readline" [] with
        | .text [] => raiseValue (.exception "StopIteration" [])
        | line => return line
      | _ => raise "TypeError" s!"'{← kindOf first}' object is not an iterator"
    | _ => raise "TypeError" s!"'{← kindOf first}' object is not an iterator"
  | "divmod" =>
    let second : Value := second?.getD .nothing
    return .tuple [← operate .floorDivide first second, ← operate .remainder first second]
  | "pow" =>
    match values with
    | [a, b, c] =>
      let n ← wholeOf a
      let e ← wholeOf b
      let m ← wholeOf c
      if m == 0 then raise "ValueError" "pow() 3rd argument cannot be 0"
      else
        let product := (Nat.toDigits 2 e.toNat).foldl
          (fun (found : Int) d =>
            let twice := Int.fmod (found * found) m
            if d == '1' then Int.fmod (twice * n) m else twice)
          (Int.fmod 1 m)
        return .int product
    | _ => operate .power first (second?.getD .nothing)
  | "round" =>
    match ← needed, second? with
    | .float x, none | .float x, some .nothing => wholeNear (.float (roundTo x 0)) id
    | .float x, some places => return .float (roundTo x (← wholeOf places))
    | value, _ => return .int (← wholeOf value)
  | "input" =>
    match first with
    | .nothing => pure ()
    | prompt => do
      let _ ← print [prompt] [("end", .text [])]
    (Tool.flush : Tool Unit)
    match ← (Tool.line? 0 : Tool (Except FileError (Option (Octets × Bool)))) with
    | .ok (some (line, _)) => return ofOctets line
    | _ => raise "EOFError" "EOF when reading a line"
  | "open" =>
    let mode := match second? with
      | some mode => mode
      | none => (named.lookup "mode").getD .nothing
    openFile (← needed) mode
  | "exit" | "quit" => raiseValue (.exception "SystemExit" values)
  | "__import__" =>
    let wanted := String.ofList (← shownText first)
    if moduleNames.contains wanted then return .module wanted
    else raise "ModuleNotFoundError" s!"No module named '{wanted}'"
  | _ => raise "NotImplementedError" name

end TaskRunner.Shell.Snippet
