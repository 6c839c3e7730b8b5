import TaskRunner.Shell.Snippet.Value
/- # TaskRunner.Shell.Snippet.Formatting -- values in forms

A form says how wide a value is written, on which side, with which sign and in which notation. -/

namespace TaskRunner.Shell.Snippet
set_option autoImplicit false

/-- The class of an exception and its text. -/
abbrev Problem := String × String

structure Form where
  fill : Char := ' '
  align : Option Char := none
  sign : Char := '-'
  alternate : Bool := false
  width : Nat := 0
  grouping : Option Char := none
  precision : Option Nat := none
  letter : Option Char := none

namespace Form

/-- The number at the start of a text, and what follows it. -/
def digits (text : List Char) : Option Nat × List Char :=
  let run := text.takeWhile Char.isDigit
  (Octets.natural? run, text.drop run.length)

/-- The form that a text writes. -/
def ofText? (text : List Char) : Option Form :=
  let isAlign (c : Char) : Bool := "<>=^".toList.contains c
  let (form, text) : Form × List Char := match text with
    | c :: d :: rest =>
      if isAlign d then ({ fill := c, align := some d }, rest)
      else if isAlign c then ({ align := some c }, d :: rest) else ({}, text)
    | c :: rest => if isAlign c then ({ align := some c }, rest) else ({}, text)
    | [] => ({}, [])
  let (form, text) : Form × List Char := match text with
    | c :: rest => if "+- ".toList.contains c then ({ form with sign := c }, rest) else (form, text)
    | [] => (form, [])
  let (form, text) : Form × List Char := match text with
    | '#' :: rest => ({ form with alternate := true }, rest)
    | _ => (form, text)
  let (form, text) : Form × List Char := match text with
    | '0' :: rest =>
      if form.align.isNone then ({ form with fill := '0', align := some '=' }, rest)
      else (form, rest)
    | _ => (form, text)
  let (width, text) := digits text
  let form := { form with width := width.getD 0 }
  let (form, text) : Form × List Char := match text with
    | ',' :: rest => ({ form with grouping := some ',' }, rest)
    | '_' :: rest => ({ form with grouping := some '_' }, rest)
    | _ => (form, text)
  let (precision, text) := match text with
    | '.' :: rest => digits rest
    | _ => (none, text)
  let form := { form with precision }
  match text with
  | [] => some form
  | [c] => if c.isAlpha || c == '%' then some { form with letter := some c } else none
  | _ => none

/-- Blanks around a text with a sign in front of it. -/
def pad (form : Form) (default : Char) (sign text : List Char) : List Char :=
  let missing := form.width - (sign.length + text.length)
  let fill (n : Nat) : List Char := List.replicate n form.fill
  match form.align.getD default with
  | '<' => sign ++ text ++ fill missing
  | '^' => fill (missing / 2) ++ sign ++ text ++ fill (missing - missing / 2)
  | '=' => sign ++ fill missing ++ text
  | _ => fill missing ++ sign ++ text

/-- Digits with a mark between groups of them. -/
def grouped (form : Form) (size : Nat) (digits : List Char) : List Char :=
  match form.grouping with
  | none => digits
  | some mark =>
    let marked := digits.reverse.zipIdx.flatMap fun (c, n) =>
      if n != 0 && n % size == 0 then [mark, c] else [c]
    marked.reverse

def signText (form : Form) (negative : Bool) : List Char :=
  if negative then ['-'] else if form.sign == '-' then [] else [form.sign]

/-- A whole number in a form. -/
def int (form : Form) (n : Int) : List Char :=
  let lead (mark : String) : List Char := if form.alternate then mark.toList else []
  let (mark, digits, size) := match form.letter with
    | some 'b' => (lead "0b", Nat.toDigits 2 n.natAbs, 4)
    | some 'o' => (lead "0o", Nat.toDigits 8 n.natAbs, 4)
    | some 'x' => (lead "0x", Nat.toDigits 16 n.natAbs, 4)
    | some 'X' => (lead "0X", (Nat.toDigits 16 n.natAbs).map Char.toUpper, 4)
    | _ => ([], Nat.toDigits 10 n.natAbs, 3)
  form.pad '>' (form.signText (n < 0) ++ mark) (form.grouped size digits)

/-- A number of the machine in a form. -/
def float (form : Form) (x : Float) : List Char :=
  let fraction := Fraction.ofFloat x
  let isPercent := form.letter == some '%'
  let fraction := if isPercent then match fraction with
      | .finite negative mantissa exponent => .finite negative (mantissa * 100) exponent
      | other => other
    else fraction
  let letter := match form.letter with
    | some '%' => 'f'
    | some 'F' => 'F'
    | some c => c
    | none => 'g'
  let text : List Char := match form.letter, form.precision with
    | none, none => (Value.floatText x).filter (· != '-')
    | some 'n', none | some 'g', none => fraction.digits letter none form.alternate
    | _, precision =>
      let precision := precision.map fun n =>
        if (letter == 'g' || letter == 'G') && n == 0 then 1 else n
      fraction.digits letter precision form.alternate
  let text := if form.letter.isNone && form.precision.isSome && !text.contains '.' &&
      !text.contains 'e' && !text.contains 'n' then text ++ ".0".toList else text
  let whole := text.takeWhile Char.isDigit
  let text := form.grouped 3 whole ++ text.drop whole.length
  form.pad '>' (form.signText fraction.isNegative) (if isPercent then text ++ ['%'] else text)

/-- A text in a form. -/
def text (form : Form) (text : List Char) : List Char :=
  let text := match form.precision with
    | some n => text.take n
    | none => text
  form.pad '<' [] text

end Form

/-- A value in the form that a text writes. -/
def formatted (heap : Heap) (value : Value) (form : List Char) : Except Problem (List Char) :=
  if form.isEmpty then .ok (value.shown heap)
  else
    match Form.ofText? form with
    | none => .error ("ValueError", s!"Invalid format specifier '{String.ofList form}' for object of type '{
        value.kind heap}'")
    | some found =>
      let letter := found.letter.getD ' '
      let unknown : Except Problem (List Char) :=
        .error ("ValueError", s!"Unknown format code '{letter}' for object of type '{
          value.kind heap}'")
      match value with
      | .text t =>
        match found.letter with
        | none | some 's' => .ok (found.text t)
        | _ => unknown
      | .float x =>
        match found.letter with
        | none => .ok (found.float x)
        | some c => if "eEfFgGn%".toList.contains c then .ok (found.float x) else unknown
      | .bool b =>
        match found.letter with
        | none => .ok (found.text (if b then "True".toList else "False".toList))
        | some c =>
          if "eEfFgG%".toList.contains c then .ok (found.float (if b then 1 else 0))
          else .ok (found.int (if b then 1 else 0))
      | .int n =>
        match found.letter with
        | none => .ok (found.int n)
        | some 'c' => .ok (found.text [Char.ofNat n.toNat])
        | some c =>
          if "bdoxXn".toList.contains c then .ok (found.int n)
          else if "eEfFgG%".toList.contains c then .ok (found.float (Value.floatOfInt n))
          else unknown
      | other =>
        .error ("TypeError",
          s!"unsupported format string passed to {other.kind heap}.__format__")

/-! ## Directives -/

/-- Characters that are not of the first row, as they are written in it. -/
def asciiOnly (text : List Char) : List Char :=
  text.flatMap fun c =>
    if c.toNat < 128 then [c]
    else if c.toNat < 256 then '\\' :: 'x' :: Value.hexadecimal 2 c.toNat
    else if c.toNat < 65536 then '\\' :: 'u' :: Value.hexadecimal 4 c.toNat
    else '\\' :: 'U' :: Value.hexadecimal 8 c.toNat

/-- A value filled into a directive. -/
def filled (heap : Heap) (form : Form) (letter : Char) (value : Value) :
    Except Problem (List Char) :=
  let left := form.align == some '<'
  let textual (text : List Char) : Except Problem (List Char) :=
    .ok ({ form with fill := ' ', align := some (if left then '<' else '>') }.text text)
  let number (wanted : String) : Except Problem (List Char) :=
    .error ("TypeError", s!"%{letter} format: {wanted} is required, not {value.kind heap}")
  match letter with
  | 's' => textual (value.shown heap)
  | 'r' => textual (value.repr heap)
  | 'a' => textual (asciiOnly (value.repr heap))
  | 'c' =>
    match value with
    | .text [c] => textual [c]
    | .int n => textual [Char.ofNat n.toNat]
    | _ => .error ("TypeError", "%c requires int or char")
  | _ =>
    if "diu".toList.contains letter then
      let whole := match value with
        | .float x => Value.intOfFloat? x
        | other => other.int?
      match whole with
      | some n => .ok ({ form with letter := none }.int n)
      | none => number "a real number"
    else if "oxX".toList.contains letter then
      match value.int? with
      | some n => .ok ({ form with letter := some letter }.int n)
      | none => number "an integer"
    else if "eEfFgG".toList.contains letter then
      match value.float? with
      | some x => .ok ({ form with letter := some letter }.float x)
      | none => .error ("TypeError", s!"must be real number, not {value.kind heap}")
    else .error ("ValueError", s!"unsupported format character '{letter}'")

/-- Reads the flags of a directive. -/
def readFlags (form : Form) : List Char → Form × List Char
  | '-' :: rest => readFlags { form with align := some '<', fill := ' ' } rest
  | '0' :: rest =>
    readFlags (if form.align == some '<' then form else { form with fill := '0', align := some '=' })
      rest
  | '+' :: rest => readFlags { form with sign := '+' } rest
  | ' ' :: rest => readFlags (if form.sign == '+' then form else { form with sign := ' ' }) rest
  | '#' :: rest => readFlags { form with alternate := true } rest
  | rest => (form, rest)

/-- Fills values into the directives of a text; `named` gives the values for names. -/
def fillIn (heap : Heap) (named : List Char → Option Value) (fuel : Nat) (text : List Char)
    (values : List Value) : Except Problem (List Char × List Value) :=
  match fuel, text with
  | 0, _ | _, [] => .ok ([], values)
  | fuel + 1, '%' :: '%' :: rest => do
    let (shown, values) ← fillIn heap named fuel rest values
    return ('%' :: shown, values)
  | fuel + 1, '%' :: rest => do
    let (key, rest) := match rest with
      | '(' :: more =>
        let key := more.takeWhile (· != ')')
        (some key, more.drop (key.length + 1))
      | _ => (none, rest)
    let (form, rest) := readFlags { align := some '>' } rest
    let (form, rest, values) := match rest, values with
      | '*' :: rest, value :: values =>
        ({ form with width := (value.int?.getD 0).toNat }, rest, values)
      | rest, values =>
        let (width, rest) := Form.digits rest
        ({ form with width := width.getD 0 }, rest, values)
    let (form, rest, values) := match rest, values with
      | '.' :: '*' :: rest, value :: values =>
        ({ form with precision := some (value.int?.getD 0).toNat }, rest, values)
      | '.' :: rest, values =>
        let (precision, rest) := Form.digits rest
        ({ form with precision := some (precision.getD 0) }, rest, values)
      | rest, values => (form, rest, values)
    match rest.dropWhile "hlL".toList.contains with
    | [] => throw ("ValueError", "incomplete format")
    | letter :: rest =>
      let (value, values) ← (match key, values with
        | some key, values =>
          match named key with
          | some value => .ok (value, values)
          | none => .error ("KeyError", String.ofList key)
        | none, value :: values => .ok (value, values)
        | none, [] => .error ("TypeError", "not enough arguments for format string")
        : Except Problem (Value × List Value))
      let first ← filled heap form letter value
      let (shown, values) ← fillIn heap named fuel rest values
      return (first ++ shown, values)
  | fuel + 1, c :: rest => do
    let (shown, values) ← fillIn heap named fuel rest values
    return (c :: shown, values)

end TaskRunner.Shell.Snippet
