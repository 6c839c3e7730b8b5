import TaskRunner.Shell.Digest
import TaskRunner.Shell.Permission
import TaskRunner.Shell.Tool.Count
import TaskRunner.Shell.Tool.Options
/- # TaskRunner.Shell.Utility.Dump -- octets as numbers and in other letters

A dump shows the octets of a text in rows, each with the place where it begins.  Other programs here
write octets with few letters, or sum them up. -/

namespace TaskRunner.Shell.Utility
set_option autoImplicit false

/-! ## Dumps -/

/-- How octets are shown. -/
structure DumpForm where
  letter : Char
  size : Nat := 1
  /-- Whether the octets are shown as text at the end of the row. -/
  trailer : Bool := false

/-- The names of control characters. -/
def controlNames : List String := ["nul", "soh", "stx", "etx", "eot", "enq", "ack", "bel", "bs", "ht",
  "nl", "vt", "ff", "cr", "so", "si", "dle", "dc1", "dc2", "dc3", "dc4", "nak", "syn", "etb", "can",
  "em", "sub", "esc", "fs", "gs", "rs", "us", "sp"]

/-- An octet as a character, or what stands for it. -/
def characterText (c : Char) : Octets :=
  match c with
  | '\x00' => "\\0".toList
  | '\x07' => "\\a".toList
  | '\x08' => "\\b".toList
  | '\t' => "\\t".toList
  | '\n' => "\\n".toList
  | '\x0b' => "\\v".toList
  | '\x0c' => "\\f".toList
  | '\r' => "\\r".toList
  | c => if 32 ≤ c.toNat && c.toNat < 127 then [c] else Permission.inOctal 3 c.toNat

namespace DumpForm

/-- How wide a number is shown. -/
def width (form : DumpForm) : Nat :=
  match form.letter, form.size with
  | 'a', _ | 'c', _ => 3
  | 'x', size => 2 * size
  | 'o', 1 => 3
  | 'o', 2 => 6
  | 'o', 4 => 11
  | 'o', _ => 22
  | 'd', 1 => 4
  | 'd', 2 => 6
  | 'd', 4 => 11
  | 'd', _ => 20
  | _, 1 => 3
  | _, 2 => 5
  | _, 4 => 10
  | _, _ => 20

/-- A few octets as they are shown. -/
def text (form : DumpForm) (octets : Octets) : Octets :=
  let value := octets.foldr (fun c n => n * 256 + c.toNat) 0
  let shown := match form.letter with
    | 'c' => characterText (octets.headD '\x00')
    | 'a' =>
      let n := value % 128
      if n == 127 then "del".toList
      else match controlNames[n]? with
        | some name => name.toList
        | none => [Char.ofNat n]
    | 'x' => Octets.padStart (2 * form.size) (Nat.toDigits 16 value) '0'
    | 'o' => Permission.inOctal form.width value
    | 'd' =>
      let limit := 1 <<< (8 * form.size)
      Octets.ofInt (if 2 * value ≥ limit then (value : Int) - limit else value)
    | _ => Octets.ofNat value
  Octets.padStart form.width shown

/-- The octets of a row in groups. -/
def groups (form : DumpForm) (fuel : Nat) (octets : Octets) : List Octets :=
  match fuel with
  | 0 => []
  | fuel + 1 =>
    if octets.isEmpty then []
    else octets.take form.size :: groups form fuel (octets.drop form.size)

/-- A row; `room` is the width of what is shown for one octet. -/
def row (form : DumpForm) (room : Nat) (perRow : Nat) (octets : Octets) : Octets :=
  let cell (group : Octets) : Octets := Octets.padStart (room * form.size) (form.text group)
  let shown := (form.groups octets.length octets).flatMap cell
  if !form.trailer then shown
  else
    let visible := octets.map fun c => if 32 ≤ c.toNat && c.toNat < 127 then c else '.'
    Octets.padEnd (room * perRow) shown ++ "  >".toList ++ visible ++ ['<']

/-- Reads forms one behind the other. -/
def readAll (fuel : Nat) (text : Octets) : Option (List DumpForm) :=
  match fuel, text with
  | fuel + 1, letter :: rest =>
    let digits := rest.takeWhile Char.isDigit
    let after := rest.drop digits.length
    let named : Option Nat := match after.head? with
      | some 'C' => some 1
      | some 'S' => some 2
      | some 'I' => some 4
      | some 'L' => some 8
      | _ => none
    let (size, after) := match Octets.natural? digits, named with
      | some n, _ => (n, after)
      | none, some n => (n, after.drop 1)
      | none, none => (if letter == 'a' || letter == 'c' then 1 else 4, after)
    let trailer := after.head? == some 'z'
    let after := if trailer then after.drop 1 else after
    if !"acdoux".toList.contains letter || !([1, 2, 4, 8].contains size) then none
    else (readAll fuel after).map ({ letter, size, trailer } :: ·)
  | _, _ => some []

end DumpForm

/-- The place of a row. -/
def placeText (base : Char) (n : Nat) : Octets :=
  match base with
  | 'd' => Octets.padStart 7 (Octets.ofNat n) '0'
  | 'x' => Octets.padStart 6 (Nat.toDigits 16 n) '0'
  | 'n' => []
  | _ => Permission.inOctal 7 n

/-- Shows the rows of a text. -/
def dumpRows (forms : List DumpForm) (base : Char) (width : Nat) (all : Bool) (fuel : Nat)
    (place : Nat) (last : Option Octets) (starred : Bool) (text : Octets) : Tool Unit :=
  match fuel with
  | 0 => return ()
  | fuel + 1 => do
    if text.isEmpty then
      if base != 'n' then Tool.putLine (placeText base place)
    else
      let row := text.take width
      let rest := text.drop width
      if !all && last == some row && row.length == width then
        if !starred then Tool.putLine ['*']
        dumpRows forms base width all fuel (place + width) last true rest
      else
        let room := (forms.map fun form => (form.width + form.size) / form.size).foldl max 0
        for (form, i) in forms.zip (List.range forms.length) do
          let lead := if i == 0 then placeText base place
            else List.replicate (placeText base place).length ' '
          let missing := (form.size - row.length % form.size) % form.size
          let filled := row ++ List.replicate missing '\x00'
          let single := forms.length == 1
          let room := if single then 0 else room
          let text := if single then
              let shown := (form.groups filled.length filled).flatMap fun group =>
                ' ' :: form.text group
              if form.trailer then
                let full := (width / form.size) * (form.width + 1)
                let visible := row.map fun c => if 32 ≤ c.toNat && c.toNat < 127 then c else '.'
                Octets.padEnd full shown ++ "  >".toList ++ visible ++ ['<']
              else shown
            else form.row room width filled
          Tool.putLine (lead ++ text)
        dumpRows forms base width all fuel (place + row.length) (some row) false rest

def od (arguments : List Octets) : Tool Unit := do
  let found ← Options.ofWords
    ["A address-radix=", "j skip-bytes=", "N read-bytes=", "t format=", "v output-duplicates",
      "w width~", "a", "b", "c", "d", "o", "s", "x", "i", "l", "S strings~", "endian="] arguments
  let form? (entry : Options.Given) : Option (List DumpForm) :=
    match entry.1 with
    | "t" => DumpForm.readAll (entry.2.length + 1) entry.2
    | "a" => some [{ letter := 'a' }]
    | "b" => some [{ letter := 'o' }]
    | "c" => some [{ letter := 'c' }]
    | "d" => some [{ letter := 'u', size := 2 }]
    | "o" => some [{ letter := 'o', size := 2 }]
    | "s" => some [{ letter := 'd', size := 2 }]
    | "x" => some [{ letter := 'x', size := 2 }]
    | "i" => some [{ letter := 'd', size := 4 }]
    | "l" => some [{ letter := 'd', size := 8 }]
    | _ => some []
  let forms ← found.given.mapM fun entry => do
    match form? entry with
    | some forms => return forms
    | none => Tool.fail 1 s!"invalid type string {Tool.quoted entry.2}"
  let forms := if forms.flatten.isEmpty then [{ letter := 'o', size := 2 }] else forms.flatten
  let base := ((found.value? "A").bind List.head?).getD 'o'
  let count (key : String) : Option Nat := (found.value? key).bind Count.ofText?
  let width := match found.value? "w" with
    | some text => (Octets.natural? text).getD 32
    | none => 16
  let paths := if found.operands.isEmpty then [['-']] else found.operands
  let mut text : Octets := []
  for path in paths do
    match ← Tool.contents? path with
    | some more => text := text ++ more
    | none => pure ()
  let skipped := (count "j").getD 0
  let shown := text.drop skipped
  let shown := match count "N" with
    | some n => shown.take n
    | none => shown
  if text.isEmpty && (← Tool.progress).status != 0 then return ()
  dumpRows forms base width (found.has "v") (shown.length + 2) skipped none false shown

/-! ## Few letters -/

/-- Letters that stand for so many bits each. -/
structure Alphabet where
  bits : Nat
  letters : Octets
  /-- How many letters go together; a sign stands for those that are missing. -/
  group : Nat

def Alphabet.base64 : Alphabet where
  bits := 6
  letters := "ABCDEFGHIJKLMNOPQRSTUVWXYZabcdefghijklmnopqrstuvwxyz0123456789+/".toList
  group := 4

def Alphabet.base32 : Alphabet where
  bits := 5
  letters := "ABCDEFGHIJKLMNOPQRSTUVWXYZ234567".toList
  group := 8

namespace Alphabet

/-- The letters of octets that make up a group. -/
def encodeGroup (alphabet : Alphabet) (octets : Octets) : Octets :=
  let whole := alphabet.group * alphabet.bits / 8
  let filled := octets ++ List.replicate (whole - octets.length) '\x00'
  let n := filled.foldl (fun n c => n * 256 + c.toNat) 0
  let used := (octets.length * 8 + alphabet.bits - 1) / alphabet.bits
  (List.range alphabet.group).map fun i =>
    if i < used then
      (alphabet.letters[(n >>> ((alphabet.group - 1 - i) * alphabet.bits)) %
        alphabet.letters.length]?).getD '='
    else '='

def encode (alphabet : Alphabet) (fuel : Nat) (octets : Octets) : Octets :=
  match fuel with
  | 0 => []
  | fuel + 1 =>
    if octets.isEmpty then []
    else
      let whole := alphabet.group * alphabet.bits / 8
      alphabet.encodeGroup (octets.take whole) ++ encode alphabet fuel (octets.drop whole)

/-- The octets that letters stand for, and whether all of them are in order. -/
def decode (alphabet : Alphabet) (fuel : Nat) (letters : Octets) : Octets × Bool :=
  match fuel with
  | 0 => ([], true)
  | fuel + 1 =>
    if letters.isEmpty then ([], true)
    else
      let group := letters.take alphabet.group
      let used := group.takeWhile alphabet.letters.contains
      let value := used.foldl (fun n c => n * alphabet.letters.length +
        (alphabet.letters.idxOf? c).getD 0) 0
      let bits := used.length * alphabet.bits
      let count := bits / 8
      let octets := (List.range count).map fun i =>
        Char.ofNat ((value >>> (bits - 8 * (i + 1))) % 256)
      let isWhole := group.length == alphabet.group && (group.drop used.length).all (· == '=') &&
        used.length > 1
      if !isWhole then (octets, false)
      else if used.length < alphabet.group then
        if letters.length > alphabet.group then (octets, false) else (octets, true)
      else
        let (more, isRight) := decode alphabet fuel (letters.drop alphabet.group)
        (octets ++ more, isRight)

end Alphabet

/-- A text in lines of a width. -/
def wrapped (width : Nat) (fuel : Nat) (text : Octets) : Octets :=
  match fuel with
  | 0 => text
  | fuel + 1 =>
    if text.isEmpty then []
    else if width == 0 then text
    else text.take width ++ '\n' :: wrapped width fuel (text.drop width)

def base (alphabet : Alphabet) (arguments : List Octets) : Tool Unit := do
  let found ← Options.ofWords ["d decode", "i ignore-garbage", "w wrap="] arguments
  match found.operands.drop 1 with
  | [] => pure ()
  | extra :: _ => Tool.extraOperand 1 extra
  match ← Tool.contents? (found.operands.headD ['-']) with
  | none => return ()
  | some text =>
    if found.has "d" then
      let letters := text.filter fun c =>
        c != '\n' && (!found.has "i" || alphabet.letters.contains c || c == '=')
      let (octets, isRight) := alphabet.decode (letters.length + 1) letters
      Tool.put octets
      if !isRight then
        Tool.flush
        Tool.fail 1 "invalid input"
    else
      let width ← match found.value? "w" with
        | none => pure 76
        | some text =>
          match Octets.natural? text with
          | some n => pure n
          | none => Tool.fail 1 s!"invalid wrap size: {Tool.quoted text}"
      let letters := alphabet.encode (text.length + 1) text
      Tool.put (wrapped width (letters.length + 1) letters)

/-! ## Sums -/

/-- Checks the sums that a file lists. -/
def checkSums (digest : ByteArray → Octets) (path : Octets) (quiet : Bool) : Tool Unit := do
  match ← Tool.contents? path with
  | none => return ()
  | some text =>
    let size := (digest .empty).length
    let entry? (line : Octets) : Option (Octets × Octets) :=
      let sum := line.take size
      let rest := line.drop size
      if sum.length == size && sum.all (fun c => (Octets.hexDigit? c).isSome) &&
          rest.head? == some ' ' && rest.length > 2 then some (sum, rest.drop 2)
      else none
    let entries := (Octets.lines text).filterMap entry?
    if entries.isEmpty then
      Tool.fail 1 s!"{Tool.shown path}: no properly formatted checksum lines found"
    let mut wrong := 0
    let mut missing := 0
    for (sum, name) in entries do
      match ← Tool.contents? name with
      | none =>
        missing := missing + 1
        Tool.putLine (name ++ ": FAILED open or read".toList)
      | some content =>
        if digest (Octets.toBytes content) == sum.map Char.toLower then
          if !quiet then Tool.putLine (name ++ ": OK".toList)
        else
          wrong := wrong + 1
          Tool.putLine (name ++ ": FAILED".toList)
    if missing > 0 then
      Tool.blame 1 (if missing == 1 then "WARNING: 1 listed file could not be read"
        else s!"WARNING: {missing} listed files could not be read")
    if wrong > 0 then
      Tool.blame 1 (if wrong == 1 then "WARNING: 1 computed checksum did NOT match"
        else s!"WARNING: {wrong} computed checksums did NOT match")

/-- Prints digests of files, or checks them. -/
def digests (digest : ByteArray → Octets) (arguments : List Octets) : Tool Unit := do
  let found ← Options.ofWords
    ["b binary", "c check", "t text", "z zero", "tag", "quiet", "status", "strict", "w warn",
      "ignore-missing"] arguments
  let paths := if found.operands.isEmpty then [['-']] else found.operands
  for path in paths do
    if found.has "c" then checkSums digest path (found.has "quiet")
    else
      match ← Tool.contents? path with
      | some text =>
        let sign := if found.has "b" then ['*'] else [' ']
        Tool.putLine (digest (Octets.toBytes text) ++ ' ' :: sign ++ path)
      | none => pure ()

def cksum (arguments : List Octets) : Tool Unit := do
  let found ← Options.ofWords ["a algorithm=", "z zero"] arguments
  let paths := if found.operands.isEmpty then [['-']] else found.operands
  for path in paths do
    match ← Tool.contents? path with
    | some text =>
      let name := if found.operands.isEmpty then [] else ' ' :: path
      let sum := Digest.cyclic (Octets.toBytes text)
      Tool.putLine (Octets.ofNat sum ++ ' ' :: Octets.ofNat text.length ++ name)
    | none => pure ()

def sum (arguments : List Octets) : Tool Unit := do
  let found ← Options.ofWords ["r", "s sysv"] arguments
  let paths := if found.operands.isEmpty then [['-']] else found.operands
  for path in paths do
    match ← Tool.contents? path with
    | some text =>
      let name := if found.operands.isEmpty then [] else ' ' :: path
      if found.has "s" then
        let total := text.foldl (fun n c => n + c.toNat) 0
        let part := total % 65536 + total % 4294967296 / 65536
        let total := part % 65536 + part / 65536
        Tool.putLine (Octets.ofNat total ++ ' ' :: Octets.ofNat ((text.length + 511) / 512) ++ name)
      else
        let total := Octets.padStart 5 (Octets.ofNat (Digest.turning (Octets.toBytes text))) '0'
        let blocks := Octets.padStart 5 (Octets.ofNat ((text.length + 1023) / 1024))
        Tool.putLine (total ++ ' ' :: blocks ++ name)
    | none => pure ()

end TaskRunner.Shell.Utility
