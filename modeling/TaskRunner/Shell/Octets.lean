/- # TaskRunner.Shell.Octets -- texts as the shell sees them

To the shell a text is a sequence of octets: it may cut an encoded character in two, and a program
may print what no text encodes to.  An octet is written as the character of its number. -/

namespace TaskRunner.Shell
set_option autoImplicit false

/-- A sequence of octets, each as the character of its number. -/
abbrev Octets := List Char

instance : Hashable Octets := ⟨fun octets => hash (String.ofList octets)⟩

namespace Octets

def ofBytes (bytes : ByteArray) : Octets := bytes.toList.map fun byte => Char.ofNat byte.toNat

def toBytes (octets : Octets) : ByteArray :=
  octets.foldl (fun bytes c => bytes.push (UInt8.ofNat c.toNat)) .empty

/-- The octets that encode a text. -/
def ofText (text : String) : Octets := ofBytes text.toUTF8

/-! ## Decoding -/

/-- What an octet at the start of a character says: how many octets follow, the bits of the code
point that it holds, and the range in which the next octet must lie. -/
structure Lead where
  more : Nat
  bits : Nat
  least : Nat := 0x80
  most : Nat := 0xBF

def lead? (n : Nat) : Option Lead :=
  if n < 0x80 then some ⟨0, n, 0x80, 0xBF⟩
  else if 0xC2 ≤ n ∧ n ≤ 0xDF then some ⟨1, n - 0xC0, 0x80, 0xBF⟩
  else if n = 0xE0 then some ⟨2, 0, 0xA0, 0xBF⟩
  else if n = 0xED then some ⟨2, 0xD, 0x80, 0x9F⟩
  else if 0xE1 ≤ n ∧ n ≤ 0xEF then some ⟨2, n - 0xE0, 0x80, 0xBF⟩
  else if n = 0xF0 then some ⟨3, 0, 0x90, 0xBF⟩
  else if 0xF1 ≤ n ∧ n ≤ 0xF3 then some ⟨3, n - 0xF0, 0x80, 0xBF⟩
  else if n = 0xF4 then some ⟨3, 4, 0x80, 0x8F⟩
  else none

/-- The character that stands for octets that encode nothing. -/
def substitute : Char := '\ufffd'

/-- Reads the octets of a character behind the first; `substitute` stands for those that were read
when one of them is out of range. -/
def decodeMore (more bits least most : Nat) (octets : Octets) : Char × Octets :=
  match more, octets with
  | 0, rest => (Char.ofNat bits, rest)
  | _ + 1, [] => (substitute, [])
  | more + 1, c :: rest =>
    if least ≤ c.toNat ∧ c.toNat ≤ most then
      decodeMore more (bits * 0x40 + c.toNat % 0x40) 0x80 0xBF rest
    else (substitute, c :: rest)

theorem length_decodeMore_le (more bits least most : Nat) (octets : Octets) :
    (decodeMore more bits least most octets).2.length ≤ octets.length := by
  induction more generalizing bits least most octets with
  | zero => simp [decodeMore]
  | succ more ih =>
    cases octets with
    | nil => simp [decodeMore]
    | cons c rest =>
      simp only [decodeMore]
      split
      · exact Nat.le_succ_of_le (ih ..)
      · simp

/-- The characters that octets encode. -/
def decode (octets : Octets) : List Char :=
  match octets with
  | [] => []
  | c :: rest =>
    match lead? c.toNat with
    | none => substitute :: decode rest
    | some lead =>
      let read := decodeMore lead.more lead.bits lead.least lead.most rest
      read.1 :: decode read.2
termination_by octets.length
decreasing_by
  · simp
  · exact Nat.lt_succ_of_le (length_decodeMore_le ..)

/-- The text that octets encode. -/
def toText (octets : Octets) : String := String.ofList octets.decode

/-! ## Lines and pieces -/

/-- The lines of a text, each without the line feed that ends it; the last may have none. -/
def lines (octets : Octets) : List Octets :=
  let step (found : List Octets × Octets) (c : Char) : List Octets × Octets :=
    if c == '\n' then (found.2.reverse :: found.1, []) else (found.1, c :: found.2)
  let (read, last) := octets.foldl step ([], [])
  (if last.isEmpty then read else last.reverse :: read).reverse

/-- Lines with a line feed behind each. -/
def unlines (lines : List Octets) : Octets := lines.flatMap (· ++ ['\n'])

/-- A text cut at every octet of a class. -/
def splitWhere (isCut : Char → Bool) (octets : Octets) : List Octets :=
  let (found, last) := octets.foldr
    (fun d (state : List Octets × Octets) =>
      if isCut d then (state.2 :: state.1, []) else (state.1, d :: state.2))
    ([], [])
  last :: found

/-- A text cut at every occurrence of an octet. -/
def splitAt (c : Char) (octets : Octets) : List Octets := octets.splitWhere (· == c)

/-- A text cut in two at the first occurrence of an octet, if there is one. -/
def cut? (c : Char) (octets : Octets) : Option (Octets × Octets) :=
  let first := octets.takeWhile (· != c)
  if first.length < octets.length then some (first, octets.drop (first.length + 1)) else none

/-- Texts with a text between them. -/
def join (between : Octets) (texts : List Octets) : Octets := between.intercalate texts

/-- Blanks around a text. -/
def isBlank (c : Char) : Bool := c == ' ' || c == '\t' || c == '\n'

/-- An octet that separates words. -/
def isSpace (c : Char) : Bool := isBlank c || c == '\r' || c == '\x0b' || c == '\x0c'

def trim (octets : Octets) : Octets :=
  ((octets.dropWhile isBlank).reverse.dropWhile isBlank).reverse

/-- The words of a text, between blanks. -/
def words (octets : Octets) : List Octets :=
  (octets.splitWhere isBlank).filter (!·.isEmpty)

/-- Blanks in front of a text, up to a width. -/
def padStart (width : Nat) (octets : Octets) (c : Char := ' ') : Octets :=
  List.replicate (width - octets.length) c ++ octets

/-- Blanks behind a text, up to a width. -/
def padEnd (width : Nat) (octets : Octets) : Octets :=
  octets ++ List.replicate (width - octets.length) ' '

/-! ## Numbers -/

/-- A number in decimal digits. -/
def ofNat (n : Nat) : Octets := Nat.toDigits 10 n

def ofInt (n : Int) : Octets := if n < 0 then '-' :: ofNat n.natAbs else ofNat n.natAbs

/-- The number that decimal digits write. -/
def digitsValue (octets : Octets) : Nat :=
  octets.foldl (fun n c => n * 10 + (c.toNat - '0'.toNat)) 0

/-- Decimal digits as a number. -/
def natural? (octets : Octets) : Option Nat :=
  if octets.isEmpty || !octets.all Char.isDigit then none else some octets.digitsValue

/-- Decimal digits with a sign in front, or without one. -/
def integer? : Octets → Option Int
  | '-' :: rest => (natural? rest).map fun n => -(n : Int)
  | '+' :: rest => (natural? rest).map fun n => (n : Int)
  | rest => (natural? rest).map fun n => (n : Int)

/-- The number of an octal digit, or of a longer row of them. -/
def isOctal (c : Char) : Bool := '0' ≤ c && c ≤ '7'

def octalValue (octets : Octets) : Nat :=
  octets.foldl (fun n c => n * 8 + (c.toNat - '0'.toNat)) 0

/-- Octal digits as a number. -/
def octal? (octets : Octets) : Option Nat :=
  if octets.isEmpty || !octets.all isOctal then none else some octets.octalValue

/-- The number of a hexadecimal digit. -/
def hexDigit? (c : Char) : Option Nat :=
  if c.isDigit then some (c.toNat - '0'.toNat)
  else if 'a' ≤ c ∧ c ≤ 'f' then some (c.toNat - 'a'.toNat + 10)
  else if 'A' ≤ c ∧ c ≤ 'F' then some (c.toNat - 'A'.toNat + 10)
  else none

/-- The number that hexadecimal digits write. -/
def hexValue (octets : Octets) : Nat :=
  octets.foldl (fun n c => n * 16 + (hexDigit? c).getD 0) 0

/-! ## Order -/

/-- Whether one text comes before another, or is the same. -/
def isOrdered : Octets → Octets → Bool
  | [], _ => true
  | _ :: _, [] => false
  | c :: rest, d :: others => c < d || (c == d && isOrdered rest others)

/-- Texts in increasing order. -/
def sorted (texts : List Octets) : List Octets := texts.mergeSort isOrdered

/-- A number of seconds, with a point, in units of nanoseconds. -/
def decimal? (octets : Octets) : Option Nat :=
  let whole := octets.takeWhile Char.isDigit
  let rest := octets.drop whole.length
  let fraction? : Option Octets := match rest with
    | [] => some []
    | '.' :: digits => if digits.all Char.isDigit then some digits else none
    | _ => none
  match fraction? with
  | none => none
  | some fraction =>
    if whole.isEmpty && fraction.isEmpty then none
    else
      let digits := (fraction ++ List.replicate (9 - fraction.length) '0').take 9
      some (digitsValue whole * 1000000000 + digitsValue digits)

end Octets
end TaskRunner.Shell
