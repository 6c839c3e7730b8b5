import TaskRunner.Shell.Octets
/- # TaskRunner.Shell.Digest -- checksums of octets

The digests cut a text into blocks and mix each of them into a few words.  A text is filled up with one
bit, zeros and its length.  The constants of some of them are the fractions of square and cube roots of
the first primes, and of sines. -/

namespace TaskRunner.Shell.Digest
set_option autoImplicit false

/-- Fills a text up to whole blocks; its length in bits stands in the last so many octets. -/
def padded (block sizeOctets : Nat) (bigEndian : Bool) (bytes : ByteArray) : ByteArray :=
  let length := bytes.size
  let used := length + 1 + sizeOctets
  let zeros := (block - used % block) % block
  let bits := length * 8
  let octet (i : Nat) : UInt8 := UInt8.ofNat (bits >>> (8 * i))
  let order := List.range sizeOctets
  let order := if bigEndian then order.reverse else order
  let filled := (List.range zeros).foldl (fun (bytes : ByteArray) _ => bytes.push 0) (bytes.push 0x80)
  order.foldl (fun bytes i => bytes.push (octet i)) filled

/-- A word of some octets. -/
def wordAt (bytes : ByteArray) (size : Nat) (bigEndian : Bool) (start : Nat) : Nat :=
  let indices := List.range size
  let indices := if bigEndian then indices else indices.reverse
  indices.foldl (fun n i => n * 256 + (bytes.get! (start + i)).toNat) 0

/-- A number in hexadecimal digits, two for each octet. -/
def hex (octets : Nat) (n : Nat) : Octets := Octets.padStart (2 * octets) (Nat.toDigits 16 n) '0'

/-- The octets of a number in the reverse order. -/
def reversedOctets (count n : Nat) : Nat :=
  (List.range count).foldl (fun found i => found * 256 + (n >>> (8 * i)) % 256) 0

/-! ## Constants -/

/-- The largest number whose power is not greater than another number. -/
def root (power n : Nat) : Nat :=
  let step (state : Nat) (bit : Nat) : Nat :=
    let next := state + Nat.pow 2 bit
    if Nat.pow next power ≤ n then next else state
  (List.range 80).reverse.foldl step 0

/-- The first bits of the fraction of a root of a number. -/
def rootBits (power bits n : Nat) : Nat := root power (n <<< (bits * power)) % (1 <<< bits)

def isPrime (n : Nat) : Bool := (List.range n).all fun d => d < 2 || n % d != 0

def primes (count : Nat) : List Nat := (((List.range 420).drop 2).filter isPrime).take count

def cubeRoots (bits count : Nat) : Array Nat := ((primes count).map (rootBits 3 bits)).toArray

def squareRoots (bits : Nat) : List Nat := (primes 8).map (rootBits 2 bits)

/-! ## The digests of 32 bits and of 64 -/

/-- How a digest of this family turns words. -/
structure Turns where
  bits : Nat
  schedule0 : Nat × Nat × Nat
  schedule1 : Nat × Nat × Nat
  sum0 : Nat × Nat × Nat
  sum1 : Nat × Nat × Nat
  rounds : Nat

def Turns.small : Turns := ⟨32, (7, 18, 3), (17, 19, 10), (2, 13, 22), (6, 11, 25), 64⟩
def Turns.large : Turns := ⟨64, (1, 8, 7), (19, 61, 6), (28, 34, 39), (14, 18, 41), 80⟩

/-- A word turned to the right. -/
def rotated (bits n count : Nat) : Nat :=
  ((n >>> count) ||| (n <<< (bits - count))) % (1 <<< bits)

/-- Eight words that are mixed. -/
structure Eight where
  a : Nat
  b : Nat
  c : Nat
  d : Nat
  e : Nat
  f : Nat
  g : Nat
  h : Nat

def Eight.toList (x : Eight) : List Nat := [x.a, x.b, x.c, x.d, x.e, x.f, x.g, x.h]

def Eight.ofList (words : List Nat) : Eight :=
  match words with
  | [a, b, c, d, e, f, g, h] => ⟨a, b, c, d, e, f, g, h⟩
  | _ => ⟨0, 0, 0, 0, 0, 0, 0, 0⟩

namespace Turns

def modulus (turns : Turns) : Nat := 1 <<< turns.bits

def shifted (turns : Turns) (by_ : Nat × Nat × Nat) (n : Nat) : Nat :=
  rotated turns.bits n by_.1 ^^^ rotated turns.bits n by_.2.1 ^^^ (n >>> by_.2.2)

def turned (turns : Turns) (by_ : Nat × Nat × Nat) (n : Nat) : Nat :=
  rotated turns.bits n by_.1 ^^^ rotated turns.bits n by_.2.1 ^^^ rotated turns.bits n by_.2.2

/-- All words that a block is mixed in with. -/
def schedule (turns : Turns) (first : Array Nat) : Array Nat :=
  (List.range (turns.rounds - 16)).foldl
    (fun words i =>
      let word (back : Nat) : Nat := (words[i + 16 - back]?).getD 0
      words.push ((turns.shifted turns.schedule1 (word 2) + word 7 +
        turns.shifted turns.schedule0 (word 15) + word 16) % turns.modulus))
    first

/-- Mixes a block in. -/
def mix (turns : Turns) (constants : Array Nat) (state : Eight) (block : Array Nat) : Eight :=
  let words := turns.schedule block
  let final := (List.range turns.rounds).foldl
    (fun (x : Eight) i =>
      let choice := (x.e &&& x.f) ^^^ ((x.e ^^^ (turns.modulus - 1)) &&& x.g)
      let one := x.h + turns.turned turns.sum1 x.e + choice + (constants[i]?).getD 0 +
        (words[i]?).getD 0
      let majority := (x.a &&& x.b) ^^^ (x.a &&& x.c) ^^^ (x.b &&& x.c)
      let two := turns.turned turns.sum0 x.a + majority
      ⟨(one + two) % turns.modulus, x.a, x.b, x.c, (x.d + one) % turns.modulus, x.e, x.f, x.g⟩)
    state
  Eight.ofList ((state.toList.zip final.toList).map fun (a, b) => (a + b) % turns.modulus)

/-- The digest of a text. -/
def digest (turns : Turns) (bytes : ByteArray) : Octets :=
  let size := turns.bits / 8
  let text := padded (16 * size) (2 * size) true bytes
  let constants := cubeRoots turns.bits turns.rounds
  let final := (List.range (text.size / (16 * size))).foldl
    (fun state i =>
      let words := (List.range 16).map fun j => wordAt text size true ((16 * i + j) * size)
      turns.mix constants state words.toArray)
    (Eight.ofList (squareRoots turns.bits))
  final.toList.flatMap (hex size)

end Turns

def sha256 : ByteArray → Octets := Turns.small.digest

def sha512 : ByteArray → Octets := Turns.large.digest

/-! ## Older digests -/

def word32 : Nat := 1 <<< 32

def turnLeft (n count : Nat) : Nat := rotated 32 n (32 - count)

def sha1Start : List Nat := [0x67452301, 0xEFCDAB89, 0x98BADCFE, 0x10325476, 0xC3D2E1F0]

/-- Mixes a block into five words. -/
def sha1Mix (state : List Nat) (block : Array Nat) : List Nat :=
  let words := (List.range 64).foldl
    (fun words i =>
      let word (back : Nat) : Nat := (words[i + 16 - back]?).getD 0
      words.push (turnLeft (word 3 ^^^ word 8 ^^^ word 14 ^^^ word 16) 1))
    block
  let round (state : List Nat) (i : Nat) : List Nat :=
    match state with
    | [a, b, c, d, e] =>
      let (f, k) :=
        if i < 20 then ((b &&& c) ||| ((b ^^^ (word32 - 1)) &&& d), 0x5A827999)
        else if i < 40 then (b ^^^ c ^^^ d, 0x6ED9EBA1)
        else if i < 60 then ((b &&& c) ||| (b &&& d) ||| (c &&& d), 0x8F1BBCDC)
        else (b ^^^ c ^^^ d, 0xCA62C1D6)
      [(turnLeft a 5 + f + e + k + (words[i]?).getD 0) % word32, a, turnLeft b 30, c, d]
    | state => state
  let final := (List.range 80).foldl round state
  (state.zip final).map fun (a, b) => (a + b) % word32

def sha1 (bytes : ByteArray) : Octets :=
  let text := padded 64 8 true bytes
  let final := (List.range (text.size / 64)).foldl
    (fun state i =>
      sha1Mix state ((List.range 16).map fun j => wordAt text 4 true (64 * i + 4 * j)).toArray)
    sha1Start
  final.flatMap (hex 4)

/-- How far the rounds of this digest turn words. -/
def md5Turns : List (List Nat) :=
  [[7, 12, 17, 22], [5, 9, 14, 20], [4, 11, 16, 23], [6, 10, 15, 21]]

/-- The first bits of the sines of whole numbers. -/
def md5Constants : Array Nat :=
  ((List.range 64).map fun i =>
    (Float.floor (Float.abs (Float.sin (Float.ofNat (i + 1))) * 4294967296.0)).toUInt64.toNat).toArray

/-- Mixes a block into four words. -/
def md5Mix (constants : Array Nat) (state : List Nat) (block : Array Nat) : List Nat :=
  let inverse (n : Nat) : Nat := n ^^^ (word32 - 1)
  let round (state : List Nat) (i : Nat) : List Nat :=
    match state with
    | [a, b, c, d] =>
      let (f, place) :=
        if i < 16 then ((b &&& c) ||| (inverse b &&& d), i)
        else if i < 32 then ((d &&& b) ||| (inverse d &&& c), (5 * i + 1) % 16)
        else if i < 48 then (b ^^^ c ^^^ d, (3 * i + 5) % 16)
        else (c ^^^ (b ||| inverse d), (7 * i) % 16)
      let sum := (a + f + (constants[i]?).getD 0 + (block[place]?).getD 0) % word32
      let count := (((md5Turns[i / 16]?).getD [])[i % 4]?).getD 0
      [d, (b + turnLeft sum count) % word32, b, c]
    | state => state
  let final := (List.range 64).foldl round state
  (state.zip final).map fun (a, b) => (a + b) % word32

def md5 (bytes : ByteArray) : Octets :=
  let text := padded 64 8 false bytes
  let constants := md5Constants
  let final := (List.range (text.size / 64)).foldl
    (fun state i =>
      md5Mix constants state
        ((List.range 16).map fun j => wordAt text 4 false (64 * i + 4 * j)).toArray)
    (sha1Start.take 4)
  final.flatMap fun n => hex 4 (reversedOctets 4 n)

/-! ## Sums -/

/-- One octet of a cyclic sum. -/
def cyclicStep (sum octet : Nat) : Nat :=
  (List.range 8).foldl
    (fun (sum : Nat) i =>
      let bit := (sum >>> 31) ^^^ ((octet >>> (7 - i)) % 2)
      let sum := (sum <<< 1) % word32
      if bit == 1 then sum ^^^ 0x04C11DB7 else sum)
    sum

/-- The cyclic sum of a text and of its length. -/
def cyclic (bytes : ByteArray) : Nat :=
  let sum := bytes.foldl (fun sum octet => cyclicStep sum octet.toNat) 0
  let rec lengthOctets (fuel n : Nat) : List Nat :=
    match fuel with
    | 0 => []
    | fuel + 1 => if n == 0 then [] else n % 256 :: lengthOctets fuel (n / 256)
  (lengthOctets 16 bytes.size).foldl cyclicStep sum ^^^ (word32 - 1)

/-- A sum of sixteen bits that is turned with every octet. -/
def turning (bytes : ByteArray) : Nat :=
  bytes.foldl (fun sum octet => ((sum >>> 1) + ((sum % 2) <<< 15) + octet.toNat) % 65536) 0

end TaskRunner.Shell.Digest
