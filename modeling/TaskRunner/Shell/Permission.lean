import TaskRunner.Shell.Octets
/- # TaskRunner.Shell.Permission -- the permissions of files in words

Permissions are three bits each, for reading, writing and executing, of the owner, the group and all
others.  They are written as an octal number or as changes such as `u+x,go-w`. -/

namespace TaskRunner.Shell.Permission
set_option autoImplicit false

/-- The bits that a letter stands for, for everyone. -/
def bits? : Char → Option Nat
  | 'r' => some 0o444
  | 'w' => some 0o222
  | 'x' => some 0o111
  | _ => none

/-- All bits of those whom a letter names. -/
def class? : Char → Option Nat
  | 'u' => some 0o700
  | 'g' => some 0o070
  | 'o' => some 0o007
  | 'a' => some 0o777
  | _ => none

/-- The same three bits for everyone. -/
def spread (three : Nat) : Nat := three * 0o111

/-- The bits that the letters behind a sign stand for; a letter for someone stands for what he has
already. -/
def bitsOf (mode : Nat) (isDirectory : Bool) (letters : Octets) : Option Nat :=
  letters.foldlM
    (fun bits c =>
      match c with
      | 'X' =>
        some (if isDirectory || mode &&& 0o111 != 0 then bits ||| 0o111 else bits)
      | 's' | 't' => some bits
      | 'u' => some (bits ||| spread ((mode >>> 6) % 8))
      | 'g' => some (bits ||| spread ((mode >>> 3) % 8))
      | 'o' => some (bits ||| spread (mode % 8))
      | c => (bits? c).map (bits ||| ·))
    0

/-- Carries out the changes of one clause behind the letters that say whom it is about. -/
def applySigns (mask : Nat) (who : Nat) (isDirectory : Bool) (fuel : Nat) (text : Octets)
    (mode : Nat) : Option Nat :=
  match fuel, text with
  | 0, _ | _, [] => some mode
  | fuel + 1, sign :: rest =>
    let letters := rest.takeWhile fun c => c != '+' && c != '-' && c != '='
    match bitsOf mode isDirectory letters with
    | none => none
    | some bits =>
      let all := if who == 0 then 0o777 &&& (0o777 ^^^ mask) else who
      let bits := bits &&& all
      let after := rest.drop letters.length
      match sign with
      | '+' => applySigns mask who isDirectory fuel after (mode ||| bits)
      | '-' => applySigns mask who isDirectory fuel after (mode &&& (0o7777 ^^^ bits))
      | '=' =>
        let cleared := mode &&& (0o7777 ^^^ (if who == 0 then 0o777 else who))
        applySigns mask who isDirectory fuel after (cleared ||| bits)
      | _ => none

/-- Carries out one clause. -/
def applyClause (mask : Nat) (isDirectory : Bool) (mode : Nat) (clause : Octets) : Option Nat :=
  let people := clause.takeWhile fun c => (class? c).isSome
  let who := people.foldl (fun bits c => bits ||| (class? c).getD 0) 0
  let changes := clause.drop people.length
  if changes.isEmpty then none else applySigns mask who isDirectory changes.length changes mode

/-- The permissions that a text gives to what has some already.  Where it does not say whom it is
about, what the mask withholds stays as it is. -/
def change? (mask : Nat) (isDirectory : Bool) (mode : Nat) (text : Octets) : Option Nat :=
  match Octets.octal? text with
  | some n => if n ≤ 0o7777 then some n else none
  | none => (Octets.splitAt ',' text).foldlM (applyClause mask isDirectory) mode

/-- Three bits as letters. -/
def letters (blank : Bool) (three : Nat) : Octets :=
  let letter (bit : Nat) (c : Char) : Octets :=
    if three &&& bit != 0 then [c] else if blank then ['-'] else []
  letter 4 'r' ++ letter 2 'w' ++ letter 1 'x'

/-- Permissions as letters for each of the three. -/
def inLetters (mode : Nat) : Octets :=
  letters true ((mode >>> 6) % 8) ++ letters true ((mode >>> 3) % 8) ++ letters true (mode % 8)

/-- Permissions as assignments for each of the three. -/
def asAssignments (mode : Nat) : Octets :=
  "u=".toList ++ letters false ((mode >>> 6) % 8) ++ ",g=".toList ++
    letters false ((mode >>> 3) % 8) ++ ",o=".toList ++ letters false (mode % 8)

/-- Permissions as an octal number of at least so many digits. -/
def inOctal (width mode : Nat) : Octets := Octets.padStart width (Nat.toDigits 8 mode) '0'

end TaskRunner.Shell.Permission
