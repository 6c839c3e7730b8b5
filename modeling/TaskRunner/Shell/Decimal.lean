import TaskRunner.Shell.Octets
/- # TaskRunner.Shell.Decimal -- fractions in decimal

A fraction is held as a whole number times a power of two, with so many bits as the holder has.  It is
read from the decimal number that is nearest to it, and written with as many digits as are asked
for; of two that are equally near the even one counts. -/

namespace TaskRunner.Shell
set_option autoImplicit false

/-- A number with a fraction, or what is left of one that is too large or is none. -/
inductive Fraction where
  /-- A whole number times a power of two. -/
  | finite (negative : Bool) (mantissa : Nat) (exponent : Int)
  | infinite (negative : Bool)
  | undefined (negative : Bool)
  deriving Repr, Inhabited

namespace Fraction

/-- A quotient, rounded; a half goes to the even neighbour. -/
def roundDiv (n d : Nat) : Nat :=
  let q := n / d
  let r := n % d
  if 2 * r > d || (2 * r == d && q % 2 == 1) then q + 1 else q

/-- How many bits the numbers of most programs have. -/
def doubleBits : Nat := 53

/-- How many bits the numbers of the more exact programs have. -/
def extendedBits : Nat := 64

/-- The fraction with a number of bits that is nearest to a quotient. -/
def ofRatio (bits : Nat) (negative : Bool) (n d : Nat) : Fraction :=
  if n == 0 || d == 0 then .finite negative 0 0
  else
    let shift : Int := (bits : Int) - ((Nat.log2 n : Int) - Nat.log2 d)
    let scaled (shift : Int) : Nat × Nat :=
      if shift < 0 then (n, d <<< (-shift).toNat) else (n <<< shift.toNat, d)
    let (m, k) := scaled shift
    -- The quotient has one bit too many or two.
    let shift := if m / k ≥ 1 <<< bits then shift - 1 else shift
    let (m, k) := scaled shift
    let shift := if m / k ≥ 1 <<< bits then shift - 1 else shift
    let (m, k) := scaled shift
    .finite negative (roundDiv m k) (-shift)

/-- A fraction as a numerator and a denominator. -/
def ratio (mantissa : Nat) (exponent : Int) : Nat × Nat :=
  if exponent < 0 then (mantissa, 1 <<< (-exponent).toNat) else (mantissa <<< exponent.toNat, 1)

def isNegative : Fraction → Bool
  | finite negative _ _ | infinite negative | undefined negative => negative

/-! ## Reading -/

/-- The largest power of ten that still makes a difference. -/
def maxExponent : Nat := 5000

/-- A decimal number at the start of a text, and what follows it. -/
def read? (bits : Nat) (text : Octets) : Option (Fraction × Octets) :=
  let (negative, body) := match text with
    | '-' :: rest => (true, rest)
    | '+' :: rest => (false, rest)
    | rest => (false, rest)
  let lowered := (body.take 8).map Char.toLower
  if "infinity".toList.isPrefixOf lowered then some (.infinite negative, body.drop 8)
  else if "inf".toList.isPrefixOf lowered then some (.infinite negative, body.drop 3)
  else if "nan".toList.isPrefixOf lowered then some (.undefined negative, body.drop 3)
  else
    let whole := body.takeWhile Char.isDigit
    let rest := body.drop whole.length
    let part := match rest with
      | '.' :: digits => digits.takeWhile Char.isDigit
      | _ => []
    let rest := match rest with
      | '.' :: digits => if whole.isEmpty && part.isEmpty then rest else digits.drop part.length
      | _ => rest
    if whole.isEmpty && part.isEmpty then none
    else
      let (exponent, rest) : Int × Octets := match rest with
        | c :: more =>
          if c == 'e' || c == 'E' then
            let (sign, digits) : Int × Octets := match more with
              | '-' :: digits => (-1, digits)
              | '+' :: digits => (1, digits)
              | digits => (1, digits)
            let run := digits.takeWhile Char.isDigit
            if run.isEmpty then (0, rest)
            else (sign * Octets.digitsValue run, digits.drop run.length)
          else (0, rest)
        | [] => (0, [])
      let digits := Octets.digitsValue (whole ++ part)
      let power : Int := exponent - part.length
      if power > maxExponent && digits != 0 then some (.infinite negative, rest)
      else if power < -(maxExponent : Int) - part.length then some (.finite negative 0 0, rest)
      else if power < 0 then
        some (ofRatio bits negative digits (Nat.pow 10 (-power).toNat), rest)
      else some (ofRatio bits negative (digits * Nat.pow 10 power.toNat) 1, rest)

/-- The number that a text writes. -/
def ofText? (bits : Nat) (text : Octets) : Option Fraction :=
  match read? bits text with
  | some (fraction, []) => some fraction
  | _ => none

/-! ## Between notations -/

/-- A number of the machine. -/
def ofFloat (number : Float) : Fraction :=
  let word := number.toBits.toNat
  let negative := word ≥ 1 <<< 63
  let exponent := (word >>> 52) % 2048
  let part := word % (1 <<< 52)
  if exponent == 2047 then if part == 0 then .infinite negative else .undefined negative
  else if exponent == 0 then .finite negative part (-1074)
  else .finite negative (part + (1 <<< 52)) ((exponent : Int) - 1075)

/-- The number of the machine that is nearest to a fraction. -/
def toFloat (fraction : Fraction) : Float :=
  let signed (negative : Bool) (number : Float) : Float := if negative then -number else number
  match fraction with
  | infinite negative => signed negative (1.0 / 0.0)
  | undefined _ => 0.0 / 0.0
  | finite negative mantissa exponent =>
    let (mantissa, exponent) :=
      match ofRatio doubleBits false (ratio mantissa exponent).1 (ratio mantissa exponent).2 with
      | finite _ mantissa exponent => (mantissa, exponent)
      | _ => (mantissa, exponent)
    signed negative ((Float.ofNat mantissa).scaleB exponent)

/-! ## Writing -/

/-- Digits, with a point in front of the last ones of them. -/
def withPoint (places : Nat) (alternate : Bool) (digits : Octets) : Octets :=
  let digits := Octets.padStart (places + 1) digits '0'
  let size := digits.length - places
  if places == 0 then if alternate then digits ++ ['.'] else digits
  else digits.take size ++ '.' :: digits.drop size

/-- A number without its sign, with so many digits behind the point. -/
def fixed (places : Nat) (alternate : Bool) (mantissa : Nat) (exponent : Int) : Octets :=
  let (n, d) := ratio mantissa exponent
  withPoint places alternate (Octets.ofNat (roundDiv (n * Nat.pow 10 places) d))

/-- The digits of a number, so many and one more, and the power of ten that the first of them stands
for. -/
def leadingDigits (places : Nat) (mantissa : Nat) (exponent : Int) : Octets × Int :=
  if mantissa == 0 then (List.replicate (places + 1) '0', 0)
  else
    let (n, d) := ratio mantissa exponent
    let guess : Int := (Octets.ofNat n).length - (Octets.ofNat d).length
    let isBelow (power : Int) : Bool :=
      if power < 0 then n * Nat.pow 10 (-power).toNat < d else n < d * Nat.pow 10 power.toNat
    let power := if isBelow guess then guess - 1 else guess
    let shift : Int := (places : Int) - power
    let scaled := if shift < 0 then roundDiv n (d * Nat.pow 10 (-shift).toNat)
      else roundDiv (n * Nat.pow 10 shift.toNat) d
    let digits := Octets.ofNat scaled
    if digits.length > places + 1 then (digits.take (places + 1), power + 1) else (digits, power)

/-- The power of ten behind a number. -/
def exponentText (letter : Char) (power : Int) : Octets :=
  letter :: (if power < 0 then '-' else '+') :: Octets.padStart 2 (Octets.ofNat power.natAbs) '0'

/-- A number without its sign, with one digit in front of the point and so many behind it. -/
def scientific (places : Nat) (alternate : Bool) (mantissa : Nat) (exponent : Int) : Octets :=
  let (digits, power) := leadingDigits places mantissa exponent
  withPoint places alternate digits ++ exponentText 'e' power

/-- Digits behind a point without the zeros at their end. -/
def trimZeros (text : Octets) : Octets :=
  if text.contains '.' then
    let trimmed := (text.reverse.dropWhile (· == '0')).reverse
    if trimmed.getLast? == some '.' then trimmed.dropLast else trimmed
  else text

/-- A number without its sign, with so many digits that count: with a power of ten behind it where
that is shorter. -/
def general (precision : Nat) (alternate : Bool) (mantissa : Nat) (exponent : Int) : Octets :=
  let precision := max precision 1
  let (digits, power) := leadingDigits (precision - 1) mantissa exponent
  if power < -4 || power ≥ precision then
    let text := withPoint (precision - 1) alternate digits
    (if alternate then text else trimZeros text) ++ exponentText 'e' power
  else
    let text := fixed ((precision : Int) - 1 - power).toNat alternate mantissa exponent
    if alternate then text else trimZeros text

/-- A number without its sign, in the notation of a letter. -/
def digits (letter : Char) (precision : Option Nat) (alternate : Bool) (fraction : Fraction) :
    Octets :=
  let lower := letter.toLower
  let text := match fraction with
    | infinite _ => "inf".toList
    | undefined _ => "nan".toList
    | finite _ mantissa exponent =>
      let precision := precision.getD 6
      if lower == 'f' then fixed precision alternate mantissa exponent
      else if lower == 'e' then scientific precision alternate mantissa exponent
      else general precision alternate mantissa exponent
  if letter.isUpper then text.map Char.toUpper else text

end Fraction
end TaskRunner.Shell
