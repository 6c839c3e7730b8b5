import TaskRunner.Shell.Tool
/- # TaskRunner.Shell.Tool.Count -- counts in the arguments of programs

A count is decimal digits, and a letter behind them that multiplies the number: by powers of 1024, or
of 1000 where the letter `B` follows. -/

namespace TaskRunner.Shell.Count
set_option autoImplicit false

/-- What the letters behind a number multiply it by. -/
def factor? (suffix : Octets) : Option Nat :=
  let powers := ['K', 'M', 'G', 'T', 'P', 'E']
  let power? (c : Char) : Option Nat :=
    ((if c == 'k' || c == 'm' then c.toUpper else c) |> powers.idxOf?).map (· + 1)
  match suffix with
  | [] => some 1
  | ['b'] => some 512
  | [c] => (power? c).map (Nat.pow 1024)
  | [c, 'B'] => (power? c).map (Nat.pow 1000)
  | [c, 'i', 'B'] => (power? c).map (Nat.pow 1024)
  | _ => none

/-- A count. -/
def ofText? (text : Octets) : Option Nat := do
  let digits := text.takeWhile Char.isDigit
  let n ← Octets.natural? digits
  return n * (← factor? (text.drop digits.length))

end TaskRunner.Shell.Count
