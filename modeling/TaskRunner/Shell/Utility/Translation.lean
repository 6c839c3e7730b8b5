import TaskRunner.Shell.OctetSet
import TaskRunner.Shell.Tool.Options
/- # TaskRunner.Shell.Utility.Translation -- octets in place of octets

A row of octets is written with ranges, classes and repetitions.  The octets of one row are replaced by
those that stand at the same places of another, or left out, and of several alike that come one behind
the other all but the first may be left out. -/

namespace TaskRunner.Shell.Utility.Translation
set_option autoImplicit false

/-- A part of a row. -/
inductive Item where
  | octets (text : Octets)
  | named (name : String)
  /-- An octet over and over: as often as is said, or as often as there is room. -/
  | repeated (c : Char) (count : Option Nat)
  deriving DecidableEq

/-- All octets. -/
def allOctets : Octets := (List.range 256).map Char.ofNat

def membersOf (name : String) : Octets :=
  allOctets.filter ((OctetSet.class? name).getD fun _ => false)

/-- The octets of an item, where repetitions fill so much room. -/
def Item.expand (room : Nat) : Item → Octets
  | octets text => text
  | named name => membersOf name
  | repeated c (some count) => List.replicate count c
  | repeated c none => List.replicate room c

/-! ## Reading -/

/-- Replaces escapes; the flag says whether an octet was written with one. -/
def unescape (fuel : Nat) (text : Octets) : List Marked :=
  match fuel, text with
  | fuel + 1, ['\\'] => ('\\', true) :: unescape fuel []
  | fuel + 1, '\\' :: c :: rest =>
    if Octets.isOctal c then
      let digits := (c :: rest).takeWhile Octets.isOctal |>.take 3
      let digits := if Octets.octalValue digits > 255 then digits.take 2 else digits
      (Char.ofNat (Octets.octalValue digits), true) ::
        unescape fuel ((c :: rest).drop digits.length)
    else
      let meant := match c with
        | 'a' => '\x07'
        | 'b' => '\x08'
        | 'f' => '\x0c'
        | 'n' => '\n'
        | 'r' => '\r'
        | 't' => '\t'
        | 'v' => '\x0b'
        | c => c
      (meant, true) :: unescape fuel rest
  | fuel + 1, c :: rest => (c, false) :: unescape fuel rest
  | _, _ => []

def plain (text : List Marked) : Octets := text.map (·.1)

/-- What stands between a bracket with a sign behind it and the same sign with a bracket. -/
def bracketed? (sign : Char) (text : List Marked) : Option (List Marked × List Marked) :=
  match text with
  | ('[', false) :: (c, false) :: rest =>
    if c != sign then none
    else
      let ends := (List.range rest.length).find? fun i =>
        rest[i]? == some (sign, false) && rest[i + 1]? == some (']', false)
      ends.map fun i => (rest.take i, rest.drop (i + 2))
  | _ => none

/-- What stands between brackets: an octet, a star, and digits or nothing. -/
def repetition? (text : List Marked) : Option (Char × Octets × List Marked) :=
  match text with
  | ('[', false) :: (c, _) :: ('*', false) :: rest =>
    let count := rest.takeWhile (· != (']', false))
    if count.length < rest.length then some (c, plain count, rest.drop (count.length + 1)) else none
  | _ => none

/-- The items of a row; a text says what is wrong. -/
def items (fuel : Nat) (text : List Marked) : Except String (List Item) :=
  match fuel, text with
  | fuel + 1, (c, quoted) :: rest =>
    match if quoted then none else bracketed? ':' text with
    | some (name, after) =>
      let name := Octets.toText (plain name)
      if (OctetSet.class? name).isNone then
        .error s!"invalid character class {Tool.quoted (Octets.ofText name)}"
      else (items fuel after).map (.named name :: ·)
    | none =>
      match if quoted then none else bracketed? '=' text with
      | some ([(d, _)], after) => (items fuel after).map (.octets [d] :: ·)
      | some (inner, _) =>
        let inner := Octets.toText (plain inner)
        .error s!"{inner}: equivalence class operand must be a single character"
      | none =>
        match if quoted then none else repetition? text with
        | some (d, count, after) =>
          let value? := if count.head? == some '0' then Octets.octal? count
            else Octets.natural? count
          match count, value? with
          | [], _ | _, some 0 => (items fuel after).map (.repeated d none :: ·)
          | _, some n => (items fuel after).map (.repeated d (some n) :: ·)
          | _, none =>
            .error s!"invalid repeat count {Tool.quoted count} in [c*n] construct"
        | none =>
          match rest with
          | ('-', false) :: (d, _) :: after =>
            if c ≤ d then
              let range := (List.range (d.toNat - c.toNat + 1)).map fun i => Char.ofNat (c.toNat + i)
              (items fuel after).map (.octets range :: ·)
            else
              let range := Octets.toText (Quoting.reported [c, '-', d])
              .error s!"range-endpoints of {range} are in reverse collating sequence order"
          | rest => (items fuel rest).map (.octets [c] :: ·)
  | _, _ => .ok []

/-- The row that a text writes. -/
def row (text : Octets) : Tool (List Item) := do
  if text.getLast? == some '\\' && (text.reverse.takeWhile (· == '\\')).length % 2 == 1 then
    Tool.complain "warning: an unescaped backslash at end of string is not portable"
  let marked := unescape (text.length + 1) text
  match items (marked.length + 1) marked with
  | .ok items => return items
  | .error text => Tool.fail 1 text

def lengthOf (room : Nat) (row : List Item) : Nat := (row.flatMap (Item.expand room)).length

def isRepeat : Item → Bool
  | .repeated _ _ => true
  | _ => false

def isOpenRepeat : Item → Bool
  | .repeated _ none => true
  | _ => false

/-- The octets of a row, as long as another row if it has an open repetition. -/
def octetsOf (length : Nat) (row : List Item) : Octets :=
  let fixed := lengthOf 0 row
  row.flatMap (Item.expand (length - fixed))

/-! ## Carrying out -/

/-- What is done to octets. -/
structure Treatment where
  drops : Char → Bool := fun _ => false
  replace : Char → Char := id
  squeezes : Char → Bool := fun _ => false

/-- What is done to a text behind an octet. -/
def Treatment.apply (treatment : Treatment) (last : Option Char) (text : Octets) :
    Option Char × Octets :=
  let (last, found) := text.foldl
    (fun (state : Option Char × Octets) c =>
      if treatment.drops c then state
      else
        let d := treatment.replace c
        if state.1 == some d && treatment.squeezes d then state else (some d, d :: state.2))
    (last, [])
  (last, found.reverse)

/-- Goes through the input. -/
def Treatment.run (treatment : Treatment) (fuel : Nat) (last : Option Char) : Tool Unit :=
  match fuel with
  | 0 => return ()
  | fuel + 1 => do
    match ← Tool.block 0 with
    | .error cause => Tool.fail 1 s!"read error: {cause.wording}"
    | .ok [] => return ()
    | .ok octets =>
      let (last, text) := treatment.apply last octets
      Tool.put text
      run treatment fuel last

/-- A table of what octets are replaced by. -/
def tableOf (first second : Octets) : Array Char :=
  (first.zip second).foldl (fun table (c, d) => table.set! c.toNat d) allOctets.toArray

/-- A table of the octets of a row. -/
def memberTable (row : Octets) : Array Bool :=
  row.foldl (fun table c => table.set! c.toNat true) (Array.replicate 256 false)

def holds (table : Array Bool) (c : Char) : Bool := (table[c.toNat]?).getD false

/-- Whether classes of letters stand at the same places of two rows. -/
def areAligned (first second : List Item) : Bool :=
  let starts (row : List Item) : List Nat :=
    ((List.range row.length).filter fun i =>
      match row[i]? with
      | some (.named "lower") | some (.named "upper") => true
      | _ => false).map fun i => lengthOf 0 (row.take i)
  (starts second).all (starts first).contains

/-- The treatment for replacing the octets of one row by those of another. -/
def translation (complements truncates : Bool) (first second : List Item) : Tool Treatment := do
  let isLetterClass : Item → Bool
    | .named name => name == "lower" || name == "upper"
    | _ => true
  if !second.all isLetterClass then
    Tool.fail 1 ("when translating, the only character classes that may appear in\n" ++
      "string2 are 'upper' and 'lower'")
  if second.isEmpty && !truncates then
    Tool.fail 1 "when not truncating set1, string2 must be non-empty"
  if !areAligned first second then
    Tool.fail 1 "misaligned [:upper:] and/or [:lower:] construct"
  let written := octetsOf 0 first
  let source := if complements then allOctets.filter (!written.contains ·) else written
  let target := octetsOf source.length second
  let endsInClass := match second.getLast? with
    | some (.named _) => true
    | _ => false
  if target.length < source.length && endsInClass && !truncates then
    Tool.fail 1 ("when translating with string1 longer than string2,\n" ++
      "the latter string must not end with a character class")
  let hasClass := first.any fun
    | .named _ => true
    | _ => false
  if complements && hasClass && target.any fun c => target.head? != some c then
    Tool.fail 1 ("when translating with complemented character classes,\n" ++
      "string2 must map all characters in the domain to one")
  let source := if truncates then source.take target.length else source
  let last := target.getLast?.getD '\x00'
  let target := target ++ List.replicate (source.length - target.length) last
  let table := tableOf source target
  return { replace := fun c => (table[c.toNat]?).getD c }

end Translation

open Translation in
/-- Replaces octets of the input, or leaves them out. -/
def tr (arguments : List Octets) : Tool Unit := do
  let found ← Options.ofWords
    ["c C complement", "d delete", "s squeeze-repeats", "t truncate-set1"] arguments 1 true
  let deletes := found.has "d"
  let squeezes := found.has "s"
  let complements := found.has "c"
  let least := if deletes == squeezes then 2 else 1
  let most := if deletes && !squeezes then 1 else 2
  match found.operands with
  | [] => Tool.lackOperand 1
  | [only] =>
    if least == 2 then
      Tool.complain s!"missing operand after {Tool.quoted only}"
      Tool.report (if squeezes then
        "Two strings must be given when both deleting and squeezing repeats."
        else "Two strings must be given when translating.")
      Tool.giveHelp 1
  | _ => pure ()
  match found.operands.drop most with
  | [] => pure ()
  | extra :: _ =>
    Tool.complain s!"extra operand {Tool.quoted extra}"
    if most == 1 then
      Tool.report "Only one string may be given when deleting without squeezing repeats."
    Tool.giveHelp 1
  let first ← row ((found.operands[0]?).getD [])
  let second ← row ((found.operands[1]?).getD [])
  if first.any isRepeat then
    Tool.fail 1 "the [c*] repeat construct may not appear in string1"
  if (second.filter isOpenRepeat).length > 1 then
    Tool.fail 1 "only one [c*] repeat construct may appear in string2"
  let table := memberTable (octetsOf 0 first)
  let isFirst (c : Char) : Bool := holds table c != complements
  let treatment : Treatment ← if deletes then do
      let others := memberTable (octetsOf 256 second)
      pure {
        drops := isFirst
        squeezes := fun c => squeezes && holds others c }
    else if found.operands.length < 2 then pure { squeezes := isFirst }
    else do
      let treatment ← translation complements (found.has "t") first second
      let others := memberTable (octetsOf 256 second)
      pure { treatment with squeezes := fun c => squeezes && holds others c }
  treatment.run Action.maxBlocks none

end TaskRunner.Shell.Utility
