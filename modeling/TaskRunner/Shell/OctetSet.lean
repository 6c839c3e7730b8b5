import TaskRunner.Shell.Octets
/- # TaskRunner.Shell.OctetSet -- sets of octets in brackets

A set lists octets, ranges of them, and classes that have names.  Patterns for names, regular
expressions and the utility that replaces octets share these sets. -/

namespace TaskRunner.Shell
set_option autoImplicit false

/-- An octet, and whether it was quoted. -/
abbrev Marked := Char × Bool

/-- An item of a set. -/
inductive OctetRange where
  | range (first last : Char)
  | named (name : String)
  deriving DecidableEq, Repr

/-- A set of octets. -/
structure OctetSet where
  negated : Bool := false
  items : List OctetRange
  deriving DecidableEq, Repr

namespace OctetSet

def isPrintable (c : Char) : Bool := '!' ≤ c && c ≤ '~'

/-- The members of a class; nothing if there is no class of that name. -/
def class? (name : String) : Option (Char → Bool) :=
  match name with
  | "lower" => some Char.isLower
  | "upper" => some Char.isUpper
  | "digit" => some Char.isDigit
  | "alpha" => some Char.isAlpha
  | "alnum" => some Char.isAlphanum
  | "space" => some Octets.isSpace
  | "blank" => some fun c => c == ' ' || c == '\t'
  | "punct" => some fun c => isPrintable c && !c.isAlphanum
  | "print" => some fun c => isPrintable c || c == ' '
  | "graph" => some isPrintable
  | "cntrl" => some fun c => c.toNat < 32 || c.toNat == 127
  | "xdigit" => some fun c => (Octets.hexDigit? c).isSome
  | _ => none

/-- Whether an octet belongs to an item of a set. -/
def holdsItem (c : Char) (item : OctetRange) : Bool :=
  match item with
  | .range first last => first ≤ c && c ≤ last
  | .named name => ((class? name).map (· c)).getD false

def holds (set : OctetSet) (c : Char) : Bool := set.items.any (holdsItem c) != set.negated

/-- Whether an octet belongs to a set if case does not matter. -/
def holdsEither (set : OctetSet) (c : Char) : Bool :=
  set.items.any (fun item => holdsItem c.toLower item || holdsItem c.toUpper item) != set.negated

/-- Reads an octet that a range may begin or end with: also one in dots or equals signs. -/
def member? (text : List Marked) : Option (Char × List Marked) :=
  match text with
  | ('[', false) :: ('.', false) :: (c, _) :: ('.', false) :: (']', false) :: rest => some (c, rest)
  | ('[', false) :: ('=', false) :: (c, _) :: ('=', false) :: (']', false) :: rest => some (c, rest)
  | (c, _) :: rest => some (c, rest)
  | [] => none

/-- Reads the items of a set up to its closing bracket. -/
def readItems (fuel : Nat) (first : Bool) (found : List OctetRange) (text : List Marked) :
    Option (List OctetRange × List Marked) :=
  match fuel, text with
  | 0, _ | _, [] => none
  | fuel + 1, (c, quoted) :: rest =>
    if c == ']' && !quoted && !first then some (found.reverse, rest)
    else
      let name := (rest.drop 1).takeWhile fun d => d.1.isAlpha
      let behind := ((rest.drop (name.length + 1)).take 2).map (·.1)
      let isClass := c == '[' && !quoted && rest.head? == some (':', false) && behind == [':', ']']
      if isClass then
        readItems fuel false (.named (String.ofList (name.map (·.1))) :: found)
          (rest.drop (name.length + 3))
      else
        match member? text with
        | none => none
        | some (a, after) =>
          match after with
          | ('-', false) :: (b, inner) :: more =>
            if b == ']' && !inner then readItems fuel false (.range a a :: found) after
            else
              match member? ((b, inner) :: more) with
              | some (b, more) => readItems fuel false (.range a b :: found) more
              | none => none
          | _ => readItems fuel false (.range a a :: found) after

/-- Reads a set behind its opening bracket; one of `signs` there negates it. -/
def read? (signs : List Char) (text : List Marked) : Option (OctetSet × List Marked) :=
  let (negated, inside) := match text with
    | (c, false) :: inside => if signs.contains c then (true, inside) else (false, text)
    | _ => (false, text)
  (readItems (inside.length + 1) true [] inside).map fun (items, rest) => ({ negated, items }, rest)

end OctetSet
end TaskRunner.Shell
