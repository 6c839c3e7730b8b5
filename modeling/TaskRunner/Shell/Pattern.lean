import TaskRunner.FileSystem
import TaskRunner.Shell.OctetSet
/- # TaskRunner.Shell.Pattern -- patterns for texts and for the names of files

A star matches any text, a question mark any octet, and brackets one octet out of a set.  In the
extended dialect a sign in front of round brackets says how often one of several patterns is to
match.  A sign that was quoted stands for itself.  In the name of a file a dot at the beginning is
matched by a dot alone. -/

namespace TaskRunner.Shell
set_option autoImplicit false

/-- A piece of a pattern. -/
inductive Atom where
  | octet (c : Char)
  | any
  | many
  | set (set : OctetSet)
  /-- One of several patterns, once or as often as a sign says. -/
  | group (sign : Char) (choices : List (List Atom))
  deriving Repr, Inhabited

namespace Pattern

/-! ## Reading -/

/-- What stands in round brackets, behind the opening one, cut at the bars between its choices. -/
def choices (fuel depth : Nat) (current : List Marked) (found : List (List Marked))
    (text : List Marked) : Option (List (List Marked) × List Marked) :=
  match fuel, text with
  | 0, _ | _, [] => none
  | fuel + 1, c :: rest =>
    if c == (')', false) && depth == 0 then some ((current.reverse :: found).reverse, rest)
    else if c == ('|', false) && depth == 0 then
      choices fuel depth [] (current.reverse :: found) rest
    else
      let depth := if c == ('(', false) then depth + 1
        else if c == (')', false) then depth - 1 else depth
      choices fuel depth (c :: current) found rest

/-- The pieces of a pattern. -/
def atoms (extended : Bool) (fuel : Nat) (text : List Marked) : List Atom :=
  match fuel, text with
  | 0, _ | _, [] => []
  | fuel + 1, (c, quoted) :: rest =>
    let group? : Option (List (List Marked) × List Marked) :=
      match rest with
      | ('(', false) :: inside =>
        if extended && !quoted && "?*+@!".toList.contains c then
          choices (inside.length + 1) 0 [] [] inside
        else none
      | _ => none
    match group? with
    | some (found, after) => .group c (found.map (atoms extended fuel)) :: atoms extended fuel after
    | none =>
      if quoted then .octet c :: atoms extended fuel rest
      else
        match c with
        | '*' => .many :: atoms extended fuel rest
        | '?' => .any :: atoms extended fuel rest
        | '[' =>
          match OctetSet.read? ['!', '^'] rest with
          | some (set, after) => .set set :: atoms extended fuel after
          | none => .octet '[' :: atoms extended fuel rest
        | '\\' =>
          match rest with
          | (d, _) :: after => .octet d :: atoms extended fuel after
          | [] => [.octet '\\']
        | c => .octet c :: atoms extended fuel rest

/-- The pattern that a text writes. -/
def ofMarked (extended : Bool) (text : List Marked) : List Atom :=
  atoms extended text.length text

/-- Whether a text uses a sign of patterns. -/
def isPattern (extended : Bool) (text : List Marked) : Bool :=
  (text.any fun (c, quoted) => !quoted && (c == '*' || c == '?' || c == '[')) ||
    (extended && (text.zip text.tail).any fun ((c, quoted), next) =>
      !quoted && next == ('(', false) && "+@!".toList.contains c)

/-! ## Matching -/

/-- Whether a pattern matches the beginning of a text so that what follows fits as well. -/
def matchThen (fold : Bool) (fuel : Nat) (pattern : List Atom) (next : Octets → Bool)
    (text : Octets) : Bool :=
  match fuel with
  | 0 => false
  | fuel + 1 =>
    match pattern with
    | [] => next text
    | .many :: rest =>
      matchThen fold fuel rest next text ||
        match text with
        | [] => false
        | _ :: text => matchThen fold fuel (.many :: rest) next text
    | .group sign found :: rest =>
      let once (next : Octets → Bool) : Bool :=
        found.any fun choice => matchThen fold fuel choice next text
      let onwards (text : Octets) : Bool := matchThen fold fuel rest next text
      let again (before after : Octets) : Bool :=
        after.length < before.length &&
          matchThen fold fuel (.group '*' found :: rest) next after
      match sign with
      | '?' => onwards text || once onwards
      | '*' => onwards text || once (again text)
      | '+' => once fun after => onwards after || again text after
      | '!' =>
        (List.range (text.length + 1)).any fun n =>
          !(found.any fun choice => matchThen fold fuel choice List.isEmpty (text.take n)) &&
            onwards (text.drop n)
      | _ => once onwards
    | atom :: rest =>
      match text with
      | [] => false
      | c :: text =>
        let fits := match atom with
          | .octet d => c == d || (fold && c.toLower == d.toLower)
          | .any => true
          | .set set => if fold then set.holdsEither c else set.holds c
          | .many | .group _ _ => false
        fits && matchThen fold fuel rest next text

/-- How many pieces a pattern has, inner ones counted too. -/
def size (fuel : Nat) (pattern : List Atom) : Nat :=
  match fuel with
  | 0 => 0
  | fuel + 1 =>
    pattern.foldl
      (fun n atom =>
        match atom with
        | .group _ found => found.foldl (fun n choice => n + size fuel choice) (n + 2)
        | _ => n + 1)
      1

/-- Whether a pattern matches a text from beginning to end. -/
def covers (pattern : List Atom) (text : Octets) (fold : Bool := false) : Bool :=
  matchThen fold (4 * (size 64 pattern + 2) * (text.length + 2)) pattern List.isEmpty text

/-- The text without its shortest or its longest start that matches. -/
def dropStart (longest : Bool) (pattern : List Atom) (text : Octets) : Octets :=
  let sizes := List.range (text.length + 1)
  match (if longest then sizes.reverse else sizes).find? fun n => covers pattern (text.take n) with
  | some n => text.drop n
  | none => text

/-- The text without its shortest or its longest end that matches. -/
def dropEnd (longest : Bool) (pattern : List Atom) (text : Octets) : Octets :=
  let sizes := List.range (text.length + 1)
  match (if longest then sizes else sizes.reverse).find? fun n => covers pattern (text.drop n) with
  | some n => text.take n
  | none => text

/-- The length of the longest start of a text that matches. -/
def longestStart? (pattern : List Atom) (text : Octets) : Option Nat :=
  (List.range (text.length + 1)).reverse.find? fun n => covers pattern (text.take n)

/-- A text with each match, or the first one, replaced. -/
def replace (pattern : List Atom) (every : Bool) (replacement : Octets → Octets) (fuel : Nat)
    (text : Octets) : Octets :=
  match fuel, text with
  | 0, _ | _, [] => text
  | fuel + 1, c :: rest =>
    match longestStart? pattern text with
    | some (n + 1) =>
      let after := text.drop (n + 1)
      replacement (text.take (n + 1)) ++
        (if every then replace pattern every replacement fuel after else after)
    | _ => c :: replace pattern every replacement fuel rest

/-! ## Names of files -/

/-- How the names of files are matched. -/
structure Rules where
  extended : Bool := false
  /-- Whether a dot at the beginning is matched like any octet. -/
  dots : Bool := false
  /-- Whether the two names that every directory has are matched. -/
  dotNames : Bool := true
  /-- Whether two stars stand for directories of any depth. -/
  deep : Bool := false
  /-- Whether case does not matter. -/
  fold : Bool := false

/-- The pieces of a path between its slashes. -/
def pieces (text : List Marked) : List (List Marked) :=
  let (found, last) := text.foldr
    (fun c (state : List (List Marked) × List Marked) =>
      if c.1 == '/' then (state.2 :: state.1, []) else (state.1, c :: state.2))
    ([], [])
  last :: found

/-- The names in a directory that a pattern matches. -/
def namesIn (rules : Rules) (files : FileSystem) (directory : Location) (path : String)
    (pattern : List Marked) : List String :=
  match files.find directory (if path.isEmpty then "." else path) with
  | .ok (place, node) =>
    if !node.isDirectory then []
    else
      let dotted := pattern.head?.any (·.1 == '.')
      let own := if dotted && rules.dotNames then [".", ".."] else []
      (own ++ files.names place).filter fun name =>
        (dotted || rules.dots || !name.startsWith ".") &&
          covers (ofMarked rules.extended pattern) (Octets.ofText name) rules.fold
  | .error _ => []

/-- The paths of a directory and of all directories below it, as far as a depth. -/
def directoriesBelow (files : FileSystem) (directory : Location) (depth : Nat) (path : String) :
    List String :=
  match depth with
  | 0 => []
  | depth + 1 =>
    match files.find directory (if path.isEmpty then "." else path) with
    | .ok (place, _) =>
      path :: ((files.names place).filter fun name =>
        !name.startsWith "." && ((files.node? (place ++ [name])).any Node.isDirectory)).flatMap
          fun name => directoriesBelow files directory depth (path ++ name ++ "/")
    | .error _ => []

/-- The paths that start with one of `found` and go on with pieces that match. -/
def expand (rules : Rules) (files : FileSystem) (directory : Location) (found : List String) :
    List (List Marked) → List String
  | [] => found
  | piece :: rest =>
    if rules.deep && piece == [('*', false), ('*', false)] then
      let deeper := found.flatMap (directoriesBelow files directory 64)
      if rest.isEmpty then
        deeper.flatMap fun path =>
          let own := if path.isEmpty then [] else [path]
          own ++ ((namesIn rules files directory path [('*', false)]).filter fun name =>
            !files.isDirectory directory (path ++ name)).map (path ++ ·)
      else expand rules files directory deeper rest
    else
      let literal := Octets.toText (piece.map (·.1))
      let next := found.flatMap fun path =>
        if isPattern rules.extended piece then
          (namesIn rules files directory path piece).map (path ++ ·)
        else [path ++ literal]
      let next := if rest.isEmpty then next else next.map (· ++ "/")
      expand rules files directory next rest

/-- The paths that a word matches, in increasing order; nothing where there are none. -/
def paths (rules : Rules) (files : FileSystem) (directory : Location) (word : List Marked) :
    List Octets :=
  let found := (expand rules files directory [""] (pieces word)).filter fun path =>
    (files.find directory path false).toOption.isSome
  Octets.sorted (found.map Octets.ofText)

end Pattern
end TaskRunner.Shell
