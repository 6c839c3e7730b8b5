import TaskRunner.Shell.Syntax
/- # TaskRunner.Shell.Expansion.Braces -- several words from one

In the extended dialect curly brackets list texts with commas between them, or the first and the last
of a row.  A word with such brackets stands for several words, one for each text. -/

namespace TaskRunner.Shell.Braces
set_option autoImplicit false

/-- A piece of a word: a character that is not quoted, or a part. -/
inductive Piece where
  | char (c : Char)
  | part (part : Part)

/-- The pieces of a word. -/
def pieces (word : Word) : List Piece :=
  word.flatMap fun
    | .text false octets => octets.map Piece.char
    | part => [.part part]

/-- The word that pieces make. -/
def toWord (pieces : List Piece) : Word :=
  pieces.foldr
    (fun piece (word : Word) =>
      match piece, word with
      | .char c, .text false octets :: rest => .text false (c :: octets) :: rest
      | .char c, word => .text false [c] :: word
      | .part part, word => part :: word)
    []

/-- The texts in brackets behind the opening one, and what follows the closing one.  Nothing comes of
it if there is no comma or no closing bracket. -/
def choices (fuel depth : Nat) (current : List Piece) (found : List (List Piece)) :
    List Piece → Option (List (List Piece) × List Piece) :=
  fun text =>
    match fuel, text with
    | 0, _ | _, [] => none
    | fuel + 1, piece :: rest =>
      match piece with
      | .char '}' =>
        if depth == 0 then
          if found.isEmpty then none else some ((current.reverse :: found).reverse, rest)
        else choices fuel (depth - 1) (piece :: current) found rest
      | .char '{' => choices fuel (depth + 1) (piece :: current) found rest
      | .char ',' =>
        if depth == 0 then choices fuel depth [] (current.reverse :: found) rest
        else choices fuel depth (piece :: current) found rest
      | piece => choices fuel depth (piece :: current) found rest

/-- The characters of pieces, as long as they are not quoted. -/
def plainText (pieces : List Piece) : Octets :=
  match pieces with
  | .char c :: rest => c :: plainText rest
  | _ => []

/-- The numbers of a row. -/
def row (first last step : Int) : List Int :=
  let step : Int := if step == 0 then 1 else step.natAbs
  let count := ((last - first).natAbs / step.natAbs) + 1
  (List.range count).map fun (k : Nat) => if first ≤ last then first + step * k else first - step * k

/-- The texts of a row such as `1..5` or `a..e`. -/
def rowTexts? (text : Octets) : Option (List Octets) :=
  let parts := (String.ofList text).splitOn ".." |>.map String.toList
  let make (first last : Octets) (step : Int) : Option (List Octets) :=
    match Octets.integer? first, Octets.integer? last with
    | some m, some n =>
      let isPadded (digits : Octets) : Bool :=
        match digits with
        | '-' :: '0' :: _ :: _ | '0' :: _ :: _ => true
        | _ => false
      let width := if isPadded first || isPadded last then max first.length last.length else 0
      some ((row m n step).map fun (k : Int) =>
        let digits := Octets.ofNat k.natAbs
        if k < 0 then '-' :: Octets.padStart (width - 1) digits '0'
        else Octets.padStart width digits '0')
    | _, _ =>
      match first, last with
      | [a], [b] =>
        if a.isAlpha && b.isAlpha then
          some ((row a.toNat b.toNat step).map fun (k : Int) => [Char.ofNat k.toNat])
        else none
      | _, _ => none
  match parts with
  | [first, last] => make first last 1
  | [first, last, step] => (Octets.integer? step).bind (make first last)
  | _ => none

/-- The words that pieces stand for; `read` was passed over, the last first. -/
def expand (fuel : Nat) (read : List Piece) (text : List Piece) : List (List Piece) :=
  match fuel with
  | 0 => [read.reverse ++ text]
  | fuel + 1 =>
    match text with
    | [] => [read.reverse]
    | .char '{' :: rest =>
      let inside := (plainText rest).takeWhile (· != '\x7d')
      let isClosed := (plainText rest)[inside.length]? == some '\x7d'
      match choices (rest.length + 1) 0 [] [] rest,
        if isClosed then rowTexts? inside else none with
      | _, some texts =>
        let after := expand fuel [] (rest.drop (inside.length + 1))
        texts.flatMap fun text =>
          after.map fun behind => read.reverse ++ text.map Piece.char ++ behind
      | some (found, after), none =>
        let after := expand fuel [] after
        (found.flatMap (expand fuel [])).flatMap fun choice =>
          after.map fun behind => read.reverse ++ choice ++ behind
      | none, none => expand fuel (.char '{' :: read) rest
    | piece :: rest => expand fuel (piece :: read) rest

/-- The words that a word stands for. -/
def words (word : Word) : List Word :=
  let hasBracket := word.any fun
    | .text false octets => octets.contains '{'
    | _ => false
  if hasBracket then
    let found := pieces word
    (expand (4 * found.length + 8) [] found).map toWord
  else [word]

end TaskRunner.Shell.Braces
