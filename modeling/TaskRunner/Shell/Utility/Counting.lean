import TaskRunner.Shell.Tool.Options
/- # TaskRunner.Shell.Utility.Counting -- how much there is

The counts of a file are its lines, its words and its octets, and the length of its longest line. -/

namespace TaskRunner.Shell.Utility
set_option autoImplicit false

/-- What is counted. -/
structure Counts where
  lines : Nat := 0
  words : Nat := 0
  octets : Nat := 0
  longest : Nat := 0

namespace Counts

def add (a b : Counts) : Counts where
  lines := a.lines + b.lines
  words := a.words + b.words
  octets := a.octets + b.octets
  longest := max a.longest b.longest

/-- The counts of a text. -/
def ofText (text : Octets) : Counts :=
  let words := (text.splitWhere Octets.isSpace).countP (!·.isEmpty)
  let width (line : Octets) : Nat := line.foldl
    (fun width c => if c == '\t' then width + (8 - width % 8)
      else if 32 ≤ c.toNat && c.toNat < 127 then width + 1 else width) 0
  { lines := text.countP (· == '\n'), words, octets := text.length
    longest := ((Octets.lines text).map width).foldl max 0 }

/-- The counts that options ask for, in their order. -/
def chosen (found : Options.Found) (counts : Counts) : List Nat :=
  let all := [("l", counts.lines), ("w", counts.words), ("m", counts.octets), ("c", counts.octets),
    ("L", counts.longest)]
  (all.filter fun entry => found.has entry.1).map (·.2)

end Counts

/-- How wide counts are shown: as wide as the size of all files together, or seven where it is not
known. -/
def countWidth (paths : List Octets) (fields : Nat) (machine : Machine) : Nat :=
  let node? (path : Octets) : Option Node :=
    if path == ['-'] then
      match machine.opening? 0 with
      | some (_, { channel := .node node, .. }) => machine.files.nodes[node]?
      | some _ => some (.device .null 0)
      | none => none
    else ((machine.files.find machine.place (Octets.toText path)).toOption).map (·.2)
  let nodes := paths.map node?
  if paths.length == 1 && fields == 1 then 1
  else if (nodes.head?.bind id).isNone then 1
  else
    let known := nodes.filterMap id
    let size := (known.map fun node => (node.bytes?.map ByteArray.size).getD 0).foldl (· + ·) 0
    let width := (Octets.ofNat size).length
    if known.all Node.isFile then width else max 7 width

/-- Prints the counts of files. -/
def wc (arguments : List Octets) : Tool Unit := do
  let found ← Options.ofWords
    ["l lines", "w words", "m chars", "c bytes", "L max-line-length", "total="] arguments
  let found := if ["l", "w", "m", "c", "L"].any found.has then found
    else { found with given := ["l", "w", "c"].map fun key => (key, []) }
  let fields := (Counts.chosen found {}).length
  let paths := if found.operands.isEmpty then [['-']] else found.operands
  let width ← Tool.look (countWidth paths fields)
  let show_ (counts : Counts) (name : Octets) : Tool Unit := do
    let texts := (Counts.chosen found counts).map fun n => Octets.padStart width (Octets.ofNat n)
    Tool.putLine (Octets.join [' '] (if name.isEmpty then texts else texts ++ [name]))
  let mut total : Counts := {}
  for path in paths do
    match ← Tool.contents path with
    | .ok text =>
      let counts := Counts.ofText text
      total := total.add counts
      show_ counts (if found.operands.isEmpty then [] else path)
    | .error cause =>
      Tool.blameFile 1 path cause
      if cause == .isDirectory then show_ {} path
  if paths.length > 1 then show_ total "total".toList

end TaskRunner.Shell.Utility
