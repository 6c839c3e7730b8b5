import TaskRunner.Shell.Utility.Files
import TaskRunner.Shell.Utility.Order
/- # TaskRunner.Shell.Utility.Listing -- what there is in directories

A listing shows the names in directories, or what is known about them as well: permissions, links,
sizes and times. -/

namespace TaskRunner.Shell.Utility
set_option autoImplicit false

/-- Something that is listed: its name, and what it is. -/
structure Listed where
  name : Octets
  node : Node
  place : Location
  /-- What a link leads to. -/
  target : Option Node := none

namespace Listed

def size (listed : Listed) : Nat :=
  match listed.node.content with
  | .file bytes => bytes.size
  | .link text => text.utf8ByteSize
  | .directory => 4096
  | .device _ => 0

/-- The letter of what it is, in front of the permissions. -/
def letter (listed : Listed) : Char :=
  match listed.node.content with
  | .file _ => '-'
  | .directory => 'd'
  | .link _ => 'l'
  | .device _ => 'c'

/-- The blocks of 1024 octets that it takes. -/
def blocks (listed : Listed) : Nat :=
  match listed.node.content with
  | .file bytes => (bytes.size + 4095) / 4096 * 4
  | .directory => 4
  | _ => 0

end Listed

/-- A sign behind a name that says what it is. -/
def signOf (all : Bool) (listed : Listed) : Octets :=
  match listed.node.content with
  | .directory => ['/']
  | .link _ => if all then ['@'] else []
  | .file _ => if all && listed.node.isExecutable then ['*'] else []
  | .device _ => []

/-- A size with a letter for its unit. -/
def humanSize (n : Nat) : Octets :=
  let rec scale (fuel : Nat) (unit : Nat) (letters : List Char) : Octets :=
    match fuel, letters with
    | fuel + 1, letter :: rest =>
      if n ≥ unit * 1024 && !rest.isEmpty then scale fuel (unit * 1024) rest
      else
        let tenths := (n * 10 + unit - 1) / unit
        if tenths < 100 then
          Octets.ofNat (tenths / 10) ++ '.' :: Octets.ofNat (tenths % 10) ++ [letter]
        else Octets.ofNat ((n + unit - 1) / unit) ++ [letter]
    | _, _ => Octets.ofNat n
  if n < 1024 then Octets.ofNat n else scale 8 1024 ['K', 'M', 'G', 'T', 'P', 'E']

/-- Names in columns of a width, one below the other or side by side. -/
def inColumns (width : Nat) (across : Bool) (names : List Octets) : Octets :=
  let count := names.length
  let array := names.toArray
  let rowsFor (columns : Nat) : Nat := (count + columns - 1) / columns
  let indexOf (columns row column : Nat) : Nat :=
    if across then row * columns + column else row + column * rowsFor columns
  let widthsFor (columns : Nat) : List Nat :=
    (List.range columns).map fun column =>
      ((List.range (rowsFor columns)).filterMap fun row =>
        (array[indexOf columns row column]?).map List.length).foldl max 0
  let fits (columns : Nat) : Bool :=
    let widths := widthsFor columns
    let used := (if across then columns else (count + rowsFor columns - 1) / rowsFor columns) == columns
    used && (widths.map (· + 2)).foldl (· + ·) 0 ≤ width + 1
  let columns := (((List.range (count + 1)).drop 1).reverse.find? fits).getD 1
  let widths := (widthsFor columns).toArray
  let line (row : Nat) : Octets :=
    let cells := (List.range columns).filterMap fun column =>
      (array[indexOf columns row column]?).map (column, ·)
    let last := cells.length
    ((cells.zip (List.range last)).flatMap fun ((column, name), i) =>
      if i + 1 == last then name else Octets.padEnd ((widths[column]?).getD 0 + 2) name) ++ ['\n']
  (List.range (rowsFor columns)).flatMap line

/-- What a listing says of a time: the hour if it is of the last half year, else the year. -/
def timeText (now time : FileTime) : Octets :=
  let recent := time ≤ now && now - time < Moment.nanosPerSecond * 15778476
  Moment.inFormat time (if recent then "%b %e %H:%M" else "%b %e  %Y").toList

/-- The form of a listing, by the letter of its option: `l` for one with all that is known. -/
def formOf (found : Options.Found) : String :=
  match found.last? ["l", "g", "o", "n", "C", "m", "x"], found.last? ["l", "g", "o", "n", "1", "C", "m", "x"] with
  | some ("C", _), some ("C", _) => "C"
  | some ("m", _), some ("m", _) => "m"
  | some ("x", _), some ("x", _) => "x"
  | some ("C", _), _ | some ("m", _), _ | some ("x", _), _ | none, _ => "1"
  | some _, _ => "l"

/-- Writes what is listed. -/
def putListed (found : Options.Found) (listed : List Listed) : Tool Unit := do
  let has := found.has
  let shown (one : Listed) : Octets :=
    let sign := if has "F" then signOf true one else if has "p" then signOf false one else []
    let name := if has "Q" then Quoting.double one.name else one.name
    let number := if has "i" then
        Octets.ofNat (1000 + (hash one.place).toNat % 100000) ++ [' '] else []
    let blocks := if has "s" then Octets.ofNat one.blocks ++ [' '] else []
    number ++ blocks ++ name ++ sign
  match formOf found with
  | "1" => for one in listed do Tool.putLine (shown one)
  | "C" => Tool.put (inColumns 80 false (listed.map shown))
  | "x" => Tool.put (inColumns 80 true (listed.map shown))
  | "m" =>
    let names := listed.map shown
    let step (state : Octets × Nat) (entry : Octets × Nat) : Octets × Nat :=
      let (written, column) := state
      let (name, i) := entry
      let isLast := i + 1 == names.length
      let size := name.length + (if isLast then 0 else 2)
      if i == 0 then (name, name.length)
      else if column + 2 + size ≥ 80 then (written ++ [',', '\n'] ++ name, name.length)
      else (written ++ [',', ' '] ++ name, column + 2 + name.length)
    if !names.isEmpty then
      Tool.putLine ((names.zip (List.range names.length)).foldl step ([], 0)).1
  | _ =>
    let now ← Tool.look (·.files.clock)
    let links (one : Listed) : Tool Octets := Tool.look fun machine =>
      if one.node.isDirectory then
        let inner := (machine.files.names one.place).countP fun name =>
          (machine.files.node? (one.place ++ [name])).any Node.isDirectory
        Octets.ofNat (inner + 2)
      else Octets.ofNat (((machine.files.number? one.place).map machine.files.linkCount).getD 1)
    let counts ← listed.mapM links
    let sizes := listed.map fun one => if has "h" then humanSize one.size else Octets.ofNat one.size
    let widest (texts : List Octets) : Nat := (texts.map List.length).foldl max 0
    let owner := if has "n" then "0".toList else "root".toList
    for (one, count, size) in listed.zip (counts.zip sizes) do
      let mode := one.letter :: Permission.inLetters one.node.mode
      let owners := (if has "g" then [] else [owner]) ++ (if has "o" || has "G" then [] else [owner])
      let tail := match one.node.content with
        | .link text =>
          let sign := if has "F" then match one.target with
              | some node => signOf true { one with node }
              | none => []
            else []
          " -> ".toList ++ Octets.ofText text ++ sign
        | _ => []
      let name := match one.node.content with
        | .link _ => shown one |>.reverse.dropWhile (· == '@') |>.reverse
        | _ => shown one
      let fields := [mode, Octets.padStart (widest counts) count] ++ owners ++
        [Octets.padStart (widest sizes) size, timeText now one.node.modified, name ++ tail]
      Tool.putLine (Octets.join [' '] fields)

/-- Puts what is listed in order. -/
def ordered (found : Options.Found) (listed : List Listed) : List Listed :=
  let has := found.has
  if has "U" || has "f" then listed
  else
    let byName (a b : Listed) : Bool := Octets.isOrdered a.name b.name
    let extension (name : Octets) : Octets :=
      let tail := (name.reverse.takeWhile (· != '.')).reverse
      if tail.length == name.length then [] else tail
    let kind := match found.last? ["t", "S", "X", "v", "sort"] with
      | some ("sort", text) =>
        match Octets.toText text with
        | "time" => "t"
        | "size" => "S"
        | "extension" => "X"
        | "version" => "v"
        | "none" => "U"
        | _ => ""
      | some (key, _) => key
      | none => ""
    let compare (a b : Listed) : Bool :=
      match kind with
      | "t" => if a.node.modified == b.node.modified then byName a b else b.node.modified < a.node.modified
      | "S" => if a.size == b.size then byName a b else b.size < a.size
      | "X" =>
        if extension a.name == extension b.name then byName a b
        else Octets.isOrdered (extension a.name) (extension b.name)
      | "v" => match compareVersions (a.name.length + b.name.length + 2) a.name b.name with
        | .lt => true
        | .gt => false
        | .eq => byName a b
      | _ => byName a b
    let sorted := listed.mergeSort compare
    let sorted := if has "r" then sorted.reverse else sorted
    if has "group-directories-first" then
      sorted.filter (·.node.isDirectory) ++ sorted.filter (!·.node.isDirectory)
    else sorted

/-- What is in a directory, as far as it is shown. -/
def entriesOf (found : Options.Found) (place : Location) (machine : Machine) : List Listed :=
  let files := machine.files
  let isHidden (name : String) : Bool := name.startsWith "."
  let names := (files.names place).filter fun name =>
    (found.has "a" || found.has "A" || found.has "f" || !isHidden name) &&
      !(found.has "B" && name.endsWith "~")
  let real := names.filterMap fun name =>
    let there := place ++ [name]
    (files.node? there).map fun node =>
      let target := if node.isLink then ((files.find [] ("/" ++ "/".intercalate there)).toOption).map (·.2)
        else none
      let node := if found.has "L" then target.getD node else node
      { name := Octets.ofText name, node, place := there, target : Listed }
  let dots := if found.has "a" || found.has "f" then
      [(['.'], place), (['.', '.'], place.dropLast)].filterMap fun (name, place) =>
        (files.node? place).map fun node => { name, node, place : Listed }
    else []
  dots ++ real

/-- Lists directories, and those in them if that is asked for; each but the first has an empty line in
front of it. -/
def listDirectories (found : Options.Found) (titled : Bool) (fuel : Nat) (isFirst : Bool)
    (paths : List Octets) : Tool Bool :=
  match fuel, paths with
  | 0, _ | _, [] => return isFirst
  | fuel + 1, path :: rest => do
    match ← nodeAt path with
    | .error cause =>
      Tool.blame 2 s!"cannot open directory {Tool.quoted path}: {cause.wording}"
      listDirectories found titled fuel isFirst rest
    | .ok (place, _) =>
      if titled then Tool.put ((if isFirst then [] else ['\n']) ++ path ++ [':', '\n'])
      let entries ← Tool.look (entriesOf found place)
      let entries := ordered found entries
      if formOf found == "l" || found.has "s" then
        let total := (entries.map Listed.blocks).foldl (· + ·) 0
        Tool.putText s!"total {total}\n"
      putListed found entries
      let inner := if found.has "R" then
          (entries.filter fun one =>
            one.node.isDirectory && one.name != ['.'] && one.name != ['.', '.']).map fun one =>
            inside path one.name
        else []
      listDirectories found titled fuel false (inner ++ rest)

def ls (arguments : List Octets) : Tool Unit := do
  let found ← Options.ofWords
    ["a all", "A almost-all", "b escape", "B ignore-backups", "c", "C", "d directory", "f", "F classify?",
      "g", "G no-group", "group-directories-first", "h human-readable", "H", "i inode", "I ignore=",
      "k kibibytes", "l", "L dereference", "m", "n numeric-uid-gid", "N literal", "o", "p", "q", "Q quote-name",
      "r reverse", "R recursive", "s size", "S", "sort=", "t", "T tabsize=", "u", "U", "v", "w width=",
      "x", "X", "Z", "1", "color?", "full-time", "time=", "time-style=", "si", "format=", "author",
      "hide=", "quoting-style=", "show-control-chars", "indicator-style=", "file-type"] arguments 2
  let paths := if found.operands.isEmpty then [['.']] else found.operands
  let isLong := formOf found == "l"
  let mut files : List Listed := []
  let mut directories : List Octets := []
  for path in paths do
    let plain ← nodeAt path false
    let real ← nodeAt path
    match plain with
    | .error cause =>
      Tool.blame 2 s!"cannot access {Tool.quoted path}: {cause.wording}"
    | .ok (place, node) =>
      let target := real.toOption.map (·.2)
      let follows := found.has "L" || found.has "H" ||
        (target.any Node.isDirectory && !(isLong || found.has "d" || found.has "F"))
      let node := if follows then target.getD node else node
      if node.isDirectory && !found.has "d" then directories := path :: directories
      else files := { name := path, node, place, target } :: files
  let listed := ordered found files.reverse
  if !listed.isEmpty then putListed found listed
  let sorted := (ordered found (directories.reverse.map fun path =>
    { name := path, node := .directory 0, place := [] })).map (·.name)
  let shown ← if (found.last? ["t", "S"]).isSome then do
      let known ← (directories.reverse).filterMapM fun path => do
        return (← nodeAt path).toOption.map fun (place, node) =>
          { name := path, node, place : Listed }
      pure ((ordered found known).map (·.name))
    else pure sorted
  let titled := paths.length > 1 || found.has "R"
  let _ ← listDirectories found titled 100000 listed.isEmpty shown

/-! ## What is known of files -/

/-- What a letter of a format stands for. -/
def statusOf? (path : Octets) (place : Location) (node : Node) (machine : Machine) (c : Char) :
    Option Octets :=
  let listed : Listed := { name := path, node, place }
  let number := (machine.files.number? place).getD 0
  let time := Moment.inFormat node.modified "%Y-%m-%d %H:%M:%S.%N %z".toList
  let seconds := Octets.ofInt (node.modified / Moment.nanosPerSecond)
  let kindBits := match node.content with
    | .file _ => 0o100000
    | .directory => 0o40000
    | .link _ => 0o120000
    | .device _ => 0o20000
  match c with
  | 'a' => some (Permission.inOctal 1 node.mode)
  | 'A' => some (listed.letter :: Permission.inLetters node.mode)
  | 'b' => some (Octets.ofNat (listed.blocks * 2))
  | 'B' => some "512".toList
  | 'd' | 'D' => some "1".toList
  | 'f' => some (Nat.toDigits 16 (kindBits + node.mode))
  | 'F' => some (kindName node).toList
  | 'g' | 'u' => some "0".toList
  | 'G' | 'U' => some "root".toList
  | 'h' => some (Octets.ofNat (if node.isDirectory then 2 else machine.files.linkCount number))
  | 'i' => some (Octets.ofNat (number + 1000))
  | 'm' => some "/".toList
  | 'n' => some path
  | 'N' =>
    some (match node.content with
      | .link text => Quoting.reported path ++ " -> ".toList ++ Quoting.reported (Octets.ofText text)
      | _ => Quoting.reported path)
  | 'o' => some "4096".toList
  | 's' => some (Octets.ofNat listed.size)
  | 't' | 'T' => some "0".toList
  | 'w' => some ['-']
  | 'W' => some ['0']
  | 'x' | 'y' | 'z' => some time
  | 'X' | 'Y' | 'Z' => some seconds
  | _ => none

/-- A format filled in; `escapes` says whether backslashes have a meaning. -/
def fillStatus (value? : Char → Option Octets) (escapes : Bool) (fuel : Nat) (format : Octets) :
    Octets :=
  match fuel, format with
  | 0, _ | _, [] => []
  | fuel + 1, '%' :: '%' :: rest => '%' :: fillStatus value? escapes fuel rest
  | fuel + 1, '%' :: rest =>
    let flags := rest.takeWhile fun c => "-#+ 0".toList.contains c
    let after := rest.drop flags.length
    let digits := after.takeWhile Char.isDigit
    match after.drop digits.length with
    | [] => '%' :: rest
    | c :: more =>
      let text := (value? c).getD ['?']
      let width := Octets.digitsValue digits
      let shown := if flags.contains '-' then Octets.padEnd width text
        else Octets.padStart width text (if flags.contains '0' then '0' else ' ')
      shown ++ fillStatus value? escapes fuel more
  | fuel + 1, '\\' :: c :: rest =>
    if !escapes then '\\' :: fillStatus value? escapes fuel (c :: rest)
    else
      let meant := match c with
        | 'n' => '\n'
        | 't' => '\t'
        | 'r' => '\r'
        | 'a' => '\x07'
        | '0' => '\x00'
        | c => c
      meant :: fillStatus value? escapes fuel rest
  | fuel + 1, c :: rest => c :: fillStatus value? escapes fuel rest

def stat (arguments : List Octets) : Tool Unit := do
  let found ← Options.ofWords
    ["L dereference", "f file-system", "c format=", "printf=", "t terse", "cached="] arguments
  if found.operands.isEmpty then Tool.lackOperand 1
  let usual := "  File: %N\n  Size: %-10s\tBlocks: %-10b IO Block: %-6o %F\n" ++
    "Device: 0,1\tInode: %-11i Links: %h\n" ++
    "Access: (%04a/%10.10A)  Uid: (%5u/%8U)   Gid: (%5g/%8G)\n" ++
    "Access: %x\nModify: %y\nChange: %z\n Birth: %w\n"
  for path in found.operands do
    match ← nodeAt path (found.has "L") with
    | .error cause => Tool.blame 1 s!"cannot statx {Tool.quoted path}: {cause.wording}"
    | .ok (place, node) =>
      let machine ← Tool.look id
      let value? (c : Char) : Option Octets := statusOf? path place node machine c
      match found.last? ["c", "printf"] with
      | some ("c", format) =>
        Tool.putLine (fillStatus value? false (format.length + 1) format)
      | some (_, format) => Tool.put (fillStatus value? true (format.length + 1) format)
      | none => Tool.put (fillStatus value? false (usual.length + 1) usual.toList)

/-- Prints how much room files take. -/
def du (arguments : List Octets) : Tool Unit := do
  let found ← Options.ofWords
    ["a all", "b bytes", "c total", "d max-depth=", "h human-readable", "k", "m", "s summarize",
      "apparent-size"] arguments
  let paths := if found.operands.isEmpty then [['.']] else found.operands
  let mut total := 0
  for path in paths do
    match ← nodeAt path false with
    | .error cause => Tool.blame 1 s!"cannot access {Tool.quoted path}: {cause.wording}"
    | .ok (place, _) =>
      let below ← Tool.look fun machine =>
        (machine.files.below place).filterMap fun (rest, number) =>
          (machine.files.nodes[number]?).map fun node => (rest, node)
      let sizeOf (node : Node) : Nat :=
        let listed : Listed := { name := [], node, place := [] }
        if found.has "b" then listed.size else listed.blocks
      let directories := (below.filter fun (_, node) => node.isDirectory || found.has "a").map (·.1)
      let depth := if found.has "s" then some 0 else (found.value? "d").bind Octets.natural?
      let chosen := (if directories.contains [] then directories else [] :: directories).filter
        fun rest => depth.all (rest.length ≤ ·)
      let deepestFirst := chosen.mergeSort fun a b =>
        if a.isPrefixOf b then false else if b.isPrefixOf a then true else !b.lex a (· < ·)
      for rest in deepestFirst do
        let size := ((below.filter fun (other, _) => rest.isPrefixOf other).map fun entry =>
          sizeOf entry.2).foldl (· + ·) 0
        if rest.isEmpty then total := total + size
        let name := rest.foldl (fun path name => inside path (Octets.ofText name)) path
        let shown := if found.has "h" then humanSize (size * 1024) else Octets.ofNat size
        Tool.putLine (shown ++ '\t' :: name)
  if found.has "c" then Tool.putText s!"{total}\ttotal\n"

end TaskRunner.Shell.Utility
