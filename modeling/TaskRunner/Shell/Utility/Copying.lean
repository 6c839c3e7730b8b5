import TaskRunner.Shell.Utility.Files
/- # TaskRunner.Shell.Utility.Copying -- files in other places

A copy has the content of its source and a time of its own, unless it is to have that of the source
too.  What is moved stays what it is and has another name afterwards. -/

namespace TaskRunner.Shell.Utility
set_option autoImplicit false

/-! ## Copies -/

/-- How files are copied. -/
structure CopyRule where
  recursive : Bool := false
  /-- Whether links are copied as links, wherever they are. -/
  keepsLinks : Bool := false
  keepsTimes : Bool := false
  keepsModes : Bool := false
  /-- What is done where something is in the way. -/
  skipsExisting : Bool := false
  skipsNewer : Bool := false
  force : Bool := false
  /-- Whether it is asked before a file is written over. -/
  careful : Bool := false
  /-- Whether links are made in place of copies. -/
  hard : Bool := false
  symbolic : Bool := false
  talks : Bool := false
  removesFirst : Bool := false

namespace CopyRule

/-- Gives a copy the time and the permissions of its source. -/
def finish (rule : CopyRule) (node : Node) (target : Octets) : Tool Unit := do
  match ← nodeAt target false with
  | .error _ => return ()
  | .ok (place, _) =>
    if rule.keepsModes then changeFiles (·.setMode place node.mode)
    if rule.keepsTimes then setModified place node.modified

/-- Says what is copied. -/
def say (rule : CopyRule) (source target : Octets) : Tool Unit := do
  if rule.talks then Tool.putText s!"{Tool.quoted source} -> {Tool.quoted target}\n"

/-- Copies a file that is no directory. -/
def copyFile (rule : CopyRule) (source : Octets) (node : Node) (target : Octets) : Tool Unit := do
  let unlinked (target : Octets) : Tool Unit := do
    match ← nodeAt target false with
    | .ok (place, _) => changeFiles (·.removeTree place)
    | .error _ => pure ()
  match node.content with
  | .link text =>
    unlinked target
    let result ← changing fun machine => do
      let found ← machine.files.resolve machine.place (Octets.toText target) false
      return machine.files.create found.place (.link text machine.files.clock)
    match result with
    | none =>
      rule.say source target
      rule.finish node target
    | some cause =>
      Tool.blame 1 s!"cannot create symbolic link {Tool.quoted target}: {cause.wording}"
  | _ =>
    match ← Tool.contents source with
    | .error cause =>
      Tool.blame 1 s!"cannot open {Tool.quoted source} for reading: {cause.wording}"
    | .ok text =>
      let existed ← isThere target
      if rule.removesFirst && existed then unlinked target
      match ← Tool.act (Action.openFile target .output) with
      | .error cause =>
        let cause := if cause == .isDirectory && target.getLast? == some '/' then
            FileError.notDirectory else cause
        Tool.blame 1 s!"cannot create regular file {Tool.quoted target}: {cause.wording}"
      | .ok opening =>
        let number ← Tool.look Action.freeNumber
        Tool.change (·.setDescriptor number opening)
        let result ← Tool.act (Action.write number text)
        Tool.change (·.close number)
        match result with
        | .error cause => Tool.blame 1 s!"error writing {Tool.quoted target}: {cause.wording}"
        | .ok _ =>
          if !existed || rule.removesFirst then
            match ← nodeAt target with
            | .ok (place, _) =>
              let mode ← Tool.look (·.masked node.mode)
              changeFiles (·.setMode place mode)
            | .error _ => pure ()
          rule.say source target
          rule.finish node target

/-- Puts a copy, or a link, where nothing is in the way. -/
def put (rule : CopyRule) (source : Octets) (node : Node) (target : Octets) : Tool Unit := do
  if rule.hard || rule.symbolic then
    let options : List Options.Given :=
      (if rule.symbolic then [("s", [])] else []) ++ (if rule.force then [("f", [])] else [])
    makeLink { given := options } source target
  else rule.copyFile source node target

/-- Whether two paths lead to one node. -/
def isSame (source target : Octets) (follow : Bool) : Tool Bool := do
  Tool.look fun machine =>
    let number? (path : Octets) (follow : Bool) : Option Nat :=
      ((machine.files.find machine.place (Octets.toText path) follow).toOption).bind fun entry =>
        machine.files.number? entry.1
    match number? source follow, number? target follow with
    | some a, some b => a == b
    | _, _ => false

/-- Copies what is at a path to another. -/
def copy (rule : CopyRule) (fuel : Nat) (isTop : Bool) (source target : Octets) : Tool Unit :=
  match fuel with
  | 0 => return ()
  | fuel + 1 => do
    let follow := !rule.keepsLinks
    match ← nodeAt source follow with
    | .error cause => Tool.blame 1 s!"cannot stat {Tool.quoted source}: {cause.wording}"
    | .ok (place, node) =>
      if node.isDirectory then
        if !rule.recursive then
          Tool.blame 1 s!"-r not specified; omitting directory {Tool.quoted source}"
        else
          let inItself ← Tool.look fun machine =>
            match machine.files.resolve machine.place (Octets.toText target) with
            | .ok found => place.isPrefixOf found.place && isTop
            | .error _ => false
          if inItself then
            Tool.blame 1
              s!"cannot copy a directory, {Tool.quoted source}, into itself, {Tool.quoted target}"
            return ()
          let existing ← nodeAt target
          match existing with
          | .ok (_, other) =>
            if !other.isDirectory then
              Tool.blame 1 s!"cannot overwrite non-directory {Tool.quoted target} with directory {Tool.quoted source}"
              return ()
          | .error _ =>
            let mode ← Tool.look (·.masked node.mode)
            match ← makeDirectory target mode with
            | none => rule.say source target
            | some cause =>
              Tool.blame 1 s!"cannot create directory {Tool.quoted target}: {cause.wording}"
              return ()
          let names ← Tool.look fun machine => machine.files.names place
          for name in names do
            let name := Octets.ofText name
            copy rule fuel false (inside source name) (inside target name)
          rule.finish node target
      else
        match ← nodeAt target false with
        | .error _ => rule.put source node target
        | .ok (_, other) =>
          let real := (← nodeAt target).toOption.map (·.2)
          if real.any Node.isDirectory then
            Tool.blame 1 s!"cannot overwrite directory {Tool.quoted target} with non-directory"
          else if rule.skipsExisting then return ()
          else if rule.skipsNewer && (real.any fun other => node.modified ≤ other.modified) then
            return ()
          else if ← isSame source target follow then
            if !rule.hard then
              Tool.blame 1 s!"{Tool.quoted source} and {Tool.quoted target} are the same file"
          else if ← (pure rule.careful <&&> notM (asks s!"overwrite {Tool.quoted target}?")) then
            Tool.setStatus 1
          else if other.isLink && real.isNone && !rule.force && !rule.keepsLinks then
            Tool.blame 1 s!"not writing through dangling symlink {Tool.quoted target}"
          else rule.put source node target

end CopyRule

/-- Makes the directories of a source under a target. -/
def makeParents (source target : Octets) : Tool Unit := do
  let directory := directoryName source
  let mode ← Tool.look (·.masked 0o777)
  if directory != ['.'] then
    let _ ← makeWay false mode mode (inside target directory)

def cp (arguments : List Octets) : Tool Unit := do
  let found ← Options.ofWords
    ["a archive", "attributes-only", "b", "backup?", "d", "f force", "H", "i interactive", "l link",
      "L dereference", "n no-clobber", "p", "P no-dereference", "parents", "preserve?", "r R recursive",
      "reflink?", "remove-destination", "s symbolic-link", "S suffix=", "sparse=",
      "strip-trailing-slashes", "t target-directory=", "T no-target-directory", "u", "update?",
      "v verbose", "x one-file-system"] arguments
  let has := found.has
  let recursive := has "r" || has "a"
  let keepsLinks := match found.last? ["L", "P", "d", "a", "H"] with
    | some ("L", _) | some ("H", _) => false
    | some _ => true
    | none => recursive
  let preserves (what : String) : Bool :=
    has "a" || has "p" || match found.value? "preserve" with
      | some text => text.isEmpty || (Octets.splitAt ',' text).any fun part =>
        part == what.toList || part == "all".toList
      | none => false
  let update := (found.value? "update").map Octets.toText
  let rule : CopyRule := {
    recursive, keepsLinks, keepsTimes := preserves "timestamps", keepsModes := preserves "mode"
    skipsExisting := has "n" || update == some "none"
    skipsNewer := has "u" || update == some "" || update == some "older"
    force := has "f", careful := has "i" && !has "f", hard := has "l", symbolic := has "s"
    talks := has "v", removesFirst := has "remove-destination" }
  if has "n" then
    Tool.complain
      "warning: behavior of -n is non-portable and may change in future; use --update=none instead"
  let targeted ← targeted found
  for source in targeted.sources do
    if has "parents" then
      makeParents source targeted.target
      rule.copy maxDepth true source (inside targeted.target source)
    else
      let target := targeted.pathFor source
      let target := if lastName source == ['.', '.'] || lastName source == ['.'] then targeted.target
        else target
      rule.copy maxDepth true source target

/-! ## Moving -/

/-- Gives what is at a path another name. -/
def movePath (found : Options.Found) (source target : Octets) : Tool Unit := do
  match ← nodeAt source false with
  | .error cause => Tool.blame 1 s!"cannot stat {Tool.quoted source}: {cause.wording}"
  | .ok (place, node) =>
    let moved : Tool Unit := do
      let result ← changing fun machine => do
        let resolved ← machine.files.resolve machine.place (Octets.toText target) false
        if resolved.slash && !node.isDirectory then .error .notDirectory
        else return machine.files.rename place resolved.place
      match result with
      | none =>
        if found.has "v" then
          Tool.putText s!"renamed {Tool.quoted source} -> {Tool.quoted target}\n"
      | some cause =>
        Tool.blame 1 s!"cannot move {Tool.quoted source} to {Tool.quoted target}: {cause.wording}"
    let inItself ← Tool.look fun machine =>
      match machine.files.resolve machine.place (Octets.toText target) false with
      | .ok resolved => place.isPrefixOf resolved.place && resolved.place != place
      | .error _ => false
    if inItself && node.isDirectory then
      Tool.blame 1 s!"cannot move {Tool.quoted source} to a subdirectory of itself, {Tool.quoted target}"
    else
      match ← nodeAt target false with
      | .error _ => moved
      | .ok (otherPlace, other) =>
        let names ← Tool.look fun machine => machine.files.names otherPlace
        if found.last? ["n", "f", "i"] matches some ("n", _) then
          Tool.blame 1 s!"not replacing {Tool.quoted target}"
        else if ← CopyRule.isSame source target false then
          if place == otherPlace then
            Tool.blame 1 s!"{Tool.quoted source} and {Tool.quoted target} are the same file"
          else changeFiles (·.removeTree place)
        else if (found.has "u" || found.has "update") && node.modified ≤ other.modified then return ()
        else if other.isDirectory && !node.isDirectory then
          Tool.blame 1 s!"cannot overwrite directory {Tool.quoted target} with non-directory"
        else if node.isDirectory && !other.isDirectory then
          Tool.blame 1 s!"cannot overwrite non-directory {Tool.quoted target} with directory {Tool.quoted source}"
        else if other.isDirectory && !names.isEmpty then
          Tool.blame 1 s!"cannot overwrite {Tool.quoted target}: {FileError.notEmpty.wording}"
        else if found.last? ["n", "f", "i"] matches some ("i", _) then
          if ← asks s!"overwrite {Tool.quoted target}?" then moved else Tool.setStatus 1
        else moved

def mv (arguments : List Octets) : Tool Unit := do
  let found ← Options.ofWords
    ["b", "backup?", "f force", "i interactive", "n no-clobber", "S suffix=",
      "strip-trailing-slashes", "t target-directory=", "T no-target-directory", "u", "update?",
      "v verbose", "Z context"] arguments
  let targeted ← targeted found
  for source in targeted.sources do
    movePath found (if targeted.isDirectory then withoutSlashes source else source)
      (targeted.pathFor source)

/-! ## Installing -/

/-- Copies files with permissions of their own, or makes directories. -/
def install (arguments : List Octets) : Tool Unit := do
  let found ← Options.ofWords
    ["b", "c", "C compare", "d directory", "D", "g group=", "m mode=", "o owner=", "p preserve-timestamps",
      "s strip", "S suffix=", "t target-directory=", "T no-target-directory", "v verbose"] arguments
  let mode ← match found.value? "m" with
    | none => pure 0o755
    | some text =>
      match Permission.change? 0 (found.has "d") 0 text with
      | some mode => pure mode
      | none => Tool.fail 1 s!"invalid mode {Tool.quoted text}"
  if found.has "d" then
    if found.operands.isEmpty then Tool.misuse 1 "missing file operand"
    for path in found.operands do
      if ← makeWay false mode 0o755 path then
        match ← nodeAt path with
        | .ok (place, _) => changeFiles (·.setMode place mode)
        | .error _ => pure ()
  else
    if found.has "D" && found.operands.length == 2 then
      let directory := directoryName (found.operands.getLastD [])
      if directory != ['.'] then
        let _ ← makeWay false 0o755 0o755 directory
    let targeted ← targeted found
    let rule : CopyRule := {
      keepsTimes := found.has "p", removesFirst := true, talks := found.has "v" }
    for source in targeted.sources do
      let target := targeted.pathFor source
      if (← nodeAt source).toOption.any (·.2.isDirectory) then
        Tool.blame 1 s!"omitting directory {Tool.quoted source}"
      else
        rule.copy maxDepth true source target
        match ← nodeAt target with
        | .ok (place, node) => if node.isFile then changeFiles (·.setMode place mode)
        | .error _ => pure ()

/-! ## Blocks -/

/-- Copies a part of what can be read, in blocks. -/
def dd (arguments : List Octets) : Tool Unit := do
  let entries ← arguments.mapM fun word => do
    match Octets.cut? '=' word with
    | some (name, value) =>
      let known := ["if", "of", "bs", "ibs", "obs", "count", "skip", "seek", "conv", "status", "iflag",
        "oflag", "cbs"]
      if known.any (·.toList == name) then return (Octets.toText name, value)
      else Tool.misuse 1 s!"unrecognized operand {Tool.quoted word}"
    | none => Tool.misuse 1 s!"unrecognized operand {Tool.quoted word}"
  let number (name : String) (usual : Nat) : Tool Nat := do
    match entries.lookup name with
    | none => return usual
    | some text =>
      match Count.ofText? (if text.getLast? == some 'c' then text.dropLast else text) with
      | some n => return n
      | none => Tool.fail 1 s!"invalid number: {Tool.quoted text}"
  let size ← number "bs" (← number "ibs" 512)
  let skip ← number "skip" 0
  let seek ← number "seek" 0
  let source := (entries.lookup "if").getD ['-']
  let input ← match ← Tool.openInput source with
    | .ok number => pure number
    | .error cause => Tool.fail 1 s!"failed to open {Tool.quoted source}: {cause.wording}"
  let conversions := Octets.splitAt ',' ((entries.lookup "conv").getD [])
  let keeps := conversions.contains "notrunc".toList
  match entries.lookup "of" with
  | none => pure ()
  | some path =>
    let mode : Machine.Mode := { writes := true, creates := true, empties := !keeps && seek == 0 }
    match ← Tool.act (Action.openFile path mode) with
    | .error cause => Tool.fail 1 s!"failed to open {Tool.quoted path}: {cause.wording}"
    | .ok opening => Tool.change fun machine => (machine.setDescriptor 1 opening).moveTo opening (seek * size)
  let count ← match entries.lookup "count" with
    | none => pure none
    | some _ => do pure (some (← number "count" 0))
  let most := count.map (· * size)
  let text ← read input Action.maxBlocks (most.map (· + skip * size)) []
  let text := text.drop (skip * size)
  let text := match most with
    | some n => text.take n
    | none => text
  let shown := if conversions.contains "ucase".toList then text.map Char.toUpper
    else if conversions.contains "lcase".toList then text.map Char.toLower else text
  Tool.put shown
  Tool.flush
  let whole := text.length / size
  let part := if text.length % size == 0 then 0 else 1
  let status := (entries.lookup "status").map Octets.toText
  if status != some "none" then
    Tool.report s!"{whole}+{part} records in"
    Tool.report s!"{whole}+{part} records out"
    if status != some "noxfer" then
      let unit := if text.length == 1 then "byte" else "bytes"
      Tool.report s!"{text.length} {unit} copied, 0.0001 s, 1.0 MB/s"
where
  read (input : Nat) (fuel : Nat) (most : Option Nat) (found : List Octets) : Tool Octets :=
    match fuel with
    | 0 => return found.reverse.flatten
    | fuel + 1 => do
      if most == some 0 then return found.reverse.flatten
      else
        match ← Tool.block input with
        | .error cause => Tool.fail 1 s!"error reading: {cause.wording}"
        | .ok [] => return found.reverse.flatten
        | .ok octets => read input fuel (most.map (· - octets.length)) (octets :: found)

/-- Cuts a file into parts of as many lines or octets. -/
def split (arguments : List Octets) : Tool Unit := do
  let found ← Options.ofWords
    ["a suffix-length=", "b bytes=", "d", "l lines=", "n number=", "additional-suffix=",
      "numeric-suffixes?", "verbose"] arguments
  let path := found.operands.headD ['-']
  let start := (found.operands[1]?).getD ['x']
  let width := ((found.value? "a").bind Octets.natural?).getD 2
  match ← Tool.contents path with
  | .error cause => Tool.fail 1 s!"cannot open {Tool.quoted path} for reading: {cause.wording}"
  | .ok text =>
    let cutLines (count : Nat) : List Octets :=
      let lines := partsOfLines text
      (List.range ((lines.length + count - 1) / count)).map fun i =>
        ((lines.drop (i * count)).take count).flatten
    let cutOctets (count : Nat) : List Octets :=
      (List.range ((text.length + count - 1) / count)).map fun i =>
        (text.drop (i * count)).take count
    let parts := match found.value? "b", found.value? "n" with
      | some size, _ => cutOctets (max 1 ((Count.ofText? size).getD 1))
      | none, some count =>
        let count := max 1 ((Octets.natural? count).getD 1)
        let size := text.length / count
        (List.range count).map fun i =>
          if i + 1 == count then text.drop (i * size) else (text.drop (i * size)).take size
      | none, none => cutLines (max 1 (((found.value? "l").bind Count.ofText?).getD 1000))
    let digits := found.has "d" || found.has "numeric-suffixes"
    let suffix (n : Nat) : Octets :=
      if digits then Octets.padStart width (Octets.ofNat n) '0'
      else (List.range width).map fun i =>
        Char.ofNat ('a'.toNat + n / Nat.pow 26 (width - 1 - i) % 26)
    let ending := (found.value? "additional-suffix").getD []
    for (part, i) in parts.zip (List.range parts.length) do
      match ← Tool.writeFile (start ++ suffix i ++ ending) part with
      | .ok _ => pure ()
      | .error cause => Tool.fail 1 s!"{Tool.shown (start ++ suffix i)}: {cause.wording}"
where
  /-- The lines of a text with their line feeds. -/
  partsOfLines (text : Octets) : List Octets :=
    let lines := Octets.lines text
    let isWhole := text.getLast? == some '\n'
    (lines.zip (List.range lines.length)).map fun (line, i) =>
      if i + 1 == lines.length && !isWhole then line else line ++ ['\n']

end TaskRunner.Shell.Utility
