import TaskRunner.Shell.Moment
import TaskRunner.Shell.Permission
import TaskRunner.Shell.Tool.Count
import TaskRunner.Shell.Utility.Words
/- # TaskRunner.Shell.Utility.Files -- making, changing and removing files

These programs change what is at a location: they make directories and links, remove them, set times
and permissions, and give texts other sizes. -/

namespace TaskRunner.Shell.Utility
set_option autoImplicit false

/-! ## Nodes -/

/-- What a path leads to. -/
def nodeAt (path : Octets) (follow : Bool := true) : Tool (Except FileError (Location × Node)) :=
  Tool.look fun machine => machine.files.find machine.place (Octets.toText path) follow

/-- Whether there is something at a path. -/
def isThere (path : Octets) (follow : Bool := true) : Tool Bool := do
  return (← nodeAt path follow).toOption.isSome

def isDirectoryAt (path : Octets) (follow : Bool := true) : Tool Bool := do
  return (← nodeAt path follow).toOption.any (·.2.isDirectory)

/-- Changes the files, unless that fails. -/
def changing (f : Machine → Except FileError FileSystem) : Tool (Option FileError) :=
  Tool.act (Action.update fun machine =>
    match f machine with
    | .ok files => (none, { machine with files })
    | .error cause => (some cause, machine))

def changeFiles (f : FileSystem → FileSystem) : Tool Unit :=
  Tool.change fun machine => { machine with files := f machine.files }

/-- A path in a directory. -/
def inside (directory name : Octets) : Octets :=
  if directory.getLast? == some '/' then directory ++ name else directory ++ '/' :: name

/-- What a node is, in words. -/
def kindName (node : Node) : String :=
  match node.content with
  | .file bytes => if bytes.isEmpty then "regular empty file" else "regular file"
  | .directory => "directory"
  | .link _ => "symbolic link"
  | .device _ => "character special file"

/-- Asks something and reads the answer. -/
def asks (question : String) : Tool Bool := do
  Tool.act (Action.report (Octets.ofText s!"{← Tool.name}: {question} "))
  match ← Tool.line? 0 with
  | .ok (some (c :: _, _)) => return c == 'y' || c == 'Y'
  | _ => return false

/-! ## Directories -/

/-- Makes a directory with permissions. -/
def makeDirectory (path : Octets) (mode : Nat) : Tool (Option FileError) :=
  changing fun machine => machine.files.makeDirectory machine.place (Octets.toText path) mode

/-- The paths on the way to a path, the shortest first. -/
def waysTo (path : Octets) : List Octets :=
  let ends := (List.range path.length).filter fun i =>
    i > 0 && path[i]? == some '/' && path[i - 1]? != some '/'
  (ends.map path.take) ++ [withoutSlashes path]

/-- Makes a directory and all that lead to it. -/
def makeWay (talks : Bool) (mode : Nat) (plainMode : Nat) (path : Octets) : Tool Bool := do
  let mut goesOn := true
  for (way, i) in (waysTo path).zip (List.range (path.length + 1)) do
    if goesOn && !way.isEmpty then
      let isLast := i + 1 == (waysTo path).length
      match ← makeDirectory way (if isLast then mode else plainMode) with
      | none =>
        if talks then Tool.putText s!"{← Tool.name}: created directory {Tool.quoted way}\n"
      | some .alreadyThere =>
        if !(← isDirectoryAt way) then
          let cause := if isLast then FileError.alreadyThere else FileError.notDirectory
          Tool.blame 1 s!"cannot create directory {Tool.quoted way}: {cause.wording}"
          goesOn := false
      | some cause =>
        Tool.blame 1 s!"cannot create directory {Tool.quoted way}: {cause.wording}"
        goesOn := false
  return goesOn

def mkdir (arguments : List Octets) : Tool Unit := do
  let found ← Options.ofWords
    ["m mode=", "p parents", "v verbose", "Z context?"] arguments
  if found.operands.isEmpty then Tool.lackOperand 1
  let mask ← Tool.look (·.self.mask)
  let plainMode ← Tool.look (·.masked 0o777)
  let mode ← match found.value? "m" with
    | none => pure plainMode
    | some text =>
      match Permission.change? mask true 0o777 text with
      | some mode => pure mode
      | none => Tool.fail 1 s!"invalid mode {Tool.quoted text}"
  for path in found.operands do
    if found.has "p" then
      let _ ← makeWay (found.has "v") mode plainMode path
    else
      match ← makeDirectory path mode with
      | none =>
        if found.has "v" then Tool.putText s!"mkdir: created directory {Tool.quoted path}\n"
      | some cause =>
        Tool.blame 1 s!"cannot create directory {Tool.quoted path}: {cause.wording}"

/-- Removes an empty directory. -/
def removeDirectory (path : Octets) : Tool (Option FileError) :=
  changing fun machine => do
    let (place, node) ← machine.files.find machine.place (Octets.toText path) false
    let name := lastName path
    if !node.isDirectory then .error .notDirectory
    else if name == ['.'] then .error .invalid
    else if name == ['.', '.'] || !(machine.files.names place).isEmpty then .error .notEmpty
    else return machine.files.removeTree place

def rmdir (arguments : List Octets) : Tool Unit := do
  let found ← Options.ofWords
    ["p parents", "v verbose", "ignore-fail-on-non-empty"] arguments
  if found.operands.isEmpty then Tool.lackOperand 1
  for path in found.operands do
    let ways := if found.has "p" then (waysTo path).reverse.filter (!·.isEmpty) else [path]
    let mut goesOn := true
    for way in ways do
      if goesOn then
        if found.has "v" then Tool.putText s!"rmdir: removing directory, {Tool.quoted way}\n"
        match ← removeDirectory way with
        | none => pure ()
        | some cause =>
          goesOn := false
          if !(cause == .notEmpty && found.has "ignore-fail-on-non-empty") then
            let what := if way == path then "failed to remove" else "failed to remove directory"
            Tool.blame 1 s!"{what} {Tool.quoted way}: {cause.wording}"

/-! ## Removing -/

/-- How files are removed. -/
structure Removal where
  force : Bool := false
  recursive : Bool := false
  emptyDirectories : Bool := false
  talks : Bool := false
  asks : Bool := false

/-- Removes a path, with all below it if it is a directory; says whether it is gone. -/
def removePath (removal : Removal) (fuel : Nat) (path : Octets) : Tool Bool :=
  match fuel with
  | 0 => return false
  | fuel + 1 => do
    match ← nodeAt path false with
    | .error cause =>
      if !(removal.force && (cause == .notFound || cause == .notDirectory)) then
        Tool.blame 1 s!"cannot remove {Tool.quoted path}: {cause.wording}"
      return false
    | .ok (place, node) =>
      if node.isDirectory && !path.isEmpty then
        let names ← Tool.look fun machine => machine.files.names place
        if !removal.recursive && !(removal.emptyDirectories && names.isEmpty) then
          let cause := if removal.emptyDirectories then FileError.notEmpty else FileError.isDirectory
          Tool.blame 1 s!"cannot remove {Tool.quoted path}: {cause.wording}"
          return false
        else if ← (pure (removal.asks && !names.isEmpty) <&&>
            notM (asks s!"descend into directory {Tool.quoted path}?")) then return false
        else
          let mut gone := true
          for name in names do
            if !(← removePath removal fuel (inside path (Octets.ofText name))) then gone := false
          if !gone then return false
          else if ← (pure removal.asks <&&>
              notM (asks s!"remove directory {Tool.quoted path}?")) then return false
          else
            changeFiles (·.removeTree place)
            if removal.talks then Tool.putText s!"removed directory {Tool.quoted path}\n"
            return true
      else if path.getLast? == some '/' then
        Tool.blame 1 s!"cannot remove {Tool.quoted path}: {FileError.notDirectory.wording}"
        return false
      else if ← (pure removal.asks <&&>
          notM (asks s!"remove {kindName node} {Tool.quoted path}?")) then return false
      else
        changeFiles (·.removeTree place)
        if removal.talks then Tool.putText s!"removed {Tool.quoted path}\n"
        return true

/-- How deep directories are gone into. -/
def maxDepth : Nat := 2000

def rm (arguments : List Octets) : Tool Unit := do
  let found ← Options.ofWords
    ["d dir", "f force", "i", "I", "interactive?", "r R recursive", "v verbose",
      "one-file-system", "no-preserve-root", "preserve-root?"] arguments
  let force := match found.last? ["f", "i"] with
    | some (key, _) => key == "f"
    | none => false
  if found.operands.isEmpty && !found.has "f" then Tool.lackOperand 1
  let removal : Removal := {
    force, recursive := found.has "r", emptyDirectories := found.has "d", talks := found.has "v"
    asks := found.has "i" && !force }
  for path in found.operands do
    let name := lastName path
    if removal.recursive && (name == ['.'] || name == ['.', '.']) then
      Tool.blame 1
        s!"refusing to remove '.' or '..' directory: skipping {Tool.quoted path}"
    else if removal.recursive && name.isEmpty && path.head? == some '/' then
      Tool.complain "it is dangerous to operate recursively on '/'"
      Tool.blame 1 "use --no-preserve-root to override this failsafe"
    else
      let _ ← removePath removal maxDepth path

/-- Removes one file. -/
def unlink (arguments : List Octets) : Tool Unit := do
  let found ← Options.ofWords [] arguments
  match found.operands with
  | [] => Tool.lackOperand 1
  | [path] =>
    match ← nodeAt path false with
    | .error cause => Tool.fail 1 s!"cannot unlink {Tool.quoted path}: {cause.wording}"
    | .ok (place, node) =>
      if node.isDirectory then
        Tool.fail 1 s!"cannot unlink {Tool.quoted path}: {FileError.isDirectory.wording}"
      else changeFiles (·.removeTree place)
  | _ :: extra :: _ => Tool.extraOperand 1 extra

/-! ## Targets -/

/-- The sources of a program, and the directory or the path that it takes them to. -/
structure Targeted where
  sources : List Octets
  target : Octets
  /-- Whether the target is a directory to which the sources go. -/
  isDirectory : Bool

/-- Reads sources and a target. -/
def targeted (found : Options.Found) : Tool Targeted := do
  let operands := found.operands.map fun path =>
    if found.has "strip-trailing-slashes" then withoutSlashes path else path
  match found.value? "t", operands with
  | some directory, sources => do
    if sources.isEmpty then Tool.misuse 1 "missing file operand"
    match ← nodeAt directory with
    | .ok (_, node) =>
      if !node.isDirectory then
        Tool.fail 1 s!"target directory {Tool.quoted directory}: {FileError.notDirectory.wording}"
    | .error cause => Tool.fail 1 s!"target directory {Tool.quoted directory}: {cause.wording}"
    return { sources, target := directory, isDirectory := true }
  | none, [] => Tool.misuse 1 "missing file operand"
  | none, [only] =>
    Tool.misuse 1 s!"missing destination file operand after {Tool.quoted only}"
  | none, operands => do
    let target := operands.getLastD []
    let sources := operands.dropLast
    if found.has "T" then
      match sources.drop 1 with
      | [] => return { sources, target, isDirectory := false }
      | _ => Tool.extraOperand 1 ((operands[2]?).getD [])
    else if ← isDirectoryAt target then return { sources, target, isDirectory := true }
    else
      if sources.length > 1 then
        let cause ← match ← nodeAt target with
          | .ok _ => pure FileError.notDirectory
          | .error cause => pure cause
        Tool.fail 1 s!"target {Tool.quoted target}: {cause.wording}"
      return { sources, target, isDirectory := false }

/-- Where a source goes. -/
def Targeted.pathFor (targeted : Targeted) (source : Octets) : Octets :=
  if targeted.isDirectory then
    let name := lastName source
    inside targeted.target name
  else targeted.target

/-! ## Times -/

/-- Sets the time of change of what is at a path. -/
def setModified (place : Location) (time : FileTime) : Tool Unit :=
  changeFiles (·.setModified place time)

def touch (arguments : List Octets) : Tool Unit := do
  let found ← Options.ofWords
    ["a", "c no-create", "d date=", "f", "h no-dereference", "m", "r reference=", "t=", "time="]
    arguments
  let now ← Tool.look (·.files.clock)
  let reference ← match found.value? "r" with
    | none => pure none
    | some path =>
      match ← nodeAt path (!found.has "h") with
      | .ok (_, node) => pure (some node.modified)
      | .error cause =>
        Tool.fail 1 s!"failed to get attributes of {Tool.quoted path}: {cause.wording}"
  let time ← match found.value? "t", found.value? "d" with
    | some text, _ =>
      match Moment.ofDigits? now text with
      | some time => pure (some time)
      | none => Tool.fail 1 s!"invalid date format {Tool.quoted text}"
    | none, some text =>
      match Moment.ofText? (reference.getD now) text with
      | some time => pure (some time)
      | none => Tool.fail 1 s!"invalid date format {Tool.quoted text}"
    | none, none => pure reference
  if found.operands.isEmpty then Tool.misuse 1 "missing file operand"
  let changes := !found.has "a" || found.has "m"
  for path in found.operands do
    let follow := !found.has "h"
    match ← nodeAt path follow with
    | .ok (place, node) =>
      if path.getLast? == some '/' && !node.isDirectory then
        Tool.blame 1 s!"setting times of {Tool.quoted path}: {FileError.notDirectory.wording}"
      else if changes then
        match time with
        | some time => setModified place time
        | none =>
          let clock ← Tool.look (·.files.clock)
          setModified place clock
          changeFiles (·.wait FileSystem.tick)
    | .error cause =>
      if cause == .notFound && (found.has "c" || found.has "h") then pure ()
      else
        match ← Tool.act (Action.openFile path { writes := true, creates := true }) with
        | .ok _ =>
          match time, ← nodeAt path with
          | some time, .ok (place, _) => if changes then setModified place time
          | _, _ => pure ()
        | .error .isDirectory =>
          Tool.blame 1 s!"setting times of {Tool.quoted path}: {FileError.notFound.wording}"
        | .error cause => Tool.blame 1 s!"cannot touch {Tool.quoted path}: {cause.wording}"

/-- Prints a moment. -/
def date (arguments : List Octets) : Tool Unit := do
  let found ← Options.ofWords
    ["d date=", "f file=", "I iso-8601~", "R rfc-email", "r reference=", "rfc-3339=", "s set=",
      "u utc universal", "debug"] arguments
  let now ← Tool.look (·.files.clock)
  let time ← match found.value? "d", found.value? "r" with
    | some text, _ =>
      match Moment.ofText? now text with
      | some time => pure time
      | none => Tool.fail 1 s!"invalid date {Tool.quoted text}"
    | none, some path =>
      match ← nodeAt path with
      | .ok (_, node) => pure node.modified
      | .error cause => Tool.fail 1 s!"{Tool.shown path}: {cause.wording}"
    | none, none => pure now
  let usual := "%a %b %e %H:%M:%S %Z %Y".toList
  let format ← match found.operands with
    | [] =>
      match found.last? ["I", "R", "rfc-3339"] with
      | none => pure usual
      | some ("R", _) => pure "%a, %d %b %Y %H:%M:%S %z".toList
      | some (key, precision) =>
        let between := if key == "I" then 'T' else ' '
        let day := "%Y-%m-%d".toList
        let zone := "%:z".toList
        pure (match Octets.toText precision with
          | "hours" => day ++ between :: "%H".toList ++ zone
          | "minutes" => day ++ between :: "%H:%M".toList ++ zone
          | "seconds" => day ++ between :: "%H:%M:%S".toList ++ zone
          | "ns" => day ++ between :: "%H:%M:%S,%N".toList ++ zone
          | _ => day)
    | ('+' :: format) :: rest =>
      match rest with
      | [] => pure format
      | extra :: _ => Tool.extraOperand 1 extra
    | word :: _ => Tool.fail 1 s!"invalid date {Tool.quoted word}"
  Tool.putLine (Moment.inFormat time format)

/-! ## Permissions -/

/-- Whether a word gives permissions though it looks like an option. -/
def isModeWord (word : Octets) : Bool :=
  match word with
  | '-' :: rest => !rest.isEmpty && rest.all "rwxXst,=+-ugoa".toList.contains &&
      !(rest.all fun c => c == '-')
  | _ => false

/-- Sets the permissions of what is at a path, and of all below it. -/
def changeMode (found : Options.Found) (mask : Nat) (text : Octets) (fuel : Nat) (path : Octets) :
    Tool Unit :=
  match fuel with
  | 0 => return ()
  | fuel + 1 => do
    match ← nodeAt path with
    | .error cause =>
      if !found.has "f" then
        let isDangling ← isThere path false
        let what := if isDangling then "cannot operate on dangling symlink" else "cannot access"
        let tail := if isDangling then "" else s!": {cause.wording}"
        Tool.blame 1 s!"{what} {Tool.quoted path}{tail}"
      else Tool.setStatus 1
    | .ok (place, node) =>
      match Permission.change? mask node.isDirectory node.mode text with
      | none => Tool.misuse 1 s!"invalid mode: {Tool.quoted text}"
      | some mode =>
        changeFiles (·.setMode place mode)
        let shown (mode : Nat) : String :=
          let digits := Octets.toText (Permission.inOctal 4 mode)
          let letters := Octets.toText (Permission.inLetters mode)
          s!"{digits} ({letters})"
        if mode != node.mode && (found.has "v" || found.has "c") then
          Tool.putText s!"mode of {Tool.quoted path} changed from {shown node.mode} to {shown mode}\n"
        else if found.has "v" then
          Tool.putText s!"mode of {Tool.quoted path} retained as {shown mode}\n"
        if found.has "R" && node.isDirectory then
          let names ← Tool.look fun machine => machine.files.names place
          for name in names do
            let child := inside path (Octets.ofText name)
            let isLink := (← nodeAt child false).toOption.any (·.2.isLink)
            if !isLink then changeMode found mask text fuel child

def chmod (arguments : List Octets) : Tool Unit := do
  let known := ["c changes", "f silent quiet", "v verbose", "R recursive", "reference=",
    "no-preserve-root", "preserve-root"]
  -- A mode that takes permissions away looks like an option.
  let before := arguments.takeWhile fun word => !isModeWord word
  let found ← match arguments.drop before.length with
    | word :: rest => do
      let found ← Options.ofWords known (before ++ rest)
      pure (if before.any fun word => word.head? != some '-' then
          -- It comes behind an operand and is no mode.
          { found with operands := found.operands }
        else { found with operands := word :: found.operands })
    | [] => Options.ofWords known arguments
  let mask ← Tool.look (·.self.mask)
  match found.value? "reference", found.operands with
  | some path, operands =>
    match ← nodeAt path with
    | .error cause =>
      Tool.fail 1 s!"failed to get attributes of {Tool.quoted path}: {cause.wording}"
    | .ok (_, node) =>
      for operand in operands do
        changeMode found mask (Permission.inOctal 3 node.mode) maxDepth operand
  | none, [] => Tool.lackOperand 1
  | none, [only] => Tool.misuse 1 s!"missing operand after {Tool.quoted only}"
  | none, text :: paths =>
    if (Permission.change? mask true 0 text).isNone then
      Tool.misuse 1 s!"invalid mode: {Tool.quoted text}"
    for path in paths do
      changeMode found mask text maxDepth path

/-- Gives files to someone, who has them already. -/
def chown (arguments : List Octets) : Tool Unit := do
  let found ← Options.ofWords
    ["c changes", "f silent quiet", "v verbose", "R recursive", "h no-dereference", "L", "P", "H",
      "reference=", "from="] arguments
  match found.operands with
  | [] => Tool.lackOperand 1
  | [only] => Tool.misuse 1 s!"missing operand after {Tool.quoted only}"
  | _ :: paths =>
    for path in paths do
      match ← nodeAt path with
      | .ok _ => pure ()
      | .error cause => Tool.blame 1 s!"cannot access {Tool.quoted path}: {cause.wording}"

/-! ## Links -/

/-- The names of a path from the root, without links in it. -/
def namesOf (path : Octets) : List Octets :=
  (Octets.splitAt '/' path).filter (!·.isEmpty)

/-- The path that leads from one location to another. -/
def relative (source target : List Octets) : Octets :=
  let shared := ((source.zip target).takeWhile fun (a, b) => a == b).length
  let up := List.replicate (source.length - shared) ['.', '.']
  let path := Octets.join ['/'] (up ++ target.drop shared)
  if path.isEmpty then ['.'] else path

/-- Makes one link. -/
def makeLink (found : Options.Found) (source path : Octets) : Tool Unit := do
  let symbolic := found.has "s"
  let what := if symbolic then "symbolic" else "hard"
  let sourceNode ← if symbolic then pure none else do
    match ← nodeAt source (found.has "L") with
    | .ok found => pure (some found)
    | .error cause =>
      Tool.blame 1 s!"failed to access {Tool.quoted source}: {cause.wording}"
      pure none
  if !symbolic && sourceNode.isNone then return ()
  if sourceNode.any (·.2.isDirectory) then
    Tool.blame 1 s!"{Tool.shown source}: hard link not allowed for directory"
    return ()
  let existing ← nodeAt path false
  if found.has "f" then
    match existing with
    | .ok (place, node) =>
      if sourceNode.any (·.1 == place) then
        Tool.blame 1 s!"{Tool.quoted source} and {Tool.quoted path} are the same file"
        return ()
      else if node.isDirectory then
        Tool.blame 1 s!"{Tool.shown path}: cannot overwrite directory"
        return ()
      else
        let source? ← Tool.look fun machine => sourceNode.bind fun entry =>
          machine.files.number? entry.1
        let target? ← Tool.look fun machine => machine.files.number? place
        if !symbolic && source? == target? then return ()
        changeFiles (·.removeTree place)
    | .error _ => pure ()
  let text ← if found.has "r" && symbolic then do
      let resolved ← Tool.look fun machine =>
        let directory := machine.files.resolve machine.place (Octets.toText (directoryName path))
        let target := machine.files.resolve machine.place (Octets.toText source)
        match directory, target with
        | .ok a, .ok b => some (relative (a.place.map Octets.ofText) (b.place.map Octets.ofText))
        | _, _ => none
      pure (resolved.getD source)
    else pure source
  let result ← changing fun machine => do
    let files := machine.files
    let place ← files.resolve machine.place (Octets.toText path) false
    if (files.node? place.place).isSome then .error .alreadyThere
    else if place.slash then .error .notFound
    else if symbolic then
      if text.isEmpty then .error .notFound
      else return files.create place.place (.link (Octets.toText text) files.clock)
    else
      match sourceNode.bind fun entry => files.link entry.1 place.place with
      | some linked => return linked
      | none => .error .notFound
  match result with
  | none =>
    if found.has "v" then
      let sign := if symbolic then "->" else "=>"
      Tool.putText s!"{Tool.quoted path} {sign} {Tool.quoted text}\n"
  | some .alreadyThere =>
    Tool.blame 1 s!"failed to create {what} link {Tool.quoted path}: {FileError.alreadyThere.wording}"
  | some cause =>
    let tail := if symbolic then "" else s!" => {Tool.quoted source}"
    Tool.blame 1 s!"failed to create {what} link {Tool.quoted path}{tail}: {cause.wording}"

def ln (arguments : List Octets) : Tool Unit := do
  let found ← Options.ofWords
    ["b", "d F directory", "f force", "i interactive", "L logical", "n no-dereference", "P physical",
      "r relative", "s symbolic", "S suffix=", "t target-directory=", "T no-target-directory",
      "v verbose", "backup?"] arguments
  match found.operands, found.value? "t" with
  | [source], none => makeLink found source (baseName source)
  | operands, directory =>
    let targetIsLink ← match operands.getLast? with
      | some target => do pure ((← nodeAt target false).toOption.any (·.2.isLink))
      | none => pure false
    -- A link to a directory may be meant itself.
    if directory.isNone && operands.length == 2 && found.has "n" && targetIsLink then
      makeLink found (operands.headD []) (operands.getLastD [])
    else
      let targeted ← targeted found
      for source in targeted.sources do
        makeLink found source (targeted.pathFor source)

def readlink (arguments : List Octets) : Tool Unit := do
  let found ← Options.ofWords
    ["f canonicalize", "e canonicalize-existing", "m canonicalize-missing", "n no-newline", "q s silent quiet",
      "v verbose", "z zero"] arguments
  if found.operands.isEmpty then Tool.lackOperand 1
  for path in found.operands do
    let text ← match found.last? ["f", "e", "m"] with
      | none => do
        pure (((← nodeAt path false).toOption.bind fun entry => entry.2.target?).map Octets.ofText)
      | some (key, _) => Tool.look fun machine =>
        match machine.files.resolve machine.place (Octets.toText path) with
        | .ok resolved =>
          if key == "e" && (machine.files.node? resolved.place).isNone then none
          else some (Startup.pathOf resolved.place)
        | .error _ =>
          if key == "m" then
            let absolute := if path.head? == some '/' then path
              else inside (Startup.pathOf machine.place) path
            some ('/' :: Octets.join ['/'] (namesOf absolute))
          else none
    match text with
    | none => Tool.setStatus 1
    | some text =>
      let ending := if found.has "z" then ['\x00'] else if found.has "n" then [] else ['\n']
      Tool.put (text ++ ending)

/-- A path from the root without dots in it, whatever is there. -/
def withoutDots (path : Octets) : Octets :=
  let step (found : List Octets) (name : Octets) : List Octets :=
    if name == ['.'] then found else if name == ['.', '.'] then found.tail else name :: found
  '/' :: Octets.join ['/'] ((namesOf path).foldl step []).reverse

def realpath (arguments : List Octets) : Tool Unit := do
  let found ← Options.ofWords
    ["e canonicalize-existing", "m canonicalize-missing", "L logical", "P physical", "q quiet",
      "relative-to=", "relative-base=", "s strip no-symlinks", "z zero"] arguments
  if found.operands.isEmpty then Tool.lackOperand 1
  let resolve (path : Octets) : Tool (Except FileError Octets) :=
    Tool.look fun machine =>
      let absolute := if path.head? == some '/' then path
        else inside (Startup.pathOf machine.place) path
      if found.has "s" then .ok (withoutDots absolute)
      else
        match machine.files.resolve machine.place (Octets.toText path) with
        | .ok resolved =>
          if found.has "e" && (machine.files.node? resolved.place).isNone then .error .notFound
          else .ok (Startup.pathOf resolved.place)
        | .error cause => if found.has "m" then .ok (withoutDots absolute) else .error cause
  for path in found.operands do
    match ← resolve path with
    | .error cause =>
      if found.has "q" then Tool.setStatus 1 else Tool.blameFile 1 path cause
    | .ok text =>
      let text ← match found.value? "relative-to" with
        | none => pure text
        | some base => do
          let base := (← resolve base).toOption.getD []
          pure (relative (namesOf base) (namesOf text))
      Tool.put (text ++ [if found.has "z" then '\x00' else '\n'])

/-! ## Sizes and new names -/

/-- The size that a text gives to a file of some size. -/
def sizeFor? (text : Octets) (old : Nat) : Option Nat := do
  match text with
  | '+' :: rest => return old + (← Count.ofText? rest)
  | '-' :: rest => return old - (← Count.ofText? rest)
  | '<' :: rest => return min old (← Count.ofText? rest)
  | '>' :: rest => return max old (← Count.ofText? rest)
  | '/' :: rest =>
    let n ← Count.ofText? rest
    if n == 0 then none else return old / n * n
  | '%' :: rest =>
    let n ← Count.ofText? rest
    if n == 0 then none else return (old + n - 1) / n * n
  | rest => Count.ofText? rest

def truncate (arguments : List Octets) : Tool Unit := do
  let found ← Options.ofWords
    ["c no-create", "o io-blocks", "r reference=", "s size="] arguments
  let reference ← match found.value? "r" with
    | none => pure none
    | some path =>
      match ← nodeAt path with
      | .ok (_, node) => pure (some ((node.bytes?.map ByteArray.size).getD 0))
      | .error cause => Tool.fail 1 s!"cannot stat {Tool.quoted path}: {cause.wording}"
  if reference.isNone && !found.has "s" then
    Tool.misuse 1 "you must specify either '--size' or '--reference'"
  match found.value? "s" with
  | some text =>
    if (sizeFor? text 0).isNone then Tool.fail 1 s!"Invalid number: {Tool.quoted text}"
  | none => pure ()
  if found.operands.isEmpty then Tool.misuse 1 "missing file operand"
  for path in found.operands do
    let missing := !(← isThere path)
    if !(missing && found.has "c") then
      let mode : Machine.Mode := { writes := true, creates := true }
      match ← Tool.act (Action.openFile path mode) with
      | .error cause => Tool.blame 1 s!"cannot open {Tool.quoted path} for writing: {cause.wording}"
      | .ok _ =>
        match ← nodeAt path with
        | .ok (place, node) =>
          match node.bytes? with
          | none => pure ()
          | some bytes =>
            let old := reference.getD bytes.size
            let size := match found.value? "s" with
              | some text => (sizeFor? text old).getD 0
              | none => old
            let shown := bytes.extract 0 size
            let filled := shown ++ ⟨Array.replicate (size - shown.size) 0⟩
            changeFiles fun files =>
              match files.number? place with
              | some number => files.setBytes number filled
              | none => files
        | .error _ => pure ()

/-- Letters of which names are made up. -/
def nameLetters : Array Char :=
  "abcdefghijklmnopqrstuvwxyzABCDEFGHIJKLMNOPQRSTUVWXYZ0123456789".toList.toArray

/-- Letters for a number. -/
def lettersFor (count n : Nat) : Octets :=
  (List.range count).map fun i =>
    (nameLetters[(n * 7919 + i * 104729 + n / (i + 1)) % nameLetters.size]?).getD 'x'

/-- Makes a file or directory of a new name. -/
def mktemp (arguments : List Octets) : Tool Unit := do
  let found ← Options.ofWords
    ["d directory", "u dry-run", "q quiet", "suffix=", "p tmpdir~", "t"] arguments
  let given := found.operands.head?
  let template := given.getD "tmp.XXXXXXXXXX".toList
  let suffix := match found.value? "suffix" with
    | some suffix => suffix
    | none => template.reverse.takeWhile (· != 'X') |>.reverse
  let start := if (found.value? "suffix").isSome then template
    else template.take (template.length - suffix.length)
  let count := (start.reverse.takeWhile (· == 'X')).length
  if count < 3 then Tool.fail 1 s!"too few X's in template {Tool.quoted template}"
  let clock ← Tool.look (·.files.clock)
  let process ← Tool.look (·.current)
  let name := start.take (start.length - count) ++
    lettersFor count ((clock / 1000).toNat + process) ++ suffix
  let directory := match found.value? "p" with
    | some [] => some "/tmp".toList
    | some directory => some directory
    | none => if given.isNone || found.has "t" then some "/tmp".toList else none
  let path := match directory with
    | some directory => inside directory name
    | none => name
  let shown := match directory with
    | some directory => inside directory template
    | none => template
  if found.has "u" then Tool.putLine path
  else if found.has "d" then
    match ← makeDirectory path 0o700 with
    | none => Tool.putLine path
    | some cause =>
      Tool.fail 1
        s!"failed to create directory via template {Tool.quoted shown}: {cause.wording}"
  else
    match ← Tool.act (Action.openFile path { writes := true, creates := true, exclusive := true }) with
    | .ok _ =>
      match ← nodeAt path with
      | .ok (place, _) => changeFiles (·.setMode place 0o600)
      | .error _ => pure ()
      Tool.putLine path
    | .error cause =>
      Tool.fail 1 s!"failed to create file via template {Tool.quoted shown}: {cause.wording}"

end TaskRunner.Shell.Utility
