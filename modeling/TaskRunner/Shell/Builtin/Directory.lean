import TaskRunner.Shell.Builtin.Basic
import TaskRunner.Shell.Permission
import TaskRunner.Shell.Program
/- # TaskRunner.Shell.Builtin.Directory -- the working directory

The shell knows its directory by the path on which it came there, in which links have not been
followed; two dots lead back on that path. -/

namespace TaskRunner.Shell.Builtin
set_option autoImplicit false

/-- The path that leads to a location without links. -/
def locationPath (place : Location) : Octets := Octets.ofText ("/" ++ "/".intercalate place)

/-- A path from a directory with its dots taken away. -/
def logicalPath (directory path : Octets) : Octets :=
  let start : List Octets := if path.head? == some '/' then []
    else (Octets.splitAt '/' directory).filter (!·.isEmpty)
  let pieces := (Octets.splitAt '/' path).foldl
    (fun (before : List Octets) piece =>
      if piece.isEmpty || piece == ['.'] then before
      else if piece == ['.', '.'] then before.tail
      else piece :: before)
    start.reverse
  '/' :: Octets.join ['/'] pieces.reverse

/-- Makes a variable one that other programs see. -/
def setExported (name : String) (value : Octets) (process : Process) : Process :=
  let process := process.set name.toList value
  { process with
    bindings := process.bindings.insert name.toList
      { process.bindings.find name.toList with exported := true } }

/-- Goes to a directory, unless it cannot be gone to. -/
def goTo (physical : Bool) (path : Octets) : Work (Option FileError) := do
  let process ← Work.process
  let logical := logicalPath process.directory path
  let target := if physical || (process.isExtended && path.isEmpty) then path else logical
  let target := if target.isEmpty then ['.'] else target
  let checked := if process.isExtended then path else target
  let found ← Work.look fun machine => do
    let _ ← machine.files.find machine.place (if checked.isEmpty then "." else Octets.toText checked)
    machine.files.find machine.place (Octets.toText target)
  match found with
  | .error cause => return some cause
  | .ok (place, node) =>
    if !node.isDirectory then return some .notDirectory
    else
      Work.change (·.modifySelf fun record => { record with place })
      let directory := if physical then locationPath place else logical
      Work.modify fun process =>
        setExported "PWD" directory
          { setExported "OLDPWD" process.directory process with directory }
      return none

/-- The directories in which a name is looked for; those that a variable lists come with a flag. -/
def searched (process : Process) (path : Octets) : List (Octets × Bool) :=
  let isFixed := path.head? == some '/' || path == ['.'] || path == ['.', '.'] ||
    "./".toList.isPrefixOf path || "../".toList.isPrefixOf path
  match if isFixed then none else process.bindings.text? "CDPATH".toList with
  | none => []
  | some directories =>
    ((Octets.splitAt ':' directories).zip (Program.candidates directories path)).map
      fun (directory, candidate) => (candidate, !directory.isEmpty)

def changeDirectory (arguments : List Octets) : Work Unit := do
  let process ← Work.process
  let letters := if process.isExtended then "LPe@" else "LP"
  let (found, words) ← options letters "cd [-L|[-P [-e]] [-@]] [dir]" arguments
  let physical := (found.getLast?.map (·.1)) == some 'P'
  let cannot (path : Octets) (cause : FileError) : Work Unit := do
    if process.isExtended then failing 1 s!"{path.toText}: {cause.wording}"
    else Work.fail 2 s!"can't cd to {path.toText}"
  let unset (name : String) : Work Unit := failing 1 s!"{name} not set"
  let go (path : Octets) (shows : Bool) : Work Unit := do
    let files ← Work.look fun machine => (machine.files, machine.place)
    let known := (searched process path).find? fun (candidate, _) =>
      files.1.isDirectory files.2 candidate.toText
    let (target, shows) := match known with
      | some (candidate, listed) => (candidate, shows || listed)
      | none => (path, shows)
    match ← goTo physical target with
    | some cause => cannot path cause
    | none =>
      if shows then printOut ((← Work.process).directory ++ ['\n']) else succeed
  match words with
  | [] =>
    match process.bindings.text? "HOME".toList with
    | some home => go home false
    | none => if process.isExtended then unset "HOME" else succeed
  | [['-']] =>
    match process.bindings.text? "OLDPWD".toList with
    | some path => go path true
    | none => if process.isExtended then unset "OLDPWD" else go [] true
  | path :: more =>
    if process.isExtended && !more.isEmpty then failing 1 "too many arguments"
    else go path false

/-- Prints the working directory. -/
def printDirectory (arguments : List Octets) : Work Unit := do
  let (found, _) ← options "LP" "pwd [-LP]" arguments
  let process ← Work.process
  let place ← Work.look (·.place)
  let physical := (found.getLast?.map (·.1)) == some 'P'
  printOut ((if physical then locationPath place else process.directory) ++ ['\n'])

/-! ## The directories that were left -/

/-- A path with a tilde for the home directory. -/
def withTilde (process : Process) (path : Octets) : Octets :=
  match process.bindings.text? "HOME".toList with
  | some home =>
    if path == home then ['~']
    else if !home.isEmpty && (home ++ ['/']).isPrefixOf path then '~' :: path.drop home.length
    else path
  | none => path

def listDirectories : Work Unit := do
  let process ← Work.process
  printOut (Octets.join [' '] ((process.directory :: process.directories).map (withTilde process))
    ++ ['\n'])

/-- Goes to a directory and remembers the present one. -/
def pushDirectory (arguments : List Octets) : Work Unit := do
  let process ← Work.process
  let swap (path : Octets) (rest : List Octets) : Work Unit := do
    match ← goTo false path with
    | some cause => failing 1 s!"{path.toText}: {cause.wording}"
    | none =>
      Work.modify fun after => { after with directories := process.directory :: rest }
      listDirectories
  match arguments, process.directories with
  | [], path :: rest => swap path rest
  | [], [] => failing 1 "no other directory"
  | path :: _, rest => swap path rest

/-- Goes back to the directory that was remembered last. -/
def popDirectory : Work Unit := do
  let process ← Work.process
  match process.directories with
  | [] => failing 1 "directory stack empty"
  | path :: rest =>
    match ← goTo false path with
    | some cause => failing 1 s!"{path.toText}: {cause.wording}"
    | none =>
      Work.modify fun process => { process with directories := rest }
      listDirectories

/-! ## The permissions of new files -/

def setMask (arguments : List Octets) : Work Unit := do
  let process ← Work.process
  let letters := if process.isExtended then "pS" else "S"
  let (found, words) ← options letters "umask [-p] [-S] [mode]" arguments
  let mask ← Work.look (·.self.mask)
  let shown := if hasOption found 'S' then Permission.asAssignments (0o777 ^^^ mask)
    else Permission.inOctal 4 mask
  match words with
  | [] =>
    let lead := if hasOption found 'p' then
        if hasOption found 'S' then "umask -S ".toList else "umask ".toList
      else []
    printOut (lead ++ shown ++ ['\n'])
  | text :: _ =>
    let set (mask : Nat) : Work Unit := do
      Work.change (·.modifySelf fun record => { record with mask })
      succeed
    if text.head?.any Char.isDigit then
      match Octets.octal? text with
      | some n =>
        if n ≤ 0o777 then set n else Work.fail 2 s!"Illegal number: {text.toText}"
      | none =>
        if process.isExtended then failing 1 s!"{text.toText}: octal number out of range"
        else Work.fail 2 s!"Illegal number: {text.toText}"
    else
      match Permission.change? 0 false (0o777 ^^^ mask) text with
      | some mode => set (0o777 ^^^ (mode &&& 0o777))
      | none =>
        if process.isExtended then
          failing 1 s!"\x60{Octets.toText (text.take 1)}': invalid symbolic mode operator"
        else Work.fail 2 s!"Illegal mode: {text.toText}"

end TaskRunner.Shell.Builtin
