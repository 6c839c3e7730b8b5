import TaskRunner.Shell.Snippet.Method
import TaskRunner.Shell.Utility.Files
import TaskRunner.Shell.Utility.Running
/- # TaskRunner.Shell.Snippet.Library -- the functions of the language

What is always there, and the modules about the system, its files and commands, the time and numbers. -/

namespace TaskRunner.Shell.Snippet
set_option autoImplicit false

/-! ## Files -/

/-- The opening that a mode of a file asks for. -/
def modeOf? (text : List Char) : Option (Machine.Mode × Bool) :=
  let letters := text.filter fun c => c != 'b' && c != 't'
  let mode? : Option Machine.Mode := match letters with
    | [] | ['r'] => some .input
    | ['w'] | ['x'] => some .output
    | ['a'] => some .append
    | ['r', '+'] | ['+', 'r'] => some { reads := true, writes := true }
    | ['w', '+'] | ['x', '+'] => some { Machine.Mode.output with reads := true }
    | ['a', '+'] => some { Machine.Mode.append with reads := true }
    | _ => none
  mode?.map fun mode => (mode, text.contains 'b')

/-- Opens a file. -/
def openFile (name mode : Value) : Run Value := do
  let text ← match mode with
    | .text t => pure t
    | .nothing => pure ['r']
    | other => raise "TypeError" s!"open() argument 'mode' must be str, not {← kindOf other}"
  match modeOf? text with
  | none => raise "ValueError" s!"invalid mode: '{String.ofList text}'"
  | some (mode, binary) =>
    let path ← pathOf name
    let refuse (cause : FileError) : Run Value := raiseFileError cause [name]
    let isDirectory ← (Utility.isDirectoryAt path : Tool Bool)
    let exclusive := text.contains 'x'
    let isThere ← (Utility.isThere path false : Tool Bool)
    if exclusive && isThere then refuse .alreadyThere
    else if isDirectory then refuse .isDirectory
    else
      match ← (Tool.act (Action.openFile path mode) : Tool (Except FileError Nat)) with
      | .error cause => refuse cause
      | .ok opening =>
        let number ← (Tool.look Action.freeNumber : Tool Nat)
        (Tool.change (·.setDescriptor number opening) : Tool Unit)
        let shown ← shownText name
        allot (.file {
          number, name := shown, reads := mode.reads, writes := mode.writes, binary })

/-- Opens a file, does something with it, and closes it. -/
def withFile {α : Type} (name : Value) (mode : String) (work : Nat → OpenFile → Run α)
    (otherwise : α) : Run α := do
  match ← openFile name (.ofString mode) with
  | .object number =>
    match ← object number with
    | some (.file file) =>
      let result ← work number file
      closeFile number file
      return result
    | _ => return otherwise
  | _ => return otherwise

/-- Does something to files, or raises an exception about them. -/
def changingFiles (names : List Value) (change : Tool (Option FileError)) : Run Value := do
  match ← (change : Tool (Option FileError)) with
  | none => return .nothing
  | some cause => raiseFileError cause names

/-- Removes a file. -/
def removeFile (path : Octets) : Tool (Option FileError) :=
  Utility.changing fun machine => do
    let (place, node) ← machine.files.find machine.place (Octets.toText path) false
    if node.isDirectory then .error .isDirectory else return machine.files.removeTree place

/-- Gives what is at a path another name. -/
def renameFile (source target : Octets) : Tool (Option FileError) :=
  Utility.changing fun machine => do
    let (place, node) ← machine.files.find machine.place (Octets.toText source) false
    let resolved ← machine.files.resolve machine.place (Octets.toText target) false
    match machine.files.node? resolved.place with
    | some other =>
      if other.isDirectory && !node.isDirectory then .error .isDirectory
      else if node.isDirectory && !other.isDirectory then .error .notDirectory
      else if other.isDirectory && !(machine.files.names resolved.place).isEmpty then
        .error .notEmpty
      else return machine.files.rename place resolved.place
    | none => return machine.files.rename place resolved.place

/-- The directory that the program works in. -/
def workingDirectory : Run (List Char) := do
  let place ← (Tool.look (·.place) : Tool Location)
  return '/' :: ("/".intercalate place).toList

/-- The path of a part in a directory. -/
def joinPaths (directory part : List Char) : List Char :=
  if part.head? == some '/' || directory.isEmpty then part
  else if directory.getLast? == some '/' then directory ++ part
  else directory ++ '/' :: part

/-- The part of a path behind its last slash, and what is in front of it. -/
def splitPath (path : List Char) : List Char × List Char :=
  let base := (path.reverse.takeWhile (· != '/')).reverse
  let front := path.take (path.length - base.length)
  let trimmed := (front.reverse.dropWhile (· == '/')).reverse
  (if trimmed.isEmpty then front else trimmed, base)

/-- A path from the root without steps that lead nowhere. -/
def absolute (path : List Char) : List Char :=
  let parts : List (List Char) := (Octets.splitAt '/' path).foldl
    (fun (found : List (List Char)) part =>
      if part.isEmpty || part == ['.'] then found
      else if part == ['.', '.'] then found.drop 1
      else part :: found)
    []
  '/' :: ['/'].intercalate parts.reverse

/-- The ending of a name, behind a point that is not its first character. -/
def suffixOf (base : List Char) : List Char :=
  let tail := (base.reverse.takeWhile (· != '.')).reverse
  if tail.length == base.length || tail.length + 1 == base.length then [] else '.' :: tail

/-- The names in a directory. -/
def namesIn (value : Value) : Run (List String) := do
  let path ← pathOf value
  match ← (Utility.nodeAt path : Tool (Except FileError (Location × Node))) with
  | .error cause => raiseFileError cause [value]
  | .ok (place, node) =>
    if node.isDirectory then
      (Tool.look (fun machine => machine.files.names place) : Tool (List String))
    else raiseFileError .notDirectory [value]

/-- The size of a file. -/
def sizeOf (value : Value) : Run Nat := do
  match ← (Utility.nodeAt (← pathOf value) : Tool (Except FileError (Location × Node))) with
  | .error cause => raiseFileError cause [value]
  | .ok (_, node) => return (node.bytes?.map (·.size)).getD 4096

/-- Makes a directory and those that lead to it. -/
def makeDirectories (value : Value) (mayBeThere : Bool) : Run Value := do
  let path ← pathOf value
  let mode ← (Tool.look (·.masked 0o777) : Tool Nat)
  let isDirectory ← (Utility.isDirectoryAt path : Tool Bool)
  if isDirectory && mayBeThere then return .nothing
  else
    for way in (Utility.waysTo path).dropLast do
      if !(← (Utility.isDirectoryAt way : Tool Bool)) then
        let _ ← changingFiles [value] (Utility.makeDirectory way mode)
    changingFiles [value] (Utility.makeDirectory (Utility.withoutSlashes path) mode)

/-! ## Commands -/

/-- The environment that commands get. -/
def environment : Run (List (Octets × Octets)) := do
  match ← object 3 with
  | some (.dict entries) =>
    return entries.toList.filterMap fun (key, value) =>
      match key, value with
      | .text key, .text value => some (toOctets key, toOctets value)
      | _, _ => none
  | _ => return []

/-- Starts a command with other streams. -/
def start (streams : List (Nat × Nat)) (words : List Octets) : Run Nat := do
  let execute := (← (Tool.progress : Tool Progress)).execute
  let environment ← environment
  (Tool.act (Action.fork streams do
    Action.change fun machine => machine.modifySelf fun record =>
      { record with descriptors := record.descriptors.filter (·.1 < 10) }
    Utility.becoming execute environment words fun _ => "") : Tool Nat)

/-- The status of a command, below zero for one that a signal ended. -/
def statusOf : Ending → Int
  | .status n => n
  | ending => 128 - (ending.toStatus : Int)

def wait (process : Nat) : Run Int := do
  return statusOf (← (Tool.act (Action.wait process) : Tool Ending))

/-- The words of a command; one text is a command of a shell if that is asked for. -/
def commandWords (words : Value) (shell : Bool) : Run (List Octets) := do
  let plain ← match words with
    | .text _ | .path _ | .bytes _ => do pure [← pathOf words]
    | other => do (← itemsOf other).mapM pathOf
  if shell then return "/bin/sh".toList :: "-c".toList :: plain else return plain

/-- Refuses a command whose program is not there. -/
def requireProgram (words : List Octets) : Run Unit := do
  let name := words.headD []
  let directories := ((← environment).lookup "PATH".toList).getD Program.defaultPath
  match ← (Tool.look fun machine => Program.find machine directories name :
      Tool (Except FileError Octets)) with
  | .ok _ => return ()
  | .error cause => raiseFileError cause [ofOctets name]

/-- Carries out a command to its end. -/
def runCommand (words : Value) (named : List (String × Value)) : Run Value := do
  let heap := (← get).heap
  let flag (name : String) : Bool := ((named.lookup name).map (·.isTrue heap)).getD false
  let list ← commandWords words (flag "shell")
  requireProgram list
  let pipes (name : String) : Bool := flag "capture_output" ||
    (named.lookup name).any fun value => value.equals heap (.int (-1))
  let silent (name : String) : Bool :=
    (named.lookup name).any fun value => value.equals heap (.int (-3))
  let textual := flag "text" || flag "universal_newlines" || (named.lookup "encoding").isSome
  let made (octets : Octets) : Value := if textual then ofOctets octets else .bytes octets
  let mut streams : List (Nat × Nat) := []
  let mut readers : List (Nat × Nat) := []
  for (name, number) in [("stdout", 1), ("stderr", 2)] do
    if pipes name then
      let (reader, writer) ← (Tool.act (Action.update Machine.newPipe) : Tool (Nat × Nat))
      (Tool.change (·.hold reader) : Tool Unit)
      streams := (number, writer) :: streams
      readers := (number, reader) :: readers
    else if silent name then
      match ← (Tool.act (Action.openFile "/dev/null".toList .output) : Tool (Except FileError Nat)) with
      | .ok opening => streams := (number, opening) :: streams
      | .error _ => pure ()
  if (named.lookup "stderr").any fun value => value.equals heap (.int (-2)) then
    match streams.lookup 1 with
    | some writer => streams := (2, writer) :: streams
    | none =>
      match ← (Tool.look (·.opening? 1) : Tool (Option (Nat × Opening))) with
      | some (opening, _) => streams := (2, opening) :: streams
      | none => pure ()
  match named.lookup "input" with
  | some (.text t) =>
    let source ← (Tool.act (Action.update (·.newSource (toOctets t))) : Tool Nat)
    streams := (0, source) :: streams
  | some (.bytes octets) =>
    let source ← (Tool.act (Action.update (·.newSource octets)) : Tool Nat)
    streams := (0, source) :: streams
  | _ => pure ()
  let process ← start streams list
  let mut results : List (Nat × Value) := []
  for (number, reader) in readers.reverse do
    let under ← (Tool.look Action.freeNumber : Tool Nat)
    (Tool.change fun machine => (machine.setDescriptor under reader).release reader : Tool Unit)
    let octets ← (Tool.act (Action.readAll under) : Tool (Except FileError Octets))
    (Tool.change (·.close under) : Tool Unit)
    results := (number, made (octets.toOption.getD [])) :: results
  let status ← wait process
  if flag "check" && status != 0 then
    raiseValue (.exception "CalledProcessError" [.int status, words])
  let result (number : Nat) : Value := (results.lookup number).getD .nothing
  allot (.ended words status (result 1) (result 2))

/-! ## Modules -/

/-- The modules that there are. -/
def moduleNames : List String :=
  ["builtins", "json", "math", "os", "os.path", "pathlib", "shutil", "signal", "subprocess", "sys",
    "time"]

def pathFunctions : List String :=
  ["abspath", "basename", "dirname", "exists", "getsize", "isdir", "isfile", "islink", "join",
    "splitext"]

/-- The functions of modules. -/
def functionsOf : String → List String
  | "os" =>
    ["_exit", "abort", "chdir", "chmod", "getcwd", "getenv", "getpid", "getppid", "kill", "listdir",
      "makedirs", "mkdir", "remove", "rename", "replace", "rmdir", "symlink", "system", "unlink"]
  | "os.path" => pathFunctions
  | "sys" => ["exit", "getrecursionlimit", "set_int_max_str_digits", "setrecursionlimit"]
  | "time" => ["sleep", "time"]
  | "math" =>
    ["ceil", "factorial", "floor", "gcd", "isqrt", "log", "log10", "log2", "pow", "sqrt", "trunc"]
  | "subprocess" => ["call", "check_call", "check_output", "run"]
  | "pathlib" => ["Path"]
  | "shutil" => ["copy", "copyfile", "move", "rmtree", "which"]
  | "json" => ["dumps"]
  | _ => []

/-- The signals by their names. -/
def signalNumber? (name : String) : Option Nat :=
  if name.startsWith "SIG" then
    (Signal.table.findIdx? fun entry => "SIG" ++ entry.1 == name).map (· + 1)
  else none

/-- Something in a module. -/
def moduleAttribute? (source name : String) : Run (Option Value) := do
  if (functionsOf source).contains name then return some (.builtin (source ++ "." ++ name))
  else
    match source, name with
    | "os", "path" => return some (.module "os.path")
    | "os", "environ" => return some (.object 3)
    | "os", "sep" => return some (.ofString "/")
    | "os", "linesep" => return some (.ofString "\n")
    | "os", "name" => return some (.ofString "posix")
    | "os", "devnull" => return some (.ofString "/dev/null")
    | "sys", "argv" => return some (.object 4)
    | "sys", "stdin" => return some (.object 0)
    | "sys", "stdout" => return some (.object 1)
    | "sys", "stderr" => return some (.object 2)
    | "sys", "platform" => return some (.ofString "linux")
    | "sys", "executable" => return some (.ofString "/usr/bin/python3")
    | "sys", "maxsize" => return some (.int 9223372036854775807)
    | "sys", "byteorder" => return some (.ofString "little")
    | "math", "pi" => return some (.float 3.141592653589793)
    | "math", "e" => return some (.float 2.718281828459045)
    | "math", "inf" => return some (.float (1.0 / 0.0))
    | "math", "nan" => return some (.float (0.0 / 0.0))
    | "subprocess", "PIPE" => return some (.int (-1))
    | "subprocess", "STDOUT" => return some (.int (-2))
    | "subprocess", "DEVNULL" => return some (.int (-3))
    | "subprocess", "CalledProcessError" => return some (.builtin name)
    | "signal", _ => return (signalNumber? name).map fun n => .int n
    | "builtins", _ => return some (.builtin name)
    | _, _ => return none

/-- A text as it is written between quotes in an exchange format. -/
def exchangedText (text : List Char) : List Char :=
  '"' :: text.flatMap quoted ++ ['"']
where
  quoted (c : Char) : List Char :=
    if c == '"' || c == '\\' then ['\\', c]
    else if c == '\n' then ['\\', 'n']
    else if c == '\r' then ['\\', 'r']
    else if c == '\t' then ['\\', 't']
    else if c.toNat < 32 || c.toNat ≥ 127 then
      if c.toNat < 65536 then '\\' :: 'u' :: Value.hexadecimal 4 c.toNat
      else
        let n := c.toNat - 65536
        '\\' :: 'u' :: Value.hexadecimal 4 (55296 + n / 1024) ++
          '\\' :: 'u' :: Value.hexadecimal 4 (56320 + n % 1024)
    else [c]

/-- A value in an exchange format; nothing if it has none. -/
def exchanged? (heap : Heap) (fuel : Nat) (value : Value) : Option (List Char) :=
  match fuel with
  | 0 => none
  | fuel + 1 =>
    let row (items : List Value) : Option (List Char) := do
      return '[' :: Value.joined ", " (← items.mapM (exchanged? heap fuel)) ++ [']']
    match value with
    | .nothing => some "null".toList
    | .bool b => some (if b then "true" else "false").toList
    | .int n => some (Octets.ofInt n)
    | .float x => some (Value.floatText x)
    | .text t => some (exchangedText t)
    | .tuple items => row items
    | .object number =>
      match heap[number]? with
      | some (.list items) => row items.toList
      | some (.dict entries) => do
        let shown ← entries.toList.mapM fun (key, value) => do
          let inner ← exchanged? heap fuel value
          return exchangedText (key.shown heap) ++ ": ".toList ++ inner
        return '\x7b' :: Value.joined ", " shown ++ ['\x7d']
      | _ => none
    | _ => none

/-- The greatest number whose square is not above another one. -/
def squareRoot (n : Nat) : Nat :=
  if n == 0 then 0 else improve (Nat.log2 n + 10) (1 <<< (Nat.log2 n / 2 + 1))
where
  /-- Comes nearer to the root from above. -/
  improve (fuel x : Nat) : Nat :=
    match fuel with
    | 0 => x
    | fuel + 1 =>
      let y := (x + n / x) / 2
      if y < x then improve fuel y else x

/-- A number next to another one, as a whole number. -/
def wholeNear (value : Value) (round : Float → Float) : Run Value := do
  match value with
  | .float x =>
    match Value.intOfFloat? (round x) with
    | some n => return .int n
    | none =>
      if x != x then raise "ValueError" "cannot convert float NaN to integer"
      else raise "OverflowError" "cannot convert float infinity to integer"
  | other => return .int (← wholeOf other)

def floatOf (value : Value) : Run Float := do
  match value.float? with
  | some x => return x
  | none => raise "TypeError" s!"must be real number, not {← kindOf value}"

/-- A function of a module. -/
def moduleFunction (name : String) (values : List Value) (named : List (String × Value)) :
    Run Value := do
  let heap := (← get).heap
  let first : Value := (values.head?).getD .nothing
  let second : Value := (values[1]?).getD .nothing
  let flag (name : String) : Bool := ((named.lookup name).map (·.isTrue heap)).getD false
  let text (t : List Char) : Run Value := return .text t
  let numeric (f : Float → Float) : Run Value := do
    return .float (f (← floatOf first))
  let path ← (if (name.startsWith "os.path." || name.startsWith "shutil.") && !values.isEmpty then
    pathOf first else pure [] : Run Octets)
  match name with
  | "sys.exit" => raiseValue (.exception "SystemExit" values)
  | "sys.getrecursionlimit" => return .int 1000
  | "sys.set_int_max_str_digits" | "sys.setrecursionlimit" => return .nothing
  | "os._exit" => throw (.stop ((← wholeOf first) % 256).toNat)
  | "os.abort" =>
    let _ ← (do
      let process ← Tool.look (·.current)
      Tool.act (Action.kill process 6) : Tool Bool)
    return .nothing
  | "os.kill" =>
    let process ← wholeOf first
    let signal ← wholeOf second
    if ← (Tool.act (Action.kill process.toNat signal.toNat) : Tool Bool) then return .nothing
    else raiseValue (.exception "ProcessLookupError" [.int 3, .ofString "No such process"])
  | "os.getpid" => return .int (← (Tool.look (·.current) : Tool Nat))
  | "os.getppid" => return .int (← (Tool.look (·.self.parent) : Tool Nat))
  | "os.getcwd" => return .text (← workingDirectory)
  | "os.chdir" =>
    match ← (Utility.nodeAt (← pathOf first) : Tool (Except FileError (Location × Node))) with
    | .error cause => raiseFileError cause [first]
    | .ok (place, node) =>
      if node.isDirectory then
        (Tool.change (·.modifySelf fun record => { record with place }) : Tool Unit)
        return .nothing
      else raiseFileError .notDirectory [first]
  | "os.getenv" =>
    match ← object 3 with
    | some (.dict entries) => return (entryOf? heap entries first).getD second
    | _ => return second
  | "os.listdir" =>
    let names ← namesIn (if values.isEmpty then .ofString "." else first)
    newList (names.map Value.ofString)
  | "os.mkdir" =>
    let mode ← (Tool.look (·.masked 0o777) : Tool Nat)
    changingFiles [first] (Utility.makeDirectory (← pathOf first) mode)
  | "os.makedirs" => makeDirectories first (flag "exist_ok")
  | "os.remove" | "os.unlink" => changingFiles [first] (removeFile (← pathOf first))
  | "os.rmdir" => changingFiles [first] (Utility.removeDirectory (← pathOf first))
  | "os.rename" | "os.replace" =>
    changingFiles [first, second] (renameFile (← pathOf first) (← pathOf second))
  | "os.symlink" =>
    let target ← pathOf first
    let way ← pathOf second
    changingFiles [first, second] (Utility.changing fun machine => do
      let resolved ← machine.files.resolve machine.place (Octets.toText way) false
      match machine.files.node? resolved.place with
      | some _ => .error .alreadyThere
      | none =>
        return machine.files.create resolved.place
          (.link (Octets.toText target) machine.files.clock))
  | "os.chmod" =>
    let mode ← wholeOf second
    let way ← pathOf first
    changingFiles [first] (Utility.changing fun machine => do
      let (place, _) ← machine.files.find machine.place (Octets.toText way)
      return machine.files.setMode place mode.toNat)
  | "os.system" =>
    let words ← commandWords first true
    let status ← wait (← start [] ("sh".toList :: words.drop 1))
    return .int (if status < 0 then -status else status * 256)
  | "os.path.exists" => return .bool (← (Utility.isThere path : Tool Bool))
  | "os.path.isdir" => return .bool (← (Utility.isDirectoryAt path : Tool Bool))
  | "os.path.isfile" =>
    let found ← (Utility.nodeAt path : Tool (Except FileError (Location × Node)))
    return .bool (found.toOption.any (·.2.isFile))
  | "os.path.islink" =>
    let found ← (Utility.nodeAt path false : Tool (Except FileError (Location × Node)))
    return .bool (found.toOption.any (·.2.isLink))
  | "os.path.getsize" => return .int (← sizeOf first)
  | "os.path.join" =>
    let parts ← values.mapM shownText
    text (parts.tail.foldl joinPaths (parts.headD []))
  | "os.path.basename" => text (splitPath (← shownText first)).2
  | "os.path.dirname" => text (splitPath (← shownText first)).1
  | "os.path.abspath" =>
    let whole := joinPaths (← workingDirectory) (← shownText first)
    text (absolute whole)
  | "os.path.splitext" =>
    let whole ← shownText first
    let suffix := suffixOf (splitPath whole).2
    return .tuple [.text (whole.take (whole.length - suffix.length)), .text suffix]
  | "time.time" =>
    let clock ← (Tool.look (·.files.clock) : Tool FileTime)
    return .float (Value.floatOfInt (clock / 1000) / 1000000)
  | "time.sleep" =>
    let x ← floatOf first
    match Value.intOfFloat? (x * 1000000000) with
    | some n => (Tool.act (Action.sleep n.toNat) : Tool Unit)
    | none => pure ()
    return .nothing
  | "math.floor" => wholeNear first Float.floor
  | "math.ceil" => wholeNear first Float.ceil
  | "math.trunc" => wholeNear first id
  | "math.sqrt" =>
    let x ← floatOf first
    if x < 0 then raise "ValueError" "math domain error" else return .float x.sqrt
  | "math.log" =>
    let x ← floatOf first
    if x <= 0 then raise "ValueError" "math domain error"
    else if values.length > 1 then return .float (x.log / (← floatOf second).log)
    else return .float x.log
  | "math.log2" => numeric Float.log2
  | "math.log10" => numeric Float.log10
  | "math.pow" => return .float (Float.pow (← floatOf first) (← floatOf second))
  | "math.factorial" =>
    let n ← wholeOf first
    if n < 0 then raise "ValueError" "factorial() not defined for negative values"
    else return .int (((List.range n.toNat).foldl (fun product k => product * (k + 1)) 1 : Nat) : Int)
  | "math.gcd" =>
    let numbers ← values.mapM wholeOf
    return .int ((numbers.foldl (fun found n => Nat.gcd found n.natAbs) 0 : Nat) : Int)
  | "math.isqrt" =>
    let n ← wholeOf first
    if n < 0 then raise "ValueError" "isqrt() argument must be nonnegative"
    else return .int (squareRoot n.toNat)
  | "subprocess.run" => runCommand first named
  | "subprocess.call" | "subprocess.check_call" | "subprocess.check_output" =>
    let named := if name == "subprocess.check_output" then ("stdout", .int (-1)) :: named else named
    let named := if name == "subprocess.call" then named else ("check", .bool true) :: named
    match ← runCommand first named with
    | .object number =>
      match ← object number with
      | some (.ended _ status output _) =>
        if name == "subprocess.check_output" then return output else return .int status
      | _ => return .nothing
    | _ => return .nothing
  | "pathlib.Path" =>
    let parts ← values.mapM shownText
    let whole := parts.tail.foldl joinPaths (parts.headD ['.'])
    return .path (if whole.length > 1 && whole.getLast? == some '/' then whole.dropLast else whole)
  | "shutil.rmtree" =>
    changingFiles [first] (Utility.changing fun machine => do
      let (place, node) ← machine.files.find machine.place (Octets.toText path) false
      if node.isDirectory then return machine.files.removeTree place else .error .notDirectory)
  | "shutil.copy" | "shutil.copyfile" =>
    let octets ← withFile first "rb" (fun number file => fileMethod number file "read" []) .nothing
    let target ← pathOf second
    let isDirectory ← (Utility.isDirectoryAt target : Tool Bool)
    let base := (splitPath (← shownText first)).2
    let target : Value := if isDirectory then .text (joinPaths target.decode base) else second
    withFile target "wb"
      (fun number file => do
        let _ ← fileMethod number file "write" [octets]
        return target)
      .nothing
  | "shutil.move" =>
    let _ ← changingFiles [first, second] (renameFile path (← pathOf second))
    return second
  | "shutil.which" =>
    let directories := ((← environment).lookup "PATH".toList).getD Program.defaultPath
    match ← (Tool.look fun machine => Program.find machine directories path :
        Tool (Except FileError Octets)) with
    | .ok found => return ofOctets found
    | .error _ => return .nothing
  | "json.dumps" =>
    match exchanged? heap 1000 first with
    | some shown => text shown
    | none => raise "TypeError" s!"Object of type {← kindOf first} is not JSON serializable"
  | _ => raise "AttributeError" s!"module has no attribute '{name}'"

/-! ## Paths -/

def pathMethods : List String :=
  ["exists", "is_dir", "is_file", "iterdir", "joinpath", "mkdir", "open", "read_bytes", "read_text",
    "rename", "resolve", "rmdir", "touch", "unlink", "with_suffix", "write_bytes", "write_text"]

/-- A method of a path. -/
def pathMethod (self : List Char) (name : String) (values : List Value)
    (named : List (String × Value)) : Run Value := do
  let heap := (← get).heap
  let flag (name : String) : Bool := ((named.lookup name).map (·.isTrue heap)).getD false
  let whole : Value := .path self
  let shown : Value := .text self
  let first : Value := (values.head?).getD .nothing
  let read (mode : String) : Run Value :=
    withFile shown mode (fun number file => fileMethod number file "read" []) .nothing
  let write (mode : String) (value : Value) : Run Value :=
    withFile shown mode (fun number file => fileMethod number file "write" [value]) .nothing
  match name with
  | "exists" => moduleFunction "os.path.exists" [whole] []
  | "is_dir" => moduleFunction "os.path.isdir" [whole] []
  | "is_file" => moduleFunction "os.path.isfile" [whole] []
  | "iterdir" =>
    let names ← namesIn shown
    newList (names.map fun name => .path (joinPaths self name.toList))
  | "joinpath" =>
    let parts ← values.mapM shownText
    return .path (parts.foldl joinPaths self)
  | "mkdir" =>
    if flag "parents" then makeDirectories shown (flag "exist_ok")
    else
      let isDirectory ← (Utility.isDirectoryAt (toOctets self) : Tool Bool)
      if isDirectory && flag "exist_ok" then return .nothing
      else moduleFunction "os.mkdir" [shown] []
  | "open" => openFile shown first
  | "read_text" => read "r"
  | "read_bytes" => read "rb"
  | "write_text" => write "w" first
  | "write_bytes" => write "wb" first
  | "touch" => withFile shown "a" (fun _ _ => return .nothing) .nothing
  | "unlink" =>
    let isThere ← (Utility.isThere (toOctets self) false : Tool Bool)
    if !isThere && flag "missing_ok" then return .nothing
    else moduleFunction "os.remove" [shown] []
  | "rmdir" => moduleFunction "os.rmdir" [shown] []
  | "rename" =>
    let _ ← moduleFunction "os.rename" [shown, first] []
    return .path (← shownText first)
  | "resolve" =>
    match ← moduleFunction "os.path.abspath" [shown] [] with
    | .text t => return .path t
    | other => return other
  | "with_suffix" =>
    let suffix := suffixOf (splitPath self).2
    return .path (self.take (self.length - suffix.length) ++ (← shownText first))
  | _ => raise "AttributeError" s!"'PosixPath' object has no attribute '{name}'"

end TaskRunner.Shell.Snippet
