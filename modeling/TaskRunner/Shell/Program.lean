import TaskRunner.Shell.Runner
/- # TaskRunner.Shell.Program -- which program a name stands for

A name with a slash in it is the path of a program; any other name is looked up in the directories
that a variable lists.  A file is a program if it may be executed and either holds one of the
programs of the machine or says in its first line which program reads it. -/

namespace TaskRunner.Shell
set_option autoImplicit false

/-- What the content of an executable file is. -/
inductive Image where
  /-- A program of the machine. -/
  | program (name : String)
  /-- A text for another program, which may get an argument besides. -/
  | script (reader : Octets) (argument : Option Octets)
  /-- A text that does not say what reads it. -/
  | text
  | other

namespace Image

/-- What the files of the machine's own programs start with. -/
def mark : Octets := '\x7f' :: "ELF".toList

/-- The content of the file of a program. -/
def ofProgram (name : String) : ByteArray := Octets.toBytes (mark ++ Octets.ofText name)

def isBlank (c : Char) : Bool := c == ' ' || c == '\t'

/-- How much of a file is looked at to find out what it is. -/
def maxSize : Nat := 256

def ofBytes (bytes : ByteArray) : Image :=
  let start := Octets.ofBytes (bytes.extract 0 maxSize)
  if mark.isPrefixOf start then .program (Octets.toText (start.drop mark.length))
  else
    match start with
    | '#' :: '!' :: rest =>
      let line := (rest.takeWhile (· != '\n')).dropWhile isBlank
      let line := (line.reverse.dropWhile isBlank).reverse
      let name := line.takeWhile (!isBlank ·)
      let argument := (line.drop name.length).dropWhile isBlank
      .script name (if argument.isEmpty then none else some argument)
    | _ =>
      let line := start.takeWhile (· != '\n')
      if line.contains '\x00' then .other else .text

end Image

namespace Program

/-- The content of the file of a program, if it may be executed. -/
def content (machine : Machine) (path : Octets) : Except FileError ByteArray := do
  let (_, node) ← machine.files.find machine.place path.toText
  match node.content with
  | .file bytes => if node.isExecutable then return bytes else .error .denied
  | _ => .error .denied

/-- The directories that are looked into if no variable lists any. -/
def defaultPath : Octets :=
  "/usr/local/sbin:/usr/local/bin:/usr/sbin:/usr/bin:/sbin:/bin".toList

/-- The paths under which a name is looked up. -/
def candidates (directories name : Octets) : List Octets :=
  (Octets.splitAt ':' directories).map fun directory =>
    if directory.isEmpty then name
    else if directory.getLast? == some '/' then directory ++ name
    else directory ++ '/' :: name

/-- The first of some paths at which there is a program; else why there is none. -/
def firstOf (machine : Machine) (cause : FileError) : List Octets → Except FileError Octets
  | [] => .error cause
  | path :: rest =>
    match content machine path with
    | .ok _ => .ok path
    | .error .notFound | .error .notDirectory => firstOf machine cause rest
    | .error other => firstOf machine other rest

/-- The path of the program that a name stands for. -/
def find (machine : Machine) (directories name : Octets) : Except FileError Octets :=
  if name.contains '/' then .ok name
  else firstOf machine .notFound (candidates directories name)

/-- The value of a variable among those that a program sees. -/
def setting? (environment : List (Octets × Octets)) (name : String) : Option Octets :=
  environment.lookup name.toList

/-- Becomes the program of a name, as any program may start another: a text that does not say what
reads it is read by a shell. -/
def become (execute : Execute) (environment : List (Octets × Octets)) (name : Octets)
    (arguments : List Octets) : Action (Except FileError Ending) := do
  let directories := (setting? environment "PATH").getD defaultPath
  if name.isEmpty then return .error .notFound
  else
    match ← Action.look fun machine => find machine directories name with
    | .error cause => return .error cause
    | .ok path =>
      match ← execute { path, name, arguments, environment } with
      | .error .badFormat =>
        let shell := "/bin/sh".toList
        execute { path := shell, name := shell, arguments := path :: arguments, environment }
      | result => return result

end Program
end TaskRunner.Shell
