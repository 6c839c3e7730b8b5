import TaskRunner.CommandLine.Invocation
/- # TaskRunner.Main -- the program

The program takes a picture of the directory that it is called in, calls itself on that picture, and
then does to the directory what was done to the picture.  Everything it decides is decided by
`CommandLine.invoke`; what is here only looks and acts. -/

namespace TaskRunner.Main
set_option autoImplicit false

/-- How deep directories are looked into. -/
def maxDepth : Nat := 64

/-- A time in nanoseconds. -/
def fileTime (time : IO.FS.SystemTime) : FileTime := time.sec * 1000000000 + time.nsec.toNat

/-- Adds the entries of a directory, and all below them, to a picture. -/
def look (depth : Nat) (entries : Array IO.FS.DirEntry) (place : Location) (files : FileSystem) :
    IO FileSystem := do
  match depth with
  | 0 => return files
  | depth + 1 =>
    let mut files := files
    for entry in entries do
      let there := place ++ [entry.fileName]
      let metadata ← entry.path.metadata
      match metadata.type with
      | .dir =>
        files := files.put there (.directory (fileTime metadata.modified))
        files ← look depth (← entry.path.readDir) there files
      | .file =>
        let content ← IO.FS.readBinFile entry.path
        files := files.put there (.file content (fileTime metadata.modified))
      | _ => pure ()
    return files

/-- The present time: that of a file which is made for it. -/
def now : IO FileTime := do
  let (_, path) ← IO.FS.createTempFile
  let metadata ← path.metadata
  IO.FS.removeFile path
  return fileTime metadata.modified

/-- The path of a location. -/
def pathOf (place : Location) : String := "/" ++ "/".intercalate place

/-- Whether two nodes hold the same. -/
def sameContent (before after : Node) : Bool :=
  match before.content, after.content with
  | .file a, .file b => a == b
  | .directory, .directory => true
  | _, _ => false

/-- Does to a directory what was done to its picture. -/
def act (before after : FileSystem) (place : Location) : IO Unit := do
  let inside (other : Location) : Bool := place.isPrefixOf other && other != place
  let gone := before.toList.filter fun (other, _) => inside other && (after.node? other).isNone
  for (other, node) in gone.mergeSort fun a b => b.1.length ≤ a.1.length do
    if node.isDirectory then IO.FS.removeDirAll (pathOf other)
    else if node.isFile then IO.FS.removeFile (pathOf other)
  let new := after.toList.filter fun (other, node) =>
    inside other && !((before.node? other).any (sameContent · node))
  for (other, node) in new.mergeSort fun a b => a.1.length ≤ b.1.length do
    match node.content with
    | .directory => IO.FS.createDirAll (pathOf other)
    | .file content => IO.FS.writeBinFile (pathOf other) content
    | .link _ | .device _ => pure ()

end TaskRunner.Main

open TaskRunner in
/-- Calls the program in the current directory. -/
def main (arguments : List String) : IO UInt32 := do
  let path ← IO.currentDir
  let place := (Path.pieces path.toString).filter (!·.isEmpty)
  let empty := Shell.Interpreter.install (.empty 0)
  let files := (empty.makeDirectories [] path.toString).toOption.getD empty
  let files ← Main.look Main.maxDepth (← path.readDir) place files
  let files := { files with clock := ← Main.now }
  let (status, site) := CommandLine.invoke arguments { machine := { files } } place
  let machine := site.machine
  Main.act files machine.files place
  (← IO.getStdout).write (Shell.Octets.toBytes machine.output.reverse)
  (← IO.getStderr).write (Shell.Octets.toBytes machine.errors.reverse)
  return UInt32.ofNat status
