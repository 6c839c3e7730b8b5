import TaskRunner.FileSystem
import TaskRunner.Problem
import TaskRunner.Session.Encoding
/- # TaskRunner.Session.Storage -- keeping sessions in files

A session is kept in a directory below the root of its project, in a file that is named after it.
The same text goes into a second file, whose name is always the same, so that the latest session can
be found. -/

namespace TaskRunner.Session
set_option autoImplicit false

/-- The directory of records below the root of a project. -/
def recordsPath : String := ".runfile/runs"

/-- The name of the file with the latest session. -/
def latestName : String := "latest.json"

/-- The path of the records of a project. -/
def recordsOf (root : String) : String := Path.join root recordsPath

/-- Keeps a session, and gives the path of its file.  What was done before something fails stays
done. -/
def save (session : Session) (files : FileSystem) (directory : Location) (root : String) :
    Except Problem String × FileSystem :=
  let records := recordsOf root
  let path := Path.join records (session.id ++ ".json")
  let text := session.encode
  match files.makeDirectories directory records with
  | .error cause => (.error (.notCreated records cause), files)
  | .ok files =>
    match files.writeText directory path text with
    | .error cause => (.error (.notWritten path cause), files)
    | .ok files =>
      match files.writeText directory (Path.join records latestName) text with
      | .error cause => (.error (.latestRecord cause), files)
      | .ok files => (.ok path, files)

/-- The session that was kept last. -/
def loadLatest (files : FileSystem) (directory : Location) (root : String) :
    Except Problem Session := do
  let path := Path.join (recordsOf root) latestName
  if !files.doesExist directory path then .error (.noRecord (recordsOf root))
  else
    let text ← (files.readText directory path).mapError .latestRecord
    match decode? text with
    | some session => return session
    | none => .error (.malformedRecord path)

end TaskRunner.Session
