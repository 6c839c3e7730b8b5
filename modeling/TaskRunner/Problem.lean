import TaskRunner.Error
import TaskRunner.FileSystem.Error
/- # TaskRunner.Problem -- why the program gives up

Besides mistakes of the configuration and of a request, files may be missing, unreadable or
malformed.  A `Problem` names the cause with the path that it concerns; no report comes with it. -/

namespace TaskRunner
set_option autoImplicit false

/-- The file names that are tried where no Runfile is named, in this order. -/
def runfileNames : List String := ["Runfile.yml", "Runfile.yaml", ".runfile.yml"]

/-- Why the program gives up. -/
inductive Problem where
  | config (error : ConfigError)
  /-- A directory has no Runfile. -/
  | noRunfile (directory : String)
  /-- A Runfile, in a file or not, does not have the shape of one. -/
  | malformedRunfile (path : Option String)
  | unreadable (path : String) (cause : FileError)
  /-- Nothing was recorded in a directory. -/
  | noRecord (directory : String)
  /-- The latest record does not have the shape of one. -/
  | malformedRecord (path : String)
  | notCreated (path : String) (cause : FileError)
  | notWritten (path : String) (cause : FileError)
  /-- The latest record cannot be read or written. -/
  | latestRecord (cause : FileError)
  deriving DecidableEq, Repr

namespace Problem

/-- The problem in words. -/
def message : Problem → String
  | config error => error.message
  | noRunfile directory =>
    s!"no Runfile found in {directory}; expected one of: " ++ ", ".intercalate runfileNames
  | malformedRunfile none => "invalid Runfile"
  | malformedRunfile (some path) => s!"in {path}: invalid Runfile"
  | unreadable path cause => s!"failed to read {path}: {cause.message}"
  | noRecord directory => s!"no recorded runs under {directory}"
  | malformedRecord path => s!"corrupt run record {path}"
  | notCreated path cause => s!"failed to create {path}: {cause.message}"
  | notWritten path cause => s!"failed to write {path}: {cause.message}"
  | latestRecord cause => cause.message

/-- What is wrong with the text of a file, where the problem is one of its text. -/
def detail? : Problem → Option String
  | malformedRunfile _ => some "not the text of a Runfile"
  | malformedRecord _ => some "not the text of a record"
  | _ => none

end Problem
end TaskRunner
