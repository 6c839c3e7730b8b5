/- # TaskRunner.FileSystem.Error -- why an operation on files fails

Most causes are conditions that the operating system names and numbers; two more concern texts. -/

namespace TaskRunner
set_option autoImplicit false

/-- Why an operation on files fails. -/
inductive FileError where
  | notPermitted
  | notFound
  | argumentsTooLong
  | badFormat
  | badDescriptor
  | denied
  | alreadyThere
  | notDirectory
  | isDirectory
  | invalid
  | noSpace
  | brokenPipe
  | nameTooLong
  | notEmpty
  | tooManyLinks
  /-- A path holds a null character. -/
  | nullInPath
  /-- An argument of a program holds a null character. -/
  | nullInArgument
  /-- What should be a text is not encoded as one. -/
  | notText
  deriving DecidableEq, Repr, Inhabited

namespace FileError

/-- The system's number for a cause and its wording. -/
def condition? : FileError → Option (Nat × String)
  | notPermitted => some (1, "Operation not permitted")
  | notFound => some (2, "No such file or directory")
  | argumentsTooLong => some (7, "Argument list too long")
  | badFormat => some (8, "Exec format error")
  | badDescriptor => some (9, "Bad file descriptor")
  | denied => some (13, "Permission denied")
  | alreadyThere => some (17, "File exists")
  | notDirectory => some (20, "Not a directory")
  | isDirectory => some (21, "Is a directory")
  | invalid => some (22, "Invalid argument")
  | noSpace => some (28, "No space left on device")
  | brokenPipe => some (32, "Broken pipe")
  | nameTooLong => some (36, "File name too long")
  | notEmpty => some (39, "Directory not empty")
  | tooManyLinks => some (40, "Too many levels of symbolic links")
  | nullInPath | nullInArgument | notText => none

/-- The wording of a cause. -/
def wording (cause : FileError) : String :=
  match cause with
  | nullInPath => "file name contained an unexpected NUL byte"
  | nullInArgument => "nul byte found in provided data"
  | notText => "stream did not contain valid UTF-8"
  | cause => (cause.condition?.map (·.2)).getD ""

/-- The cause in words, with its number where it has one. -/
def message (cause : FileError) : String :=
  match cause.condition? with
  | some (number, text) => s!"{text} (os error {number})"
  | none => cause.wording

end FileError
end TaskRunner
