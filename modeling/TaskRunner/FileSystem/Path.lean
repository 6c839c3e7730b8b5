/- # TaskRunner.FileSystem.Path -- the texts of paths

A path is the names of a chain of directories, and of what is at its end, with slashes between them.
These operations look at the text alone, not at what is there.  A path that starts with a slash is
absolute; the components `.` say nothing, except as the whole beginning of a relative path. -/

namespace TaskRunner.Path
set_option autoImplicit false

/-- The texts between the slashes of a path. -/
def pieces (path : String) : List String :=
  (path.toList.splitOn '/').map String.ofList

def isAbsolute (path : String) : Bool := path.startsWith "/"

/-- Pieces, the last first, without those at the end that say nothing.  The first piece of a
relative path always counts. -/
def trimEnd (absolute : Bool) : List String → List String
  | [] => []
  | piece :: before =>
    if piece == "" || (piece == "." && (absolute || !before.isEmpty)) then trimEnd absolute before
    else piece :: before

/-- The pieces that count at the end of a path, the last first. -/
def ending (path : String) : List String :=
  let absolute := isAbsolute path
  trimEnd absolute (if absolute then (pieces path).tail.reverse else (pieces path).reverse)

/-- The path without its last component; a path that has none has no parent. -/
def parent? (path : String) : Option String :=
  let absolute := isAbsolute path
  match ending path with
  | [] => none
  | _ :: before =>
    let rest := "/".intercalate (trimEnd absolute before).reverse
    some (if absolute then "/" ++ rest else rest)

/-- The directory that a file is in, as one may write it: the dot for a bare name. -/
def directory (path : String) : String :=
  match parent? path with
  | some parent => if parent.isEmpty then "." else parent
  | none => "."

/-- A path inside a directory.  An absolute path stays as it is. -/
def join (directory path : String) : String :=
  if isAbsolute path || directory.isEmpty then path
  else if directory.endsWith "/" then directory ++ path
  else directory ++ "/" ++ path

end TaskRunner.Path
