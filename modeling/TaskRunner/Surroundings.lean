import TaskRunner.Execution.Host
import TaskRunner.FileSystem
import TaskRunner.Timestamp
/- # TaskRunner.Surroundings -- where the program is called

A call of the program reads files, runs commands and says what came of it.  `Surroundings` are a host
of runs with all that besides, and what the program does is defined for all surroundings.  A
`Workplace` is one kind of them. -/

namespace TaskRunner
set_option autoImplicit false

/-- What a call of the program needs from where it is made. -/
structure Surroundings (World : Type) extends Host World where
  files : World → FileSystem
  setFiles : FileSystem → World → World
  /-- The directory that relative paths start from. -/
  directory : World → Location
  /-- Gets ready to run the commands of a project, in its directory and through its shell. -/
  enter : (root : String) → (shell : List String) → World → World
  /-- The present time. -/
  now : World → Timestamp
  /-- Prints a text. -/
  say : String → World → World
  /-- Writes a text to the errors. -/
  warn : String → World → World

end TaskRunner
