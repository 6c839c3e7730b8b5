import TaskRunner.Shell.Octets
/- # TaskRunner.Shell.Syntax -- commands and words

The grammar of the command language.  A word is a list of parts, each of them quoted or not: what is
not quoted is split at blanks after its expansion, and may be a pattern for the names of files.

There are two dialects.  The extended one has all of the plain one, and arrays, conditions in double
brackets, calculations as commands, and more operations on parameters besides. -/

namespace TaskRunner.Shell
set_option autoImplicit false

/-- Which command language is meant. -/
inductive Dialect where
  | plain
  | extended
  deriving DecidableEq, Repr, Inhabited

/-- An operator that redirects a stream. -/
inductive RedirectKind where
  | input
  | output
  /-- Output to a file even where files are not to be overwritten. -/
  | overwrite
  | append
  | both
  /-- The stream of another number, or none; the flag says whether it is an input. -/
  | copy (reads : Bool)
  /-- The lines that follow the command. -/
  | document
  /-- The word itself. -/
  | text
  /-- Output and errors together; the flag says whether the file keeps what it has. -/
  | all (keep : Bool)
  deriving DecidableEq, Repr, Inhabited

/-- Where matches are replaced in a value. -/
inductive ReplacePlace where
  | first | every | start | finish
  deriving DecidableEq, Repr, Inhabited

/-- How a branch goes on when its commands are carried out. -/
inductive BranchEnd where
  | leave
  /-- With the commands of the next branch. -/
  | continue
  /-- With the patterns of the next branch. -/
  | test
  deriving DecidableEq, Repr, Inhabited

mutual

/-- A part of a word. -/
inductive Part where
  | text (quoted : Bool) (octets : Octets)
  | parameter (quoted : Bool) (subject : Subject) (operation : Operation)
  | command (quoted : Bool) (body : Command)
  | arithmetic (quoted : Bool) (expression : List Part)
  /-- The path of a pipe to a command, which reads from it or writes to it. -/
  | process (reads : Bool) (body : Command)
  /-- Something that is no parameter although it is written like one. -/
  | malformed

/-- What an operation on a parameter is about: a name, the name that its value is if `indirect`, and
an index if there is one. -/
inductive Subject where
  | mk (name : Octets) (indirect : Bool) (index : List Part)

/-- What is done with the value of a parameter. -/
inductive Operation where
  | plain
  | length
  /-- Another word where the parameter is unset, or also where it is empty. -/
  | default (alsoEmpty : Bool) (word : List Part)
  /-- The same, and the parameter gets the value of the word. -/
  | assign (alsoEmpty : Bool) (word : List Part)
  /-- An error with the word as its message where the parameter is unset. -/
  | demand (alsoEmpty : Bool) (word : List Part)
  /-- The word where the parameter is set. -/
  | alternative (alsoEmpty : Bool) (word : List Part)
  /-- The value without the shortest or the longest start or end that matches a pattern. -/
  | drop (fromEnd longest : Bool) (pattern : List Part)
  /-- The part of a value from a place on, up to a length if there is one. -/
  | slice (offset : List Part) (bounded : Bool) (length : List Part)
  | replace (place : ReplacePlace) (pattern replacement : List Part)
  /-- Letters in the other case: the first one or all of them. -/
  | recase (upper every : Bool) (pattern : List Part)
  | transform (letter : Char)
  /-- The indices of an array. -/
  | keys
  /-- The names that start with the name. -/
  | names

/-- A stream of a command that is redirected; where a holder is named, that variable gets the number. -/
inductive Redirect where
  | mk (stream : Nat) (holder : Octets) (kind : RedirectKind) (target : List Part)

/-- An element of an array that is assigned, with its index if it has one. -/
inductive Element where
  | mk (index : List Part) (value : List Part)

/-- An assignment: of a word, or of elements if it is for an array. -/
inductive Assignment where
  | mk (name : Octets) (index : List Part) (appends : Bool) (value : List Part)
      (isArray : Bool) (elements : List Element)

/-- A condition in double brackets. -/
inductive Test where
  | word (word : List Part)
  | unary (operator : Octets) (word : List Part)
  | binary (operator : Octets) (left right : List Part)
  | not (test : Test)
  | and (first second : Test)
  | or (first second : Test)

/-- A branch of a choice by patterns. -/
inductive Branch where
  | mk (patterns : List (List Part)) (body : Command) (finish : BranchEnd)

/-- A command. -/
inductive Command where
  /-- Assignments, then words; the number is that of its line.  The last assignments are of arrays
  that the words declare. -/
  | simple (line : Nat) (assignments : List Assignment) (words : List (List Part))
      (redirects : List Redirect) (declared : List Assignment)
  | pipeline (negated : Bool) (stages : List Command)
  | both (first second : Command)
  | either (first second : Command)
  | sequence (commands : List Command)
  | background (body : Command)
  | subshell (body : Command)
  | redirected (line : Nat) (body : Command) (redirects : List Redirect)
  | choice (condition yes no : Command)
  /-- Repeats the body while the condition comes out as wanted. -/
  | repeated (wanted : Bool) (condition body : Command)
  /-- Repeats the body for each of the words, or for each argument where none are given. -/
  | each (line : Nat) (name : Octets) (given : Bool) (words : List (List Part)) (body : Command)
  /-- Repeats the body while a calculation comes out as something else than zero. -/
  | counted (line : Nat) (start condition step : List Part) (body : Command)
  | cases (line : Nat) (word : List Part) (branches : List Branch)
  | function (name : Octets) (body : Command)
  | calculation (line : Nat) (expression : List Part)
  | test (line : Nat) (test : Test)
  | timed (body : Command)

end

instance : Inhabited Part := ⟨.text false []⟩
instance : Inhabited Operation := ⟨.plain⟩
instance : Inhabited Command := ⟨.sequence []⟩
instance : Inhabited Redirect := ⟨.mk 0 [] .input []⟩
instance : Inhabited Test := ⟨.word []⟩

/-- A word. -/
abbrev Word := List Part

/-- A word that is written without quotes. -/
def Word.ofOctets (octets : Octets) : Word := [.text false octets]

/-- A character that may start a name. -/
def isNameStart (c : Char) : Bool := c.isAlpha || c == '_'

/-- A character of a name. -/
def isNameChar (c : Char) : Bool := c.isAlphanum || c == '_'

def isName : Octets → Bool
  | [] => false
  | c :: rest => isNameStart c && rest.all isNameChar

end TaskRunner.Shell
