import Std.Data.HashMap
import TaskRunner.Shell.Syntax
/- # TaskRunner.Shell.Reader.Source -- what is left of a script

A reader takes a source to what it reads and to the source behind it, or to a mistake where the text
does not follow the grammar.  The lines of a document that belongs to a command are taken out of the
source when the command is read; a placeholder is left for each of them, so that lines can still be
counted. -/

namespace TaskRunner.Shell
set_option autoImplicit false

/-- What is left of a script, and the number of its line. -/
structure Source where
  rest : Octets
  line : Nat := 1
  dialect : Dialect := .plain
  /-- Texts for which names stand at the start of a command. -/
  aliases : Std.HashMap Octets Octets := {}
  /-- The names whose texts are being read, with how much is left behind them. -/
  guards : List (Octets × Nat) := []
  deriving Inhabited

/-- What comes next in a source, as far as a mistake is concerned. -/
inductive Token where
  | nothing
  | newline
  | redirection (text : Octets)
  | word (text : Octets)
  /-- An operator or a reserved word. -/
  | sign (text : Octets)
  deriving Repr, Inhabited

/-- What is wrong with a script. -/
inductive Fault where
  /-- Something stands where it cannot; a text says what should, if only one thing can. -/
  | unexpected (token : Token) (expected : String)
  /-- A quote is not closed. -/
  | openQuote (sign : Char)
  | openBackquote
  /-- A bracket is not closed. -/
  | openBracket (sign : String)
  | loopVariable (name : Octets)
  | functionName (name : Octets)
  deriving Repr, Inhabited

/-- A fault and the line that it is found on. -/
structure Mistake where
  line : Nat
  fault : Fault
  deriving Repr, Inhabited

/-- A reader. -/
abbrev Read := StateT Source (Except Mistake)

namespace Source

/-- Stands for a line that was taken out of a source. -/
def placeholder : Char := '\u2424'

def next? (source : Source) : Option Char := source.rest.head?

/-- Passes over some characters. -/
def skip (source : Source) (n : Nat := 1) : Source :=
  let isLine (c : Char) : Bool := c == '\n' || c == placeholder
  { source with
    rest := source.rest.drop n, line := source.line + (source.rest.take n).countP isLine }

/-- Whether a text comes next. -/
def startsWith (source : Source) (text : String) : Bool := text.toList.isPrefixOf source.rest

/-- Passes over blanks, continued lines and a comment. -/
def skipBlanks (fuel : Nat) (source : Source) : Source :=
  match fuel, source.rest with
  | fuel + 1, '\\' :: '\n' :: _ => skipBlanks fuel (source.skip 2)
  | fuel + 1, c :: _ =>
    if c == ' ' || c == '\t' || c == placeholder then skipBlanks fuel source.skip
    else if c == '#' then source.skip (source.rest.takeWhile (· != '\n')).length
    else source
  | _, _ => source

def blanks (source : Source) : Source := source.skipBlanks (source.rest.length + 1)

/-- Passes over blanks, comments and line feeds. -/
def skipLines (fuel : Nat) (source : Source) : Source :=
  match fuel with
  | 0 => source
  | fuel + 1 =>
    let source := source.blanks
    if source.next? == some '\n' then skipLines fuel source.skip else source

def lines (source : Source) : Source := source.skipLines (source.rest.length + 1)

/-- A character that ends a word. -/
def endsWord (c : Char) : Bool := " \t\n;&|<>()".toList.contains c || c == placeholder

/-- The characters up to the end of a word, as they are written. -/
def peekWord (source : Source) : Octets := source.rest.takeWhile (!endsWord ·)

/-- The words that have a meaning of their own at the start of a command. -/
def reserved : List String := ["!", "case", "do", "done", "elif", "else", "esac", "fi", "for", "if",
  "in", "then", "until", "while", "\x7b", "\x7d"]

/-- The words that end a list of commands. -/
def closers : List String := ["then", "else", "elif", "fi", "do", "done", "esac", "\x7d"]

/-- The operators, of two that start alike the longer first. -/
def operators : List String := [";;", "&&", "||", ";", "&", "|", "(", ")"]

/-- What comes next. -/
def token (source : Source) : Token :=
  let source := source.blanks
  match source.rest with
  | [] => .nothing
  | c :: _ =>
    if c == '\n' then .newline
    else if c == '<' || c == '>' then
      .redirection (source.rest.takeWhile fun c => c == '<' || c == '>' || c == '&')
    else
      match operators.find? source.startsWith with
      | some operator => .sign operator.toList
      | none =>
        let word := source.peekWord
        if reserved.any (·.toList == word) then .sign word else .word word

/-- Whether a list of commands ends here. -/
def atListEnd (source : Source) : Bool :=
  source.rest.isEmpty || source.next? == some ')' || source.startsWith ";;" ||
    (source.dialect == .extended && source.startsWith ";&") ||
    closers.any (·.toList == source.peekWord)

end Source

namespace Read

/-- Stops reading with a fault. -/
def fault {α : Type} (fault : Fault) : Read α := do throw ⟨(← get).line, fault⟩

/-- Stops reading at what comes next. -/
def unexpected {α : Type} (expected : String := "") : Read α := do
  fault (.unexpected (← get).token expected)

def skip (n : Nat := 1) : Read Unit := modify (·.skip n)

def blanks : Read Unit := modify Source.blanks

def lines : Read Unit := modify Source.lines

/-- How often a loop goes on that passes over something each time. -/
def size : Read Nat := do return (← get).rest.length + 2

/-- Takes the characters of a class. -/
def takeWhile (inside : Char → Bool) : Read Octets := do
  let run := (← get).rest.takeWhile inside
  skip run.length
  return run

/-- Passes over a text, if it comes next. -/
def accept (text : String) : Read Bool := do
  if (← get).startsWith text then
    skip text.length
    return true
  else return false

/-- Passes over a reserved word, if it comes next. -/
def acceptWord (word : String) : Read Bool := do
  if (← get).peekWord == word.toList then
    skip word.length
    return true
  else return false

/-- Passes over an operator that must come next. -/
def expect (text : String) : Read Unit := do
  blanks
  if !(← accept text) then unexpected s!"\"{text}\""

/-- Passes over a reserved word that must come next. -/
def expectWord (word : String) : Read Unit := do
  if !(← acceptWord word) then unexpected s!"\"{word}\""

/-- Whether the extended dialect is read. -/
def isExtended : Read Bool := do return (← get).dialect == .extended

end Read

/-- What a double quote does. -/
inductive QuoteRule where
  /-- It begins what is quoted. -/
  | begins
  | plain
  /-- It is passed over. -/
  | dropped
  deriving DecidableEq

/-- How parts are read, and where they end. -/
structure Context where
  /-- Whether what has no quotes counts as quoted. -/
  quoted : Bool := false
  /-- Whether parts end at a character outside of all brackets. -/
  ends : Char → Bool
  /-- What is wrong if the text ends; nothing if it may. -/
  missing : Option Fault := none
  doubleQuotes : QuoteRule := .begins
  /-- Whether single quotes quote. -/
  singleQuotes : Bool := true
  /-- Whether a backslash quotes a character. -/
  escapes : Char → Bool := fun _ => true
  /-- The brackets that are counted. -/
  brackets : Option (Char × Char) := none

namespace Context

/-- What a backslash quotes inside of double quotes. -/
def escapesInQuotes (c : Char) : Bool := "$\x60\"\\".toList.contains c

/-- A word. -/
def word : Context := { ends := Source.endsWord }

/-- What stands in double quotes. -/
def quotes : Context where
  quoted := true
  ends := (· == '"')
  missing := some (.openQuote '"')
  singleQuotes := false
  escapes := escapesInQuotes

/-- What stands behind an operator on a parameter, up to some characters.  In a parameter that is
quoted a pattern is read as if it were not. -/
def braces (quoted pattern : Bool) (ends : List Char) : Context where
  quoted := quoted && !pattern
  ends := ends.contains
  missing := some (.openBracket "\x7d")
  singleQuotes := !quoted || pattern
  escapes c := !quoted || pattern || escapesInQuotes c || c == '\x7d'

/-- A calculation up to its end, or up to other characters. -/
def calculation (dialect : Dialect) (ends : List Char) (missing : String) : Context where
  quoted := true
  ends := ends.contains
  missing := some (.openBracket missing)
  doubleQuotes := if dialect == .extended then .dropped else .plain
  singleQuotes := false
  escapes := escapesInQuotes
  brackets := some ('(', ')')

/-- The lines of a document. -/
def document : Context where
  quoted := true
  ends := fun _ => false
  doubleQuotes := .plain
  singleQuotes := false
  escapes c := escapesInQuotes c && c != '"'

/-- The index of an element. -/
def index : Context where
  quoted := true
  ends := (· == ']')
  missing := some (.openBracket "]")
  doubleQuotes := .dropped
  brackets := some ('[', ']')

/-- An expression in double brackets, in which round brackets are no operators. -/
def expression : Context where
  ends c := Source.endsWord c && c != '|' && c != '<' && c != '>'
  brackets := some ('(', ')')

end Context

/-- The readers that others use for what is nested in what they read. -/
structure Grammar where
  parts : Context → Read (List Part)
  /-- Commands up to the end of a list. -/
  commands : (mayBeEmpty : Bool) → Read Command
  /-- A command, simple or not. -/
  command : Read Command
  /-- A branch of an `if`, from its condition on. -/
  condition : Read Command
  /-- Conditions in double brackets, joined. -/
  test : Read Test

namespace Grammar

/-- A grammar in which nothing can be read. -/
def empty : Grammar where
  parts _ := Read.unexpected
  commands _ := Read.unexpected
  command := Read.unexpected
  condition := Read.unexpected
  test := Read.unexpected

end Grammar
end TaskRunner.Shell
