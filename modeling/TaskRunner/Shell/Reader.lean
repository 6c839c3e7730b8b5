import TaskRunner.Shell.Reader.Command
/- # TaskRunner.Shell.Reader -- reading scripts

A script is read line by line, as it is carried out: what stands before the line of a mistake has
been done when the mistake is found, and a line may change how the next one is read. -/

namespace TaskRunner.Shell
set_option autoImplicit false

/-- The grammar for texts that are nested so deep at most. -/
def Grammar.ofDepth : Nat → Grammar
  | 0 => .empty
  | depth + 1 => {
    parts := fun context source => Reader.parts (ofDepth depth) context source
    commands := fun mayBeEmpty source => Reader.commands (ofDepth depth) mayBeEmpty source
    command := fun source => Reader.command (ofDepth depth) source
    condition := fun source => Reader.condition (ofDepth depth) source
    test := fun source => Reader.test (ofDepth depth) source }

namespace Source

/-- The commands of the next line that has any, and the source behind it; nothing at the end. -/
def nextLine? (source : Source) : Except Mistake (Option (Command × Source)) :=
  let source := source.lines
  if source.rest.isEmpty then .ok none
  else
    match Reader.lineItems (.ofDepth (source.rest.length + 2)) (source.rest.length + 2) [] source with
    | .error mistake => .error mistake
    | .ok ([one], after) => .ok (some (one, after))
    | .ok (found, after) => .ok (some (.sequence found, after))

end Source

/-- The parts of a text that is read like the lines of a document. -/
def Word.ofDocument (dialect : Dialect) (text : Octets) : Except Mistake Word :=
  match (Grammar.ofDepth (text.length + 2)).parts .document { rest := text, dialect } with
  | .ok (parts, _) => .ok parts
  | .error mistake => .error mistake

namespace Token

/-- A token in the words of a message. -/
def describe : Token → String
  | nothing => "end of file"
  | newline => "newline"
  | redirection _ => "redirection"
  | word _ => "word"
  | sign text => s!"\"{text.toText}\""

/-- The token as it is written. -/
def written : Token → String
  | nothing => "end of file"
  | newline => "newline"
  | redirection text | word text | sign text => text.toText

end Token

namespace Fault

/-- A fault in the words of the plain dialect. -/
def message : Fault → String
  | unexpected token expected =>
    let expected := if expected.isEmpty then "" else s!" (expecting {expected})"
    s!"{token.describe} unexpected{expected}"
  | openQuote _ => "Unterminated quoted string"
  | openBackquote => "EOF in backquote substitution"
  | openBracket sign => s!"Missing '{sign}'"
  | loopVariable _ => "Bad for loop variable"
  | functionName _ => "Bad function name"

/-- A fault in the words of the extended dialect. -/
def extendedMessage : Fault → String
  | unexpected .nothing _ => "syntax error: unexpected end of file"
  | unexpected token _ => s!"syntax error near unexpected token \x60{token.written}'"
  | openQuote sign => s!"unexpected EOF while looking for matching \x60{sign}'"
  | openBackquote => "unexpected EOF while looking for matching \x60\x60'"
  | openBracket "))" => "unexpected EOF while looking for matching \x60)'"
  | openBracket sign => s!"unexpected EOF while looking for matching \x60{sign}'"
  | loopVariable name => s!"\x60{name.toText}': not a valid identifier"
  | functionName name => s!"\x60{name.toText}': not a valid identifier"

end Fault
end TaskRunner.Shell
