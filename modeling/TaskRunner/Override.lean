import TaskRunner.Error
/- # TaskRunner.Override -- `NAME=VALUE` arguments

An override gives a variable a text on the command line.  The first equals sign ends the name; what
follows it, further equals signs included, is the value.  The name begins with a letter or an
underscore and has only letters, digits and underscores, all of them ASCII. -/

namespace TaskRunner
set_option autoImplicit false

/-- A variable given a text on the command line. -/
structure Override where
  name : String
  value : String
  deriving DecidableEq, Repr

namespace Override

/-- Whether a text may stand before the equals sign. -/
def isKey (text : List Char) : Bool :=
  text.head?.any (fun c => c.isAlpha || c == '_') &&
    text.all fun c => c.isAlphanum || c == '_'

/-- Reads `NAME=VALUE`. -/
def parse (argument : String) : Except ConfigError Override :=
  let chars := argument.toList
  let name := chars.takeWhile (· != '=')
  match chars.dropWhile (· != '=') with
  | [] => .error (.invalidOverride argument)
  | _ :: value =>
    if isKey name then .ok ⟨String.ofList name, String.ofList value⟩
    else .error (.invalidOverride argument)

end Override
end TaskRunner
