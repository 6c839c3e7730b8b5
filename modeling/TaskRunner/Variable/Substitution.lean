import TaskRunner.Variable.Table
import TaskRunner.Variable.Token
/- # TaskRunner.Variable.Substitution -- putting values in place of references

The value of a referenced name is itself expanded before it is put in place, and what was put in
place is not read again: a dollar sign that comes out of an expansion never joins with the text
around it.

An expansion remembers the chain of names it is inside.  A name that is already on its chain, or
that would make the chain longer than `maxDepth`, is an error that shows the chain; a name without a
value is an error too.  Of several errors the leftmost is reported. -/

namespace TaskRunner.Variable
set_option autoImplicit false

/-- How many references may be nested in one another. -/
def maxDepth : Nat := 32

namespace Token

/-- One token put at the end of a text, a reference through `value`. -/
def appendExpansion (value : String → Except ConfigError String) (text : String) :
    Token → Except ConfigError String
  | char c => .ok (text.push c)
  | dollar => .ok (text.push '$')
  | reference _ name => (value name).map (text ++ ·)

/-- The text of tokens whose references have the values that `value` gives. -/
def expandAll (value : String → Except ConfigError String) (tokens : List Token) :
    Except ConfigError String :=
  tokens.foldlM (appendExpansion value) ""

end Token

namespace Table

/-- Expands a text inside the references of `chain`, with `budget` more of them allowed. -/
def expand (table : Table) (budget : Nat) (chain : List String) (text : String) :
    Except ConfigError String :=
  Token.expandAll
    (fun name =>
      if name ∈ chain then .error (.substitutionCycle (chain ++ [name]))
      else
        match budget with
        | 0 => .error (.substitutionCycle (chain ++ [name]))
        | budget + 1 =>
          match table.resolve name with
          | .ok value => table.expand budget (chain ++ [name]) value.render
          | .error e => .error e)
    (Token.scan text.toList)

/-- A text with every reference replaced. -/
def substitute (table : Table) (text : String) : Except ConfigError String :=
  table.expand maxDepth [] text

/-- Several texts with every reference replaced; the first failure wins. -/
def substituteAll (table : Table) (texts : List String) : Except ConfigError (List String) :=
  texts.mapM table.substitute

end Table
end TaskRunner.Variable
