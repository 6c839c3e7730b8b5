import TaskRunner.Shell.Octets
/- # TaskRunner.Shell.Snippet.Syntax -- snippets of a general language

A snippet is a row of statements.  Statements that belong together are indented, and what they are
written with are formulas, most of which have a value. -/

namespace TaskRunner.Shell.Snippet
set_option autoImplicit false

inductive Operator where
  | add | subtract | multiply | divide | floorDivide | remainder | power
  | shiftLeft | shiftRight | bitAnd | bitOr | bitXor
  deriving DecidableEq, Repr

/-- An operator as it is written. -/
def Operator.sign : Operator → String
  | add => "+"
  | subtract => "-"
  | multiply => "*"
  | divide => "/"
  | floorDivide => "//"
  | remainder => "%"
  | power => "** or pow()"
  | shiftLeft => "<<"
  | shiftRight => ">>"
  | bitAnd => "&"
  | bitOr => "|"
  | bitXor => "^"

inductive Relation where
  | less | atMost | equal | different | atLeast | greater
  | member (negated : Bool)
  | same (negated : Bool)
  deriving DecidableEq, Repr

/-- A relation of size as it is written. -/
def Relation.sign : Relation → String
  | less => "<"
  | atMost => "<="
  | equal => "=="
  | different => "!="
  | atLeast => ">="
  | greater => ">"
  | member _ => "in"
  | same _ => "is"

inductive Sign where
  | not | negative | positive | invert
  deriving DecidableEq, Repr

/-- What a row of values is collected in. -/
inductive Collection where
  | list | set | dict | generator
  deriving DecidableEq, Repr

/-- What a parameter takes. -/
inductive ParameterKind where
  | single | rest | named
  deriving DecidableEq, Repr

mutual

inductive Formula where
  | nothing
  | ellipsis
  | bool (value : Bool)
  | int (value : Int)
  | float (value : Float)
  | text (text : List Char)
  | bytes (octets : Octets)
  | formatted (pieces : List Piece)
  | name (name : String)
  | row (kind : Collection) (items : List Formula)
  | tuple (items : List Formula)
  /-- Keys and values; one without a key is spread. -/
  | dict (entries : List (Option Formula × Formula))
  | starred (formula : Formula)
  | collected (kind : Collection) (key : Option Formula) (element : Formula) (clauses : List Clause)
  | signed (sign : Sign) (formula : Formula)
  | binary (operator : Operator) (left right : Formula)
  | compare (first : Formula) (rest : List (Relation × Formula))
  | both (first second : Formula)
  | either (first second : Formula)
  | choice (condition yes no : Formula)
  | function (parameters : List Parameter) (body : Formula)
  | call (function : Formula) (arguments : List Argument)
  | attribute (formula : Formula) (name : String)
  | element (formula index : Formula)
  | slice (start stop step : Option Formula)
  | assigning (name : String) (value : Formula)

/-- A part of a text that is put together. -/
inductive Piece where
  | text (text : List Char)
  | field (value : Formula) (conversion : Option Char) (form : List Piece)

inductive Clause where
  | each (target source : Formula)
  | when (condition : Formula)

inductive Argument where
  | plain (value : Formula)
  | spread (value : Formula)
  | named (name : String) (value : Formula)
  | spreadNamed (value : Formula)

inductive Parameter where
  | mk (kind : ParameterKind) (name : String) (default : Option Formula)

end

instance : Inhabited Formula := ⟨.nothing⟩

/-- A statement; the statements in it stand with their lines. -/
inductive Statement where
  | formula (formula : Formula)
  | assign (targets : List Formula) (value : Formula)
  | change (operator : Operator) (target value : Formula)
  | load (names : List (String × String))
  | loadFrom (source : String) (names : List (String × String))
  | choice (condition : Formula) (yes no : List (Nat × Statement))
  | repeated (condition : Formula) (body finish : List (Nat × Statement))
  | each (target source : Formula) (body finish : List (Nat × Statement))
  | define (name : String) (parameters : List Parameter) (body : List (Nat × Statement))
  | give (value : Option Formula)
  | throw (value : Option Formula)
  | guarded (body : List (Nat × Statement))
      (handlers : List (Option Formula × Option String × List (Nat × Statement)))
      (otherwise finish : List (Nat × Statement))
  | during (items : List (Formula × Option Formula)) (body : List (Nat × Statement))
  | delete (targets : List Formula)
  | require (condition : Formula) (problem : Option Formula)
  | global (names : List String)
  | nonlocal (names : List String)
  | pass | leave | continue
  deriving Inhabited

abbrev Block := List (Nat × Statement)

end TaskRunner.Shell.Snippet
