import TaskRunner.Shell.Expression
/- # TaskRunner.Shell.Records.Syntax -- scripts for records

A script is a row of rules, each with a pattern and what is done with the records that it is for, and
functions.  Formulas have values and may change something when they are worked out. -/

namespace TaskRunner.Shell.Records
set_option autoImplicit false

inductive Arithmetic where
  | add | subtract | multiply | divide | remainder | power
  deriving DecidableEq, Repr

inductive Comparison where
  | less | atMost | equal | different | atLeast | greater
  deriving DecidableEq, Repr

/-- Where a line is read from. -/
inductive LineSource where
  | input | file | command
  deriving DecidableEq, Repr

/-- Where something is written to. -/
inductive PrintTarget where
  | output | file | append | command
  deriving DecidableEq, Repr

mutual

/-- Something that can be assigned. -/
inductive Target where
  | named (name : String)
  | field (index : Formula)
  | element (array : String) (indices : List Formula)

/-- A formula. -/
inductive Formula where
  | number (number : Float)
  | text (text : Octets)
  | expression (expression : Expression)
  | target (target : Target)
  | assign (operator : Option Arithmetic) (target : Target) (value : Formula)
  | arithmetic (operator : Arithmetic) (left right : Formula)
  | compare (comparison : Comparison) (left right : Formula)
  | matching (negated : Bool) (text pattern : Formula)
  | joined (first second : Formula)
  | both (first second : Formula)
  | either (first second : Formula)
  | not (formula : Formula)
  | negative (formula : Formula)
  | plain (formula : Formula)
  | choice (condition yes no : Formula)
  /-- Adds something to a target; the value is that from before unless `early`. -/
  | step (early : Bool) (amount : Float) (target : Target)
  | member (indices : List Formula) (array : String)
  | call (name : String) (arguments : List Formula)
  | builtin (name : String) (arguments : List Formula)
  | readLine (source : LineSource) (from_ : Formula) (into : Option Target)

end

instance : Inhabited Formula := ⟨.number 0⟩
instance : Inhabited Target := ⟨.named ""⟩

/-- A statement. -/
inductive Statement where
  | formula (formula : Formula)
  | print (values : List Formula) (target : PrintTarget) (destination : Formula)
  | printFormatted (values : List Formula) (target : PrintTarget) (destination : Formula)
  | choice (condition : Formula) (yes no : Statement)
  | repeated (condition : Formula) (body : Statement)
  | repeatedAfter (body : Statement) (condition : Formula)
  | counted (start : Statement) (condition : Option Formula) (step body : Statement)
  | each (name array : String) (body : Statement)
  | block (statements : List Statement)
  | next | nextFile
  | exit (status : Option Formula)
  | give (value : Option Formula)
  | leave | continue
  | delete (array : String) (indices : List Formula)
  deriving Inhabited

/-- When a rule is carried out. -/
inductive Occasion where
  | beginning | ending | always
  | when (condition : Formula)
  | between (first last : Formula)

/-- A rule; without statements the record is written. -/
structure Rule where
  occasion : Occasion
  body : Option Statement

structure Function where
  parameters : List String
  body : Statement

structure Script where
  rules : Array Rule
  functions : List (String × Function)

end TaskRunner.Shell.Records
