import TaskRunner.Variable.Table
/- # TaskRunner.Runfile -- what a Runfile declares

The declarations in their order, before anything about them is checked: the names may be used twice,
the prerequisites need not exist, and the texts still hold references. -/

namespace TaskRunner
set_option autoImplicit false

/-- The declaration of a variable. -/
structure VariableDecl where
  name : String
  value : Variable.Value
  deriving DecidableEq, Repr

/-- The declaration of a target. -/
structure TargetDecl where
  name : String
  prerequisites : List String := []
  recipe : List String := []
  /-- Nothing stands for "phony if there are no outputs". -/
  phony : Option Bool := none
  outputs : List String := []
  description : Option String := none
  deriving DecidableEq, Repr

/-- The contents of a Runfile. -/
structure Runfile where
  /-- The target that runs if none is requested; the first one if this is not given. -/
  default : Option String := none
  /-- The program, with leading arguments, that takes a recipe line as its last argument. -/
  shell : Option (List String) := none
  definitions : List VariableDecl := []
  targets : List TargetDecl := []
  deriving DecidableEq, Repr, Inhabited

end TaskRunner
