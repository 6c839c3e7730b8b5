/- # TaskRunner.Target -- one unit of work

A target has a name, the names of the targets that come before it, the lines of its recipe and the
files that the recipe makes.  A phony target is always due.  A target without outputs is phony until
it is said to be otherwise, and giving a target its outputs settles the question anew. -/

namespace TaskRunner
set_option autoImplicit false

/-- A declared target. -/
structure Target where
  name : String
  prerequisites : List String := []
  /-- Shell lines, run in order; their references are replaced when they run. -/
  recipe : List String := []
  phony : Bool := true
  /-- Files that the recipe makes, relative to the project's root. -/
  outputs : List String := []
  description : Option String := none
  deriving DecidableEq, Repr, Inhabited

namespace Target

/-- A phony target that has only a name. -/
def named (name : String) : Target := { name }

def withPrerequisites (target : Target) (prerequisites : List String) : Target :=
  { target with prerequisites }

def withRecipe (target : Target) (recipe : List String) : Target := { target with recipe }

/-- Sets the outputs, and makes the target phony exactly if there are none. -/
def withOutputs (target : Target) (outputs : List String) : Target :=
  { target with outputs, phony := outputs.isEmpty }

def withPhony (target : Target) (phony : Bool) : Target := { target with phony }

def withDescription (target : Target) (description : String) : Target :=
  { target with description := some description }

/-- Whether the target only groups its prerequisites. -/
def isAggregate (target : Target) : Bool := target.recipe.isEmpty

/-- Whether the age of files cannot settle that the target is up to date. -/
def alwaysDue (target : Target) : Bool := target.phony || target.outputs.isEmpty

theorem alwaysDue_eq_false_iff (target : Target) :
    target.alwaysDue = false ↔ target.phony = false ∧ target.outputs ≠ [] := by
  simp [alwaysDue]

theorem alwaysDue_iff (target : Target) :
    target.alwaysDue = true ↔ target.phony = true ∨ target.outputs = [] := by
  simp [alwaysDue]

end Target
end TaskRunner
