/- # TaskRunner.Error -- what can be wrong with a project or with a request

Every mistake that the runner finds before a recipe line runs is one `ConfigError`.  A constructor
names the cause and carries the names involved; the wording lives in `ConfigError.message` alone.

Two phases find such mistakes: loading finds those of the Runfile and of the command line, planning
those of the request.  What is reported of a mistake names a phase, and `ConfigError.isPlanning`
settles which.  It goes by the cause alone, and is not told which phase found the mistake: an
undeclared default, which loading finds, counts as found by planning, and the mistake that nothing is
declared, which planning finds, does not. -/

namespace TaskRunner
set_option autoImplicit false

/-- A mistake in the configuration, or in what was requested of it. -/
inductive ConfigError where
  /-- Two targets were declared under one name. -/
  | duplicateTarget (name : String)
  /-- A target lists a prerequisite that no target is named after. -/
  | unknownPrerequisite (target missing : String)
  /-- A text refers to a variable that nothing defines. -/
  | undefinedVariable (name : String)
  /-- A chain of references, each found in the value of the one before, that comes back to a name
  already on it or grows too long. -/
  | substitutionCycle (chain : List String)
  /-- A target was requested, or made the default, that is not declared. -/
  | unknownTarget (name : String)
  /-- Nothing was requested and nothing is declared. -/
  | noTargets
  /-- A walk along prerequisites that ends where it began. -/
  | cyclicDependency (path : List String)
  /-- A command-line override that is not of the form `NAME=VALUE`. -/
  | invalidOverride (argument : String)
  deriving DecidableEq, Repr

namespace ConfigError

/-- How a chain of names is written in a message. -/
def arrows (names : List String) : String := " -> ".intercalate names

/-- The text shown for an error. -/
def message : ConfigError → String
  | duplicateTarget name => s!"target `{name}` is defined more than once"
  | unknownPrerequisite target missing => s!"target `{target}` depends on unknown target `{missing}`"
  | undefinedVariable name => s!"undefined variable `{name}`"
  | substitutionCycle chain => s!"recursive variable reference: {arrows chain}"
  | unknownTarget name => s!"no target named `{name}`"
  | noTargets => "no targets defined"
  | cyclicDependency path => s!"cyclic dependency: {arrows path}"
  | invalidOverride argument => s!"invalid variable override `{argument}`, expected NAME=VALUE"

/-- Whether the error is reported as one of planning.  That goes by the cause alone, whichever phase
has found it. -/
def isPlanning : ConfigError → Bool
  | cyclicDependency _ | unknownTarget _ => true
  | _ => false

end ConfigError

/-- The exit status of a run in which a target failed. -/
def failureStatus : Nat := 1

/-- The exit status of a mistake found before anything ran. -/
def configStatus : Nat := 2

end TaskRunner
