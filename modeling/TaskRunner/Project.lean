import TaskRunner.FileSystem
import TaskRunner.Override
import TaskRunner.Plan
import TaskRunner.Problem
import TaskRunner.Runfile.Format
import TaskRunner.Variable.Substitution
/- # TaskRunner.Project -- a Runfile that is ready to be run

Assembling a project finds every mistake that can be found before anything runs: all values, recipe
lines and outputs must have their references replaced, the targets must form a registry, and the
default must be one of them.

Of several mistakes the first is reported in this order: the values of variables by name; then
target by target its lines, its outputs and its name; then unknown prerequisites; then the default.

A later definition of a variable wins over an earlier one, and overrides win over definitions.  The
variable `CHECK` is there from the start, and empty. -/

namespace TaskRunner
set_option autoImplicit false

/-- The shell that takes recipe lines where a Runfile does not say otherwise. -/
def defaultShell : List String := ["sh", "-c"]

/-- The variable by which recipes can tell that they are to verify only. -/
def checkVariable : String := "CHECK"

/-- A Runfile whose mistakes would have been found. -/
structure Project where
  /-- The directory that recipe lines run in. -/
  root : String
  registry : Registry
  table : Variable.Table
  shell : List String
  /-- The target that runs if none is requested, where the Runfile says which. -/
  default : Option String
  default_declared : ∀ name ∈ default, registry.contains name = true

namespace Project

/-! ## Assembling -/

/-- The variables of a Runfile with overrides. -/
def tableOf (runfile : Runfile) (overrides : List Override) : Variable.Table :=
  let checked := Variable.Table.empty.define checkVariable (.scalar "")
  let declared := runfile.definitions.foldl (fun table decl => table.define decl.name decl.value)
    checked
  overrides.foldl (fun table override => table.define override.name (.scalar override.value))
    declared

/-- Finds the first variable, by name, in whose value a reference cannot be replaced. -/
def checkValues (table : Variable.Table) : Except ConfigError Unit :=
  table.names.forM fun name => do
    let value ← table.resolve name
    let _ ← table.substitute value.render

/-- The target that a declaration describes.  Its lines keep their references; those of its outputs
are replaced. -/
def target (table : Variable.Table) (decl : TargetDecl) : Except ConfigError Target := do
  let _ ← table.substituteAll decl.recipe
  let outputs ← table.substituteAll decl.outputs
  return {
    name := decl.name
    prerequisites := decl.prerequisites
    recipe := decl.recipe
    phony := decl.phony.getD outputs.isEmpty
    outputs
    description := decl.description }

/-- The targets that declarations describe, under distinct names. -/
def draft (table : Variable.Table) (decls : List TargetDecl) :
    Except ConfigError Registry.Draft :=
  decls.foldlM (fun draft decl => do draft.register (← target table decl)) Registry.Draft.empty

/-- The project that a Runfile describes. -/
def ofRunfile (runfile : Runfile) (root : String) (overrides : List Override) :
    Except ConfigError Project := do
  let table := tableOf runfile overrides
  checkValues table
  let draft ← draft table runfile.targets
  let registry ← draft.finalize
  let shell := runfile.shell.getD defaultShell
  match runfile.default with
  | none => return { root, registry, table, shell, default := none, default_declared := by simp }
  | some name =>
    if declared : registry.contains name = true then
      return {
        root, registry, table, shell
        default := some name
        default_declared := by simpa using declared }
    else throw (.unknownTarget name)

/-! ## Files -/

/-- Reads the Runfile at a path. -/
def readRunfile (files : FileSystem) (directory : Location) (path : String) :
    Except Problem Runfile :=
  match files.readText directory path with
  | .error cause => .error (.unreadable path cause)
  | .ok text =>
    match Runfile.ofYaml? text with
    | some runfile => .ok runfile
    | none => .error (.malformedRunfile (some path))

/-- Loads the project of the Runfile at a path, with the directory of the file as its root. -/
def load (files : FileSystem) (directory : Location) (path : String) (overrides : List Override) :
    Except Problem Project := do
  let runfile ← readRunfile files directory path
  (ofRunfile runfile (Path.directory path) overrides).mapError Problem.config

/-- The path of the Runfile of a directory. -/
def discover (files : FileSystem) (directory : Location) (path : String) :
    Except Problem String :=
  match (runfileNames.map (Path.join path)).find? (files.isFile directory) with
  | some path => .ok path
  | none => .error (.noRunfile path)

/-! ## Requests -/

/-- The target that runs if none is requested: the default, or the first one declared. -/
def defaultTarget (project : Project) : Except ConfigError String :=
  match project.default with
  | some name => .ok name
  | none =>
    match project.registry.first? with
    | some target => .ok target.name
    | none => .error .noTargets

/-- The targets to start a plan from. -/
def roots (project : Project) (requested : List String) : Except ConfigError (List String) :=
  if requested.isEmpty then project.defaultTarget.map ([·]) else .ok requested

/-- The plan for a request. -/
def plan (project : Project) (requested : List String) : Except ConfigError Plan := do
  project.registry.plan (← project.roots requested)

/-! ## Listing -/

/-- The line that describes a target. -/
def listing (default : Option String) (target : Target) : String :=
  target.name ++ (if default == some target.name then " (default)" else "") ++
    (if target.prerequisites.isEmpty then "" else ": " ++ " ".intercalate target.prerequisites) ++
    (match target.description with
      | some description => "  # " ++ description
      | none => "") ++ "\n"

/-- All targets in the order of their declaration, a line for each. -/
def describe (project : Project) : String :=
  String.join (project.registry.toList.map (listing project.defaultTarget.toOption))

end Project
end TaskRunner
