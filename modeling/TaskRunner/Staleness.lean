import TaskRunner.Registry
/- # TaskRunner.Staleness -- whether a recipe has to run

A target is up to date if all of its outputs are there and nothing that it is made from is newer
than the oldest of them.  Otherwise `Staleness` says why it is due, and names the first reason:

* it is phony or has no outputs;
* one of its outputs is missing;
* a prerequisite was rebuilt, is always due itself, lacks an output, or has an output that is newer
  than the target's oldest output.

Prerequisites are looked at in the order of their declaration.  Two equal times do not make a file
newer. -/

namespace TaskRunner
set_option autoImplicit false

/-- A point in time, in nanoseconds since the beginning of 1970. -/
abbrev FileTime := Int

/-- When the file at a path was last changed; nothing if there is no such file. -/
abbrev FileTimes := String → Option FileTime

/-- Why a target is due, or that it is not. -/
inductive Staleness where
  | phony
  | missingOutput (path : String)
  | phonyPrerequisite (name : String)
  | prerequisiteRebuilt (name : String)
  | outdated (output newer : String)
  | upToDate
  deriving DecidableEq, Repr, Inhabited

namespace Staleness

/-- Whether the recipe has to run. -/
def isDue : Staleness → Bool
  | upToDate => false
  | _ => true

/-- The reason in words. -/
def message : Staleness → String
  | phony => "phony"
  | missingOutput path => s!"output {path} is missing"
  | phonyPrerequisite name => s!"prerequisite `{name}` is phony"
  | prerequisiteRebuilt name => s!"prerequisite `{name}` was rebuilt"
  | outdated output newer => s!"{newer} is newer than {output}"
  | upToDate => "up to date"

/-- The first path of a list with the least time among them, or the first path that is missing. -/
def oldest (times : FileTimes) (oldestTime : FileTime) (oldestPath : String) :
    List String → Except String (FileTime × String)
  | [] => .ok (oldestTime, oldestPath)
  | path :: rest =>
    match times path with
    | none => .error path
    | some time =>
      if time < oldestTime then oldest times time path rest
      else oldest times oldestTime oldestPath rest

/-- The reason that the outputs of a prerequisite give against an output made at a time. -/
def ofInputs (times : FileTimes) (output : String) (made : FileTime) :
    List String → Option Staleness
  | [] => none
  | path :: rest =>
    match times path with
    | none => some (.missingOutput path)
    | some time =>
      if made < time then some (.outdated output path) else ofInputs times output made rest

/-- The reason that one prerequisite gives.  A name that is not registered gives none. -/
def ofPrerequisite (registry : Registry) (times : FileTimes) (rebuilt : List String)
    (output : String) (made : FileTime) (name : String) : Option Staleness :=
  if name ∈ rebuilt then some (.prerequisiteRebuilt name)
  else
    match registry.get? name with
    | none => none
    | some prerequisite =>
      if prerequisite.alwaysDue then some (.phonyPrerequisite name)
      else ofInputs times output made prerequisite.outputs

/-- Judges a target by the times of files and by what was rebuilt before it. -/
def check (registry : Registry) (times : FileTimes) (rebuilt : List String) (target : Target) :
    Staleness :=
  if target.alwaysDue then .phony
  else
    match target.outputs with
    | [] => .phony
    | first :: rest =>
      match times first with
      | none => .missingOutput first
      | some time =>
        match oldest times time first rest with
        | .error path => .missingOutput path
        | .ok (made, output) =>
          match target.prerequisites.findSome?
              (ofPrerequisite registry times rebuilt output made) with
          | some reason => reason
          | none => .upToDate

end Staleness
end TaskRunner
