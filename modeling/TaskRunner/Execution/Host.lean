import TaskRunner.Execution.Flight
import TaskRunner.Staleness
/- # TaskRunner.Execution.Host -- what running a plan needs from its surroundings

Whoever runs a plan provides a `Host`: how to tell the age of files, print a line, hand a command to
the shell and wait for it, and which of several things that can go on goes on first.  The
surroundings are a value of any type that the operations take and give back.

A statement about all hosts holds whatever the commands do, whatever the files look like, and in
whatever order commands end.  It holds too where a recipe cannot print a command, which crashes the
recipe.  One thing is assumed: what a rehearsal prints can be printed.  A rehearsal prints for itself
and not in a recipe, so where it cannot, the program is over and the rehearsal comes to nothing. -/

namespace TaskRunner
set_option autoImplicit false

/-- The surroundings in which a plan is run. -/
structure Host (World : Type) where
  times : World → FileTimes
  /-- Prints a line of a rehearsal. -/
  print : String → World → World
  /-- Prints a command for the recipe that is about to start it; if that fails, the recipe crashes,
  and the text says what became of it. -/
  echo : String → World → Option String × World
  /-- Hands a command of a target to the shell. -/
  start : (target command : String) → World → World
  /-- Waits until the command of a target ends, and says why if it did not succeed. -/
  await : (target : String) → World → Option LineFailure × World
  /-- Which of the recipes in flight goes on, or the coordinator if it is none of them; the flag says
  whether the coordinator has an entry to look at. -/
  choose : (scanning : Bool) → List Flight → World → Option Nat × World
  /-- The order in which entries are gone through whose recipes have crashed. -/
  arrange : List String → World → List String := fun names _ => names
  arrange_perm : ∀ names world, (arrange names world).Perm names := by exact fun _ _ => .refl _

/-- How a plan is to be run. -/
structure RunOptions where
  dryRun : Bool := false
  /-- How many recipes may run at once; zero counts as one. -/
  jobs : Nat := 1
  /-- Whether targets that do not depend on a failed one are still started. -/
  keepGoing : Bool := false
  /-- Whether each command is printed before it runs. -/
  echo : Bool := true
  deriving DecidableEq, Repr, Inhabited

/-- What came of running a plan: a report or the mistake that stopped it, and what happened on the
way, in order. -/
structure Execution where
  result : Except ConfigError Report
  events : List Event

end TaskRunner
