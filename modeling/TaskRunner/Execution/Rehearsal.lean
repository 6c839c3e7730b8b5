import TaskRunner.Execution.Scheduler
/- # TaskRunner.Execution.Rehearsal -- showing what a run would do

A rehearsal goes through a plan once, in order, and starts no command.  An entry that is due has its
commands printed and counts as rebuilt for those that come after it; any other is skipped.  The
files are looked at as they are, so what a command would change does not show but by this count. -/

namespace TaskRunner
set_option autoImplicit false

/-- The state of a rehearsal. -/
structure Rehearsal where
  ledger : Ledger := .empty
  /-- The entries that would have run. -/
  rebuilt : List String := []
  /-- What happened so far, the latest first. -/
  events : List Event := []

namespace Rehearsal

/-- The events of a recipe that runs without failure, in order. -/
def eventsOf (name : String) (commands : List String) : List Event :=
  .started name :: (commands.mapIdx fun line command => .command name line command) ++
    [.completed name]

/-- An entry that is up to date. -/
def skip (rehearsal : Rehearsal) (name reason : String) : Rehearsal :=
  { rehearsal with
    ledger := rehearsal.ledger.setState name .skipped
    events := .skipped name reason :: rehearsal.events }

/-- An entry that is due. -/
def perform (rehearsal : Rehearsal) (name : String) (commands : List String) : Rehearsal where
  ledger := (rehearsal.ledger.setState name .succeeded).setCommands name commands
  rebuilt := name :: rehearsal.rebuilt
  events := (eventsOf name commands).reverse ++ rehearsal.events

end Rehearsal

namespace Scheduler
variable {World : Type} (scheduler : Scheduler) (host : Host World)

/-- Rehearses the entries of a list until one of them shows a mistake. -/
def rehearse (rehearsal : Rehearsal) (world : World) :
    List String → Option ConfigError × Rehearsal × World
  | [] => (none, rehearsal, world)
  | name :: rest =>
    match scheduler.registry.get? name with
    | none => (some (.unknownTarget name), rehearsal, world)
    | some target =>
      let verdict :=
        Staleness.check scheduler.registry (host.times world) rehearsal.rebuilt target
      if !verdict.isDue then rehearse (rehearsal.skip name verdict.message) world rest
      else
        match scheduler.table.substituteAll target.recipe with
        | .error e => (some e, rehearsal, world)
        | .ok commands =>
          let world := commands.foldl (fun world command => host.print command world) world
          rehearse (rehearsal.perform name commands) world rest

/-- Shows what the run of a plan would do. -/
def executeDry (plan : Plan) (world : World) : Execution × World :=
  let (error, rehearsal, world) := scheduler.rehearse host {} world plan.targets
  let result := match error with
    | some e => .error e
    | none => .ok (rehearsal.ledger.report plan true)
  ({ result, events := rehearsal.events.reverse }, world)

/-- Runs a plan, or shows what its run would do, as the options say. -/
def run (plan : Plan) (world : World) : Execution × World :=
  if scheduler.options.dryRun then scheduler.executeDry host plan world
  else scheduler.execute host plan world

end Scheduler
end TaskRunner
