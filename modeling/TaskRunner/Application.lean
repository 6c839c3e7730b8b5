import TaskRunner.Execution.Rehearsal
import TaskRunner.Project
import TaskRunner.Session.Storage
import TaskRunner.Workplace
/- # TaskRunner.Application -- carrying out a request

A request names targets of a project and says how to run them.  It is planned first, and a mistake
in it is found before anything runs.  The events of the run make up its session, which is kept if the
request says so; where it cannot be kept, the run counts all the same. -/

namespace TaskRunner
set_option autoImplicit false

/-- What is asked of a project. -/
structure Request where
  /-- The targets; none at all stands for the default. -/
  targets : List String := []
  dryRun : Bool := false
  jobs : Nat := 1
  keepGoing : Bool := false
  echo : Bool := true
  /-- Whether the session is kept. -/
  record : Bool := false
  deriving DecidableEq, Repr, Inhabited

namespace Request

def options (request : Request) : RunOptions where
  dryRun := request.dryRun
  jobs := request.jobs
  keepGoing := request.keepGoing
  echo := request.echo

end Request

namespace Project

def scheduler (project : Project) (request : Request) : Scheduler where
  registry := project.registry
  table := project.table
  options := request.options

/-- The session of a run, from the events that it had. -/
def session (roots : List String) (plan : Plan) (request : Request) (begun ended : Timestamp)
    (events : List Event) : Session :=
  let session := Session.begin roots plan.targets request.dryRun begun
  (events.foldl (fun session event => session.apply ended event) session).finish ended

/-- Carries out a request. -/
def serve {World : Type} (surroundings : Surroundings World) (project : Project)
    (request : Request) (world : World) : Except ConfigError Report × World :=
  match project.roots request.targets with
  | .error e => (.error e, world)
  | .ok roots =>
    match project.registry.plan roots with
    | .error e => (.error e, world)
    | .ok plan =>
      let begun := surroundings.now world
      let (execution, world) := (project.scheduler request).run surroundings.toHost plan
        (surroundings.enter project.root project.shell world)
      match execution.result with
      | .error e => (.error e, world)
      | .ok report =>
        let session := session roots plan request begun (surroundings.now world) execution.events
        let world :=
          if request.record then
            let files := surroundings.files world
            surroundings.setFiles
              (session.save files (surroundings.directory world) project.root).2 world
          else world
        (.ok report, world)

/-- Carries out a request at a workplace. -/
def run (project : Project) (request : Request) (workplace : Workplace) :
    Except ConfigError Report × Workplace :=
  project.serve Workplace.surroundings request workplace

/-- A workplace for a project. -/
def workplace (project : Project) (site : Shell.Site) (directory : Location) : Workplace where
  site
  directory
  root := project.root
  shell := project.shell

end Project
end TaskRunner
