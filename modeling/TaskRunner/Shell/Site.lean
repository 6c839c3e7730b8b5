import TaskRunner.Shell.Action
/- # TaskRunner.Shell.Site -- a machine with its processes

The processes take turns.  One that can go on does so until it waits, and comes last then.  When
nobody can go on, the clock moves on to the first moment that one of them waits for. -/

namespace TaskRunner.Shell
set_option autoImplicit false

/-- A process that waits for its turn. -/
structure Turn where
  process : Nat
  isReady : Machine → Bool
  wake : Option FileTime := none
  resume : Machine → Job

/-- A machine with its processes. -/
structure Site where
  machine : Machine
  turns : List Turn := []

namespace Site

/-- Whether a process can go on. -/
def canGoOn (machine : Machine) (turn : Turn) : Bool :=
  turn.wake.any (· ≤ machine.files.clock) || turn.isReady machine

/-- The first moment that a process waits for. -/
def firstWake? (turns : List Turn) : Option FileTime :=
  turns.foldl
    (fun found turn =>
      match found, turn.wake with
      | some first, some other => some (min first other)
      | none, wake => wake
      | found, none => found)
    none

/-- What becomes of a process that had its turn. -/
def settle (process : Nat) (turns : List Turn) : Job → Site
  | .ended ending machine => ⟨machine.finish process ending, turns⟩
  | .paused isReady wake resume machine =>
    ⟨machine, turns ++ [{ process, isReady, wake, resume }]⟩
  | .forked child start resume machine =>
    ⟨machine, { process, isReady := fun _ => true, resume } ::
      turns ++ [{ process := child, isReady := fun _ => true, resume := start }]⟩

/-- Lets one process go on; nothing if none can. -/
def step? (site : Site) : Option Site :=
  let turns := site.turns.filter fun turn => site.machine.isAlive turn.process
  let go (machine : Machine) (i : Nat) : Option Site :=
    (turns[i]?).map fun turn =>
      settle turn.process (turns.eraseIdx i)
        (turn.resume { machine with current := turn.process })
  match turns.findIdx? (canGoOn site.machine) with
  | some i => go site.machine i
  | none =>
    match firstWake? turns with
    | none => none
    | some wake =>
      let files := { site.machine.files with clock := wake }
      let machine := { site.machine with files }
      (turns.findIdx? (canGoOn machine)).bind (go machine)

/-- How often processes take turns, at most, until something has come about. -/
def maxTurns : Nat := 100000000

/-- Lets the processes go on until the machine is as wanted. -/
def run (isDone : Machine → Bool) (fuel : Nat) (site : Site) : Site :=
  match fuel with
  | 0 => site
  | fuel + 1 =>
    if isDone site.machine then site
    else
      match site.step? with
      | some site => run isDone fuel site
      | none => site

/-- Lets the processes go on until all have ended, or wait for ever. -/
def drain (site : Site) : Site := site.run (fun _ => false) maxTurns

/-- Starts a process in a directory, with its input empty.  Its errors are those of the machine, and
its output goes to a channel. -/
def start (place : Location) (channel : Channel) (action : Action Ending) (site : Site) :
    Nat × Site :=
  let machine := site.machine
  let (input, machine) := machine.newOpening { channel := .null, reads := true }
  let (output, machine) := machine.newOpening { channel, writes := true }
  let (errors, machine) := machine.newOpening { channel := .errors, writes := true }
  let process := machine.fresh
  let record : Record := {
    parent := Machine.caller, place, descriptors := [(0, input), (1, output), (2, errors)] }
  let machine := { machine with
    records := machine.records.insert process record, fresh := process + 1 }
  (process, ⟨machine, site.turns ++
    [{ process, isReady := fun _ => true, resume := action.toJob }]⟩)

end Site
end TaskRunner.Shell
