import TaskRunner.Proofs.Execution.Chronicle
/- # TaskRunner.Proofs.Execution.Transcript -- what a run exchanges with the shell

A report is put together from states, commands and failures, which different turns note while
several recipes are in flight.  What it says of recipe lines is a claim about the shell: which lines
were handed to it, and how they ended.  `Host.transcribed` is a host that writes that down as well,
and a run does not notice (`execute_transcribed`), so whatever holds of the transcript holds of the
run on the host itself.

How far an entry has come settles what was exchanged about it (`Run.Transcribed`).  A turn either
leaves the transcript alone or adds one line to it, with which one recipe goes on, so every run
keeps that.  A recipe that crashes does so before it hands over its line, so the shell knows nothing
of that line. -/

namespace TaskRunner
set_option autoImplicit false

/-- What passes between a run and the shell. -/
inductive Exchange where
  /-- A line of a target is handed to the shell. -/
  | command (target text : String)
  /-- The line that was handed over last for the target has ended. -/
  | result (target : String) (failure : Option LineFailure)
  deriving DecidableEq, Repr

namespace Exchange

def target : Exchange → String
  | command target _ | result target _ => target

/-- The exchanges about one target. -/
def about (name : String) (transcript : List Exchange) : List Exchange :=
  transcript.filter (·.target == name)

/-- Lines of a target that are run one after the other, and all succeed. -/
def performed (name : String) (lines : List String) : List Exchange :=
  lines.flatMap fun line => [.command name line, .result name none]

variable {name : String} {transcript : List Exchange} {exchange : Exchange}

theorem about_snoc_self (told : exchange.target = name) :
    about name (transcript ++ [exchange]) = about name transcript ++ [exchange] := by
  simp [about, told]

theorem about_snoc_of_ne (told : exchange.target ≠ name) :
    about name (transcript ++ [exchange]) = about name transcript := by
  simp [about, told]

theorem performed_snoc (lines : List String) (line : String) :
    performed name (lines ++ [line]) =
      performed name lines ++ [.command name line] ++ [.result name none] := by
  simp [performed]

end Exchange

/-! ## What a recipe exchanges -/

namespace Progress

open Exchange (performed)

/-- What was exchanged about a target when its recipe, of the given lines, has come so far. -/
def exchanges (name : String) (lines : List String) : Progress → List Exchange
  | ready line _ _ | crashed line _ _ _ => performed name (lines.take line)
  | busy line command _ => performed name (lines.take line) ++ [.command name command]
  | finished none => performed name lines
  | finished (some failure) =>
    performed name (lines.take failure.line) ++ [.command name failure.command] ++
      [.result name (some failure.cause)]

/-- How a recipe goes on, and the exchange with which it does. -/
inductive Speaks (target : String) : Progress → Exchange → Progress → Prop where
  | command {line : Nat} {command : String} {rest : List String} :
      Speaks target (ready line command rest) (.command target command) (busy line command rest)
  | result {line : Nat} {command : String} {rest : List String} (result : Option LineFailure) :
      Speaks target (busy line command rest) (.result target result)
        (afterLine target line command rest result)

variable {target : String} {lines rest : List String} {line : Nat} {progress next : Progress}
  {exchange : Exchange}

theorem exchanges_ofLines (split : lines.drop line = rest) :
    (ofLines line rest).exchanges target lines = performed target (lines.take line) := by
  have begun : (ofLines line rest).begun lines = lines.take line := begun_ofLines split
  rw [← begun]
  cases rest <;> rfl

theorem Speaks.target_eq (speaks : progress.Speaks target exchange next) :
    exchange.target = target := by
  cases speaks <;> rfl

/-- A recipe that goes on has exchanged one thing more. -/
theorem Speaks.exchanges_eq (speaks : progress.Speaks target exchange next)
    (fits : progress.Fits target lines) :
    next.exchanges target lines = progress.exchanges target lines ++ [exchange] := by
  cases speaks with
  | command => rfl
  | @result line command rest result =>
    obtain ⟨-, remaining⟩ := next_of_drop fits
    obtain ⟨taken, -⟩ := take_succ_of_drop fits
    cases result with
    | none =>
      calc (ofLines (line + 1) rest).exchanges target lines
          = performed target (lines.take (line + 1)) := exchanges_ofLines remaining
        _ = performed target (lines.take line) ++ [.command target command] ++
              [.result target none] := by rw [taken, Exchange.performed_snoc]
    | some cause => rfl

end Progress

/-! ## Hosts that show the same -/

section Shows

variable {World Other : Type}

/-- Whether what a host does looks, through `view`, like what another does. -/
structure Host.Shows (host : Host World) (other : Host Other) (view : World → Other) : Prop where
  times : ∀ world, host.times world = other.times (view world)
  echo : ∀ command world, (host.echo command world).map id view = other.echo command (view world)
  start : ∀ target command world,
    view (host.start target command world) = other.start target command (view world)
  await : ∀ target world,
    (host.await target world).map id view = other.await target (view world)
  choose : ∀ scanning flights world,
    (host.choose scanning flights world).map id view = other.choose scanning flights (view world)
  arrange : ∀ names world, host.arrange names world = other.arrange names (view world)

namespace Scheduler

variable {scheduler : Scheduler} {host : Host World} {other : Host Other} {view : World → Other}

theorem echo_of_shows (shows : host.Shows other view) (command : String) (world : World) :
    (scheduler.echo host command world).map id view =
      scheduler.echo other command (view world) := by
  unfold echo
  split
  · exact shows.echo command world
  · rfl

theorem advance_of_shows (shows : host.Shows other view) (run : Run) (world : World) (i : Nat)
    (flight : Flight) :
    (scheduler.advance host run world i flight).map id view =
      scheduler.advance other run (view world) i flight := by
  unfold advance
  split
  · unfold startLine
    rw [← echo_of_shows shows]
    rcases scheduler.echo host _ world with ⟨_ | error, after⟩ <;> simp [shows.start]
  · simp [awaitLine, ← shows.await]
  · rfl
  · rfl

theorem look_of_shows (shows : host.Shows other view) (run : Run) (world : World) (name : String)
    (ahead : List String) :
    scheduler.look host run world name ahead =
      scheduler.look other run (view world) name ahead := by
  simp only [look, dispatch, shows.times]

theorem step_of_shows (shows : host.Shows other view) (run : Run) (world : World) :
    (scheduler.step host run world).map (Prod.map id view) =
      scheduler.step other run (view world) := by
  have choose : ∀ scanning, other.choose scanning run.flights (view world) =
      (host.choose scanning run.flights world).map id view :=
    fun scanning => (shows.choose scanning run.flights world).symm
  unfold step
  split
  · split
    · rfl
    · next name ahead front =>
      rw [choose]
      dsimp only [Prod.map, id]
      split
      · simp [look_of_shows shows]
      · split
        · simp [look_of_shows shows]
        · exact congrArg some (advance_of_shows shows ..)
  · split
    · rfl
    · next first rest front =>
      rw [choose]
      exact congrArg some (advance_of_shows shows ..)

theorem loop_of_shows (shows : host.Shows other view) (run : Run) (world : World) :
    (scheduler.loop host run world).map id view = scheduler.loop other run (view world) := by
  fun_induction loop scheduler host run world with
  | case1 run world final =>
    have stuck : (scheduler.step host run world).map _ = _ := step_of_shows shows run world
    rw [final] at stuck
    exact (loop_of_over stuck.symm).symm
  | case2 run world next after turn ih =>
    have turned : (scheduler.step host run world).map _ = _ := step_of_shows shows run world
    rw [turn] at turned
    exact ih.trans (loop_of_turn turned.symm).symm

theorem close_of_shows (shows : host.Shows other view) (plan : Plan) (run : Run) (world : World) :
    close host plan run world = close other plan run (view world) := by
  simp only [close, shows.arrange]

/-- A run does not tell hosts apart that show the same. -/
theorem execute_of_shows (shows : host.Shows other view) (plan : Plan) (world : World) :
    (scheduler.execute host plan world).map id view =
      scheduler.execute other plan (view world) := by
  unfold execute
  rw [← loop_of_shows shows]
  simp [close_of_shows shows]

end Scheduler

end Shows

/-! ## The transcript -/

/-- A host that also writes down what it exchanges with the shell. -/
def Host.transcribed {World : Type} (host : Host World) : Host (World × List Exchange) where
  times desk := host.times desk.1
  print text desk := (host.print text desk.1, desk.2)
  echo command desk :=
    let (error, world) := host.echo command desk.1
    (error, world, desk.2)
  start target command desk :=
    (host.start target command desk.1, desk.2 ++ [.command target command])
  await target desk :=
    let (result, world) := host.await target desk.1
    (result, world, desk.2 ++ [.result target result])
  choose scanning flights desk :=
    let (choice, world) := host.choose scanning flights desk.1
    (choice, world, desk.2)
  arrange names desk := host.arrange names desk.1
  arrange_perm names desk := host.arrange_perm names desk.1

theorem Host.transcribed_shows {World : Type} (host : Host World) :
    host.transcribed.Shows host Prod.fst where
  times _ := rfl
  echo _ _ := rfl
  start _ _ _ := rfl
  await _ _ := rfl
  choose _ _ _ := rfl
  arrange _ _ := rfl

namespace Scheduler

variable {World : Type} {scheduler : Scheduler} {host : Host World} {plan : Plan}

/-- **Writing the transcript changes nothing** in what a run comes to and does outside. -/
theorem execute_transcribed (plan : Plan) (world : World) (transcript : List Exchange) :
    (scheduler.execute host.transcribed plan (world, transcript)).map id Prod.fst =
      scheduler.execute host plan world :=
  execute_of_shows host.transcribed_shows plan (world, transcript)

theorem leftRunning_transcribed (plan : Plan) (world : World) :
    scheduler.leftRunning host.transcribed plan (world, []) = scheduler.leftRunning host plan world := by
  have same : (scheduler.loop host.transcribed (.start plan) (world, [])).map id Prod.fst = _ :=
    loop_of_shows host.transcribed_shows (.start plan) (world, [])
  rw [leftRunning, leftRunning, ← same]
  rfl

/-- Printing a command exchanges nothing. -/
theorem echo_transcribed (command : String) (desk : World × List Exchange) :
    (scheduler.echo host.transcribed command desk).2.2 = desk.2 := by
  unfold echo
  split <;> rfl

/-- Where a recipe that is in flight after a turn comes from, if nothing was exchanged in that turn. -/
inductive Quiet (run next : Run) : Flight → Prop where
  | stay {flight : Flight} (before : flight ∈ run.flights) : Quiet run next flight
  | launch {name : String} (waits : name ∈ run.waiting) :
      Quiet run next ⟨name, .ofLines 0 (next.ledger.linesOf name)⟩
  | crash {flight : Flight} {line : Nat} {command : String} {rest : List String} {error : String}
      (before : flight ∈ run.flights) (ready : flight.progress = .ready line command rest) :
      Quiet run next { flight with progress := .crashed line command rest error }

/-- A turn adds nothing to the transcript and lets no recipe go on, unless it crashes, or it adds the
one exchange with which a recipe does. -/
theorem exchange_of_turn {run next : Run} {world after : World}
    {transcript longer : List Exchange}
    (turn : scheduler.Turn host.transcribed (run, world, transcript) (next, after, longer)) :
    (longer = transcript ∧ ∀ flight ∈ next.flights, Quiet run next flight) ∨
    ∃ i flight progress exchange, run.flights[i]? = some flight ∧
      flight.progress.Speaks flight.target exchange progress ∧ next.ledger = run.ledger ∧
      next.flights = (setProgress run i flight progress).flights ∧
      longer = transcript ++ [exchange] := by
  -- `Move` does not say what is exchanged, so the two kinds of turns are looked at themselves.
  rcases step_cases scheduler host.transcribed turn with
    ⟨name, ahead, -, front, rfl, same⟩ | ⟨i, flight, found, -, turn⟩
  · refine .inl ⟨congrArg (·.2) same, fun flight member => ?_⟩
    have waits : name ∈ run.waiting := (Run.mem_waiting_of_front front).2 (.inl rfl)
    rcases flights_of_look host.transcribed run (after, longer) name ahead with
      before | ⟨target, lines, -, -, -, flights, noted⟩
    · exact .stay (before member)
    · rw [flights, List.mem_append, List.mem_singleton] at member
      rcases member with earlier | rfl
      · exact .stay earlier
      · exact noted ▸ .launch waits
  · unfold advance at turn
    split at turn
    · next line command rest ready =>
      unfold startLine at turn
      split at turn
      · next error desk echoed =>
        cases turn
        have same : longer = transcript :=
          (congrArg (·.2.2) echoed).symm.trans (echo_transcribed command _)
        refine .inl ⟨same, fun other member => ?_⟩
        rcases List.mem_or_eq_of_mem_set member with before | rfl
        · exact .stay before
        · exact .crash (List.mem_of_getElem? found) ready
      · next desk echoed =>
        cases turn
        have same : desk.2 = transcript :=
          (congrArg (·.2.2) echoed).symm.trans (echo_transcribed command _)
        refine .inr ⟨i, flight, _, .command flight.target command, found, ?_, rfl, rfl, ?_⟩
        · rw [ready]
          exact .command
        · rw [same]
    · next line command rest busy =>
      cases turn
      refine .inr ⟨i, flight, _, _, found, ?_, rfl, rfl, rfl⟩
      rw [busy]
      exact .result _
    all_goals
      cases turn
      exact .inl ⟨rfl, fun other member => .stay ((List.eraseIdx_sublist ..).subset member)⟩

/-- The lines noted of an entry change only when its recipe starts. -/
theorem Move.linesOf {times : FileTimes} {run next : Run} (move : scheduler.Move times run next)
    (consistent : run.Consistent scheduler plan) (name : String) :
    next.ledger.linesOf name = run.ledger.linesOf name ∨
      run.ledger.state name = .pending ∧ next.ledger.state name = .running := by
  cases move with
  | pass | withhold | giveUp | skip | complete | refuse | startLine | endLine | crash | lose =>
    exact .inl rfl
  | launch scans front =>
    simp only [Ledger.linesOf_setCommands, Ledger.linesOf_setState, Ledger.state_setCommands,
      Ledger.state_setState]
    split
    · next same => exact .inr ⟨same ▸ consistent.pending_of_front front, rfl⟩
    · exact .inl rfl
  | join => exact .inl (Ledger.linesOf_finish ..)

theorem Move.linesOf_of_left {times : FileTimes} {run next : Run}
    (move : scheduler.Move times run next) (consistent : run.Consistent scheduler plan)
    {name : String} (left : run.ledger.state name ≠ .pending) :
    next.ledger.linesOf name = run.ledger.linesOf name :=
  (move.linesOf consistent name).resolve_right fun starts => left starts.1

end Scheduler

namespace Run

open Exchange (about performed)

/-- How far the recipe of an entry has come. -/
inductive Stands (run : Run) (name : String) : Progress → Prop where
  /-- It is over, or no lines are noted of it. -/
  | rests (idle : run.ledger.state name ≠ .running) (sound : run.ledger.state name ≠ .failed) :
      Stands run name (.finished none)
  | flies {progress : Progress} (inFlight : ⟨name, progress⟩ ∈ run.flights) :
      Stands run name progress
  | failed {failure : TargetFailure} (noted : failure ∈ run.ledger.failures)
      (named : failure.target = name) : Stands run name (.finished (some failure))

/-- Whether the transcript says of each entry how far its recipe has come. -/
structure Transcribed (run : Run) (transcript : List Exchange) : Prop where
  told : ∀ name progress, run.Stands name progress →
    about name transcript = progress.exchanges name (run.ledger.linesOf name)
  /-- A recipe that has crashed has left out a line at least. -/
  unended : ∀ name, run.ledger.state name = .running → name ∉ run.inFlight →
    ∃ count < (run.ledger.linesOf name).length,
      about name transcript = performed name ((run.ledger.linesOf name).take count)

variable {scheduler : Scheduler} {plan : Plan} {run next : Run} {times : FileTimes}
  {transcript : List Exchange}

theorem transcribed_start (plan : Plan) : (start plan).Transcribed [] := by
  refine ⟨fun name progress stands => ?_, fun name running => by simp [start] at running⟩
  cases stands with
  | rests =>
    have none : (start plan).ledger.linesOf name = [] := Ledger.linesOf_empty name
    rw [none]
    rfl
  | flies inFlight => cases inFlight
  | failed noted => cases noted

namespace Transcribed

variable (transcribed : run.Transcribed transcript) (consistent : run.Consistent scheduler plan)
  (recorded : run.Recorded)

include transcribed consistent

section Calm

variable (move : scheduler.Move times run next)

include move

/-- What was exchanged about a recipe that was in flight before a move. -/
theorem about_of_inFlight {flight : Flight} (inFlight : flight ∈ run.flights) :
    about flight.target transcript =
      flight.progress.exchanges flight.target (next.ledger.linesOf flight.target) := by
  have running := consistent.running_of_inFlight _ (List.mem_map_of_mem inFlight)
  rw [move.linesOf_of_left consistent (by simp [running])]
  exact transcribed.told _ _ (.flies inFlight)

/-- What was exchanged about an entry that is at rest after a move. -/
theorem about_of_rests {name : String} (idle : next.ledger.state name ≠ .running)
    (sound : next.ledger.state name ≠ .failed) :
    about name transcript = performed name (next.ledger.linesOf name) := by
  have same : next.ledger.linesOf name = run.ledger.linesOf name :=
    (move.linesOf consistent name).resolve_right fun starts => idle starts.2
  generalize eq : next.ledger.state name = state at idle sound
  have change := eq ▸ move.change consistent name
  -- An entry that departs at rest has no lines, and one that ends at rest was in flight.
  cases change with
  | stay => exact same ▸ transcribed.told name _ (.rests idle sound)
  | depart _ pending =>
    exact same ▸ transcribed.told name _ (.rests (by simp [pending]) (by simp [pending]))
  | @finish failure running inFlight =>
    cases failure with
    | none => exact transcribed.about_of_inFlight consistent move inFlight
    | some failure => exact absurd rfl sound

include recorded

/-- An entry that is lost after a move was so before, or its recipe has crashed in front of a line. -/
theorem unended_of_move (stays : ¬ next.Abandoned scheduler plan) {name : String}
    (running : next.ledger.state name = .running) (grounded : name ∉ next.inFlight) :
    ∃ count < (next.ledger.linesOf name).length,
      about name transcript = performed name ((next.ledger.linesOf name).take count) := by
  rcases move.grounded consistent stays running grounded with
    ⟨running, grounded⟩ | ⟨flight, inFlight, rfl, crashed⟩
  · rw [move.linesOf_of_left consistent (by simp [running])]
    exact transcribed.unended name running grounded
  · have told := transcribed.about_of_inFlight consistent move inFlight
    have fits := recorded.fits flight inFlight
    have left := consistent.running_of_inFlight _ (List.mem_map_of_mem inFlight)
    rw [← move.linesOf_of_left consistent (by simp [left])] at fits
    cases progress : flight.progress with
    | crashed line command rest error =>
      rw [progress] at told fits
      have inside := (List.getElem?_eq_some_iff.1 (Progress.next_of_drop fits).1).1
      exact ⟨line, inside, told⟩
    | ready | busy | finished =>
      rw [progress] at crashed
      cases crashed

/-- A move with which no recipe goes on. -/
theorem calm (stays : ¬ next.Abandoned scheduler plan)
    (noted : ∀ name, Noted scheduler name (run.ledger.state name) (run.ledger.linesOf name))
    (quiet : ∀ flight ∈ next.flights, Scheduler.Quiet run next flight) :
    next.Transcribed transcript := by
  refine ⟨fun name progress stands => ?_, fun name running grounded =>
    transcribed.unended_of_move consistent recorded move stays running grounded⟩
  cases stands with
  | rests idle sound => exact transcribed.about_of_rests consistent move idle sound
  | flies inFlight =>
    cases quiet _ inFlight with
    | stay before => exact transcribed.about_of_inFlight consistent move before
    | launch waits =>
      have pending := consistent.pending_of_waiting name waits
      have silent := transcribed.told name _ (.rests (by simp [pending]) (by simp [pending]))
      rw [silent, (noted name).of_idle (.inl pending), Progress.exchanges_ofLines List.drop_zero]
      rfl
    | crash before ready =>
      have told := transcribed.about_of_inFlight consistent move before
      rw [ready] at told
      exact told
  | failed noted named =>
    rcases move.noted_failure noted with earlier | ⟨flight, inFlight, finished⟩
    · have failed := (recorded.failed_iff name).2 (named ▸ List.mem_map_of_mem earlier)
      rw [move.linesOf_of_left consistent (by simp [failed])]
      exact transcribed.told name _ (.failed earlier named)
    · have fits := recorded.fits flight inFlight
      rw [finished] at fits
      obtain rfl : flight.target = name := fits.1.symm.trans named
      have told := transcribed.about_of_inFlight consistent move inFlight
      rw [finished] at told
      exact told

end Calm

include recorded

/-- A move with which one recipe goes on. -/
theorem speaks {i : Nat} {flight : Flight} {progress : Progress} {exchange : Exchange}
    (found : run.flights[i]? = some flight)
    (speaks : flight.progress.Speaks flight.target exchange progress)
    (ledger : next.ledger = run.ledger)
    (flights : next.flights = (Scheduler.setProgress run i flight progress).flights) :
    next.Transcribed (transcript ++ [exchange]) := by
  have mine : flight ∈ run.flights := List.mem_of_getElem? found
  have running := consistent.running_of_inFlight flight.target (mem_inFlight_of_getElem? found)
  have others : ∀ name, name ≠ flight.target →
      about name (transcript ++ [exchange]) = about name transcript :=
    fun name different => Exchange.about_snoc_of_ne fun same =>
      different (same.symm.trans speaks.target_eq)
  refine ⟨fun name reached stands => ?_, fun name goes grounded => ?_⟩
  case refine_2 =>
    rw [inFlight, flights, ← inFlight, inFlight_setProgress progress found] at grounded
    rw [ledger] at goes ⊢
    rw [others name fun same => grounded (same ▸ mem_inFlight_of_getElem? found)]
    exact transcribed.unended name goes grounded
  rw [ledger]
  cases stands with
  | rests idle sound =>
    rw [ledger] at idle sound
    rw [others name fun same => idle (same ▸ running)]
    exact transcribed.told name _ (.rests idle sound)
  | flies inFlight =>
    rw [flights] at inFlight
    rcases eq_or_ne_of_mem_setProgress consistent.inFlight_nodup found inFlight with
      same | ⟨before, different⟩
    · obtain ⟨rfl, rfl⟩ := Flight.mk.inj same
      rw [Exchange.about_snoc_self speaks.target_eq,
        speaks.exchanges_eq (recorded.fits flight mine), transcribed.told _ _ (.flies mine)]
    · rw [others name different]
      exact transcribed.told name _ (.flies before)
  | failed noted named =>
    rw [ledger] at noted
    have failed := (recorded.failed_iff name).2 (named ▸ List.mem_map_of_mem noted)
    rw [others name fun same => by simp [same, running] at failed]
    exact transcribed.told name _ (.failed noted named)

end Transcribed

end Run

namespace Scheduler

variable {World : Type} {scheduler : Scheduler} {host : Host World} {plan : Plan} {origin : World}

theorem transcribed_of_reaches (distinct : plan.targets.Nodup)
    {after : Run × World × List Exchange}
    (reached : scheduler.Reaches host.transcribed (.start plan, origin, []) after)
    (stays : ¬ after.1.Abandoned scheduler plan) : after.1.Transcribed after.2.2 := by
  induction reached with
  | refl => exact Run.transcribed_start plan
  | @tail before after reached turn ih =>
    have consistent := consistent_of_turn distinct reached turn
    have recorded := recorded_of_reaches distinct reached
    have told := ih fun abandoned => abandoned.no_move turn.move
    rcases exchange_of_turn turn with
      ⟨same, quiet⟩ | ⟨i, flight, progress, exchange, found, speaks, ledger, flights, longer⟩
    · rw [same]
      exact told.calm consistent recorded turn.move stays (noted_of_reaches distinct reached) quiet
    · rw [longer]
      exact told.speaks consistent recorded found speaks ledger flights

end Scheduler
end TaskRunner
