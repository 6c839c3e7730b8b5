import TaskRunner.Shell.Assignment
import TaskRunner.Shell.Builtin
import TaskRunner.Shell.Expression
import TaskRunner.Shell.Redirection
/- # TaskRunner.Shell.Execution -- carrying out commands

A simple command is expanded to words, the first of which says what is called; its streams are
redirected and its variables set for its duration.  Compound commands carry out other commands, once
or over and over, in the process itself or in copies of it. -/

namespace TaskRunner.Shell.Execution
set_option autoImplicit false

variable (runner : Runner)

/-! ## Failures -/

/-- Ends the process after a failure that has not been provided for, if failures end it. -/
def checked (flags : Flags) (work : Work Unit) : Work Unit := do
  work
  let process ← Work.process
  if process.status != 0 && !flags.guarded then
    match if process.isExtended then process.traps.lookup Builtin.signalOf.errorSignal else none with
    | some text => if process.interrupted.isNone then Work.interrupt runner text
    | none => pure ()
    if process.has "errexit" then Work.leave .process

/-! ## Reports of what is carried out -/

/-- A text as the extended dialect reports it: in quotes only where it needs them. -/
def shownWord (text : Octets) : Octets :=
  let hasMeaning (c : Char) : Bool := " \t\n\"'`\\|&;()<>!{}*[?]^$".toList.contains c
  let startsComment := text.head? == some '#' || text.head? == some '~'
  if text.isEmpty then ['\'', '\'']
  else if text.any fun c => c.toNat < 32 && c != '\n' && c != '\t' then Quoting.dollarQuoted text
  else if text.any hasMeaning || startsComment then Quoting.singleEscaped text
  else text

/-- What stands in front of a report of a command. -/
def traceLead : Work Octets := do
  let process ← Work.process
  let sign := (process.bindings.text? "PS4".toList).getD "+ ".toList
  let text ← match Word.ofDocument process.dialect sign with
    | .ok word =>
      Work.restoring (fun before after => { after with options := before.options }) do
        Work.modify (·.setOption "xtrace" false)
        Expansion.single runner.substitution word
    | .error _ => pure sign
  if process.isExtended then return List.replicate process.nesting (text.head?.getD '+') ++ text
  else return text

/-- Reports a line of what is carried out, if that is asked for, where the errors of the process went
before its streams were redirected. -/
def trace (errors : Option Nat) (line : Octets) : Work Unit := do
  let process ← Work.process
  if process.has "xtrace" then
    let text := (← traceLead runner) ++ line ++ ['\n']
    match errors with
    | none => return ()
    | some opening =>
      let present ← Work.look (·.opening? 2)
      Work.change (·.setDescriptor 2 opening)
      Work.act (Action.report text)
      Work.change fun machine =>
        match present with
        | some (number, _) => machine.setDescriptor 2 number
        | none => machine.close 2

/-- Where the errors of the process go. -/
def errorsOpening : Work (Option Nat) := Work.look fun machine => (machine.opening? 2).map (·.1)

/-! ## Words of simple commands -/

/-- What a simple command calls. -/
inductive Callee where
  | nothing
  | function (body : Command)
  | builtin (builtin : Builtin) (name : Octets)
  | description (manner : Builtin.Manner)
  | program (standard : Bool)

/-- A simple command with its words expanded: what it calls, the words of that, and whether it is
called as a special command. -/
structure Called where
  callee : Callee
  words : List Octets
  special : Bool := false

/-- Takes the word `command` and its options off some words. -/
structure Stripped where
  words : List Octets
  /-- Whether functions are passed over. -/
  direct : Bool := false
  standard : Bool := false
  description : Option Builtin.Manner := none

/-- Reads the letters of an option of `command`. -/
def commandOption (stripped : Stripped) (letters : Octets) : Stripped :=
  letters.foldl
    (fun stripped c =>
      match c with
      | 'p' => { stripped with standard := true }
      | 'v' => { stripped with description := some .brief }
      | 'V' => { stripped with description := some .full }
      | _ => stripped)
    stripped

/-- Takes the options of `command` off some words. -/
def commandOptions (stripped : Stripped) : List Octets → Stripped
  | ['-', '-'] :: rest => { stripped with words := rest }
  | ('-' :: c :: letters) :: rest => commandOptions (commandOption stripped (c :: letters)) rest
  | rest => { stripped with words := rest }

/-- Takes words that say how a command is looked for off some words. -/
def strip (process : Process) (fuel : Nat) (stripped : Stripped) : Stripped :=
  match fuel, stripped.words with
  | fuel + 1, word :: rest =>
    let isFunction := !stripped.direct && process.functions.contains word
    if !isFunction && word == "command".toList && stripped.description.isNone then
      strip process fuel (commandOptions { stripped with direct := true } rest)
    else if !isFunction && process.isExtended && word == "builtin".toList then
      strip process fuel { stripped with words := rest, direct := true }
    else stripped
  | _, _ => stripped

/-- What words call. -/
def calledBy (process : Process) (words : List Octets) : Called :=
  let stripped := strip process (words.length + 1) { words }
  match stripped.description, stripped.words with
  | some manner, rest => { callee := .description manner, words := rest }
  | none, [] => { callee := .nothing, words := [] }
  | none, name :: rest =>
    let function? := if stripped.direct then none else process.functions[name]?
    match function?, Builtin.ofName? process.dialect name with
    | some body, _ => { callee := .function body, words := name :: rest }
    | none, some builtin =>
      { callee := .builtin builtin name, words := name :: rest
        special := builtin.special && !stripped.direct }
    | none, none => { callee := .program stripped.standard, words := name :: rest }

/-- Whether a word is written like an assignment. -/
def isAssignment (word : Word) : Bool :=
  match word with
  | .text false octets :: _ =>
    match Octets.cut? '=' octets with
    | some (name, _) => isName name || (name.getLast? == some '+' && isName name.dropLast)
    | none => false
  | _ => false

/-- Whether the arguments of what words call may be assignments. -/
def declares (process : Process) (words : List Octets) : Bool :=
  match (calledBy process words).callee with
  | .builtin builtin _ => builtin.declares
  | _ => false

/-- Expands the words of a simple command; the last word that was read comes first in `read`. -/
def expandWords (read : List Octets) : List Word → Work (List Octets)
  | [] => return read.reverse
  | word :: rest => do
    let process ← Work.process
    let found ←
      if isAssignment word && !read.isEmpty && declares process read.reverse then do
        pure [← Expansion.assigned runner.substitution word]
      else Expansion.arguments runner.substitution word
    expandWords (found.reverse ++ read) rest

/-! ## Calls -/

/-- Calls a command of the shell.  A mistake in one that is not special is a failure like any
other. -/
def callBuiltin (flags : Flags) (builtin : Builtin) (name : Octets) (special : Bool)
    (arguments : List Octets) : Work Unit := do
  let work := Work.restoring (fun before after => { after with command := before.command }) do
    Work.modify fun process => { process with command := name }
    builtin.run runner flags arguments
  if special then work
  else
    match ← Work.attempt work with
    | .error .mistake => return ()
    | result => Work.resume result

/-- Calls what words call. -/
def call (flags : Flags) (called : Called) : Work Unit := do
  let arguments := called.words.tail
  match called.callee with
  | .nothing => Work.setStatus 0
  | .function body =>
    Call.function runner flags (called.words.head?.getD []) body arguments
  | .builtin builtin name => callBuiltin runner flags builtin name called.special arguments
  | .description manner =>
    let dialect := (← Work.process).dialect
    let isSpecial := Builtin.isSpecial dialect
    if dialect == .extended then Builtin.describeEach isSpecial manner called.words
    else
      match called.words with
      | name :: _ => Builtin.describe isSpecial manner name
      | [] => Work.setStatus 0
  | .program standard =>
    Call.program runner flags standard (called.words.head?.getD []) arguments

/-- Whether words call the command that keeps its redirections. -/
def keepsRedirects (called : Called) : Bool :=
  match called.callee with
  | .builtin _ name => name == "exec".toList
  | _ => false

/-- Carries out work with streams redirected for good. -/
def redirectedForGood (prepared : List Redirection.Prepared) (failed work : Work Unit) :
    Work Unit := do
  if ← Redirection.apply prepared then work
  else
    Work.setStatus (Redirection.failureStatus (← Work.process))
    failed

/-! ## Simple commands -/

/-- Notes the status of the last command as that of a pipeline of one stage. -/
def noteStages (statuses : List Nat) : Work Unit := Work.modify fun process =>
  if process.isExtended then
    let items := statuses.zipIdx.map fun (status, i) => (i, Octets.ofNat status)
    { process with
      stages := statuses
      bindings := process.bindings.setValue "PIPESTATUS".toList (.indexed items) }
  else process

/-- Carries out a simple command of the plain dialect.  Its words come first, then its redirections,
then its assignments. -/
def simplePlain (flags : Flags) (assignments : List Assignment) (words : List Word)
    (redirects : List Redirect) : Work Unit := do
  let substitution := runner.substitution
  let words ← expandWords runner [] words
  let called := calledBy (← Work.process) words
  let prepared ← Redirection.prepare substitution redirects
  let errors ← errorsOpening
  let report (ready : List Assign.Ready) : Work Unit :=
    trace runner errors (Octets.join [' '] (ready.map (·.shown id) ++ words))
  let failed : Work Unit := if called.special then Work.leave .mistake else return ()
  let work : Work Unit :=
    if words.isEmpty then do
      let ready ← Assign.all substitution assignments
      report ready
      let process ← Work.process
      Work.setStatus (process.substituted.getD 0)
    else if called.special then do
      let ready ← Assign.all substitution assignments
      if keepsRedirects called && words.length > 1 then
        ready.forM fun one => Assign.makeVisible one.name
      report ready
      call runner flags called
    else Assign.during substitution assignments fun ready => do
      report ready
      call runner flags called
  if keepsRedirects called then redirectedForGood prepared failed work
  else Redirection.around prepared failed work

/-- Carries out a simple command of the extended dialect. -/
def simpleExtended (flags : Flags) (assignments : List Assignment) (words : List Word)
    (redirects : List Redirect) (declared : List Assignment) : Work Unit := do
  let substitution := runner.substitution
  let words ← expandWords runner [] words
  let called := calledBy (← Work.process) words
  let errors ← errorsOpening
  let report (ready : List Assign.Ready) : Work Unit :=
    ready.forM fun one => trace runner errors (one.shown fun text =>
      if text.isEmpty then [] else shownWord text)
  if words.isEmpty then
    let ready ← Assign.all substitution assignments
    report ready
    let process ← Work.process
    let status := process.substituted.getD 0
    let prepared ← Redirection.prepare substitution redirects
    Redirection.around prepared (return ()) (Work.setStatus status)
  else
    let work (ready : List Assign.Ready) : Work Unit := do
      report ready
      trace runner errors (Octets.join [' '] (words.map shownWord))
      let prepared ← Redirection.prepare substitution redirects
      let body : Work Unit := do
        call runner flags called
        if !declared.isEmpty then
          let status := (← Work.process).status
          let _ ← Assign.all substitution declared
          Work.setStatus status
      if keepsRedirects called then redirectedForGood prepared (return ()) body
      else Redirection.around prepared (return ()) body
    Assign.during substitution assignments work

/-- Carries out a simple command. -/
def simple (flags : Flags) (line : Nat) (assignments : List Assignment) (words : List Word)
    (redirects : List Redirect) (declared : List Assignment) : Work Unit := do
  Work.act Action.yield
  Work.modify fun process => { process with line, substituted := none }
  if (← Work.process).isExtended then
    simpleExtended runner flags assignments words redirects declared
    noteStages [(← Work.process).status]
  else simplePlain runner flags assignments words redirects

/-! ## Pipelines and copies -/

/-- Starts the stages of a pipeline, each of which reads what the one before it writes; `input` is
what the first one reads, if it is not the input of the process. -/
def startStages (flags : Flags) (ignored : List Nat) (input : Option Nat) :
    List Command → Work (List Nat)
  | [] => return []
  | stage :: rest => do
    let streams (more : List (Nat × Nat)) : List (Nat × Nat) :=
      (match input with
        | some opening => [(0, opening)]
        | none => []) ++ more
    let start (streams : List (Nat × Nat)) : Work Nat :=
      Work.fork runner streams do
        Work.change (·.modifySelf fun record => { record with ignored := ignored ++ record.ignored })
        runner.run { flags with final := true } stage
    if rest.isEmpty then return [← start (streams [])]
    else
      let (reader, writer) ← Work.act (Action.update Machine.newPipe)
      let child ← start (streams [(1, writer)])
      return child :: (← startStages flags ignored (some reader) rest)

/-- The status of a pipeline whose stages have some. -/
def pipelineStatus (process : Process) (statuses : List Nat) : Nat :=
  if process.has "pipefail" then (statuses.reverse.find? (· != 0)).getD 0
  else statuses.getLast?.getD 0

/-- Carries out a pipeline. -/
def pipeline (flags : Flags) (stages : List Command) : Work Unit := do
  match stages with
  | [stage] => runner.run flags.inner stage
  | stages =>
    let children ← startStages runner flags [] none stages
    let statuses ← Work.awaitAll children
    let process ← Work.process
    Work.setStatus (pipelineStatus process statuses)
    noteStages statuses

/-- The signals that a process in the background passes over. -/
def backgroundIgnored : List Nat := [Signal.interrupt, 3]

/-- Starts a command without waiting for it. -/
def background (flags : Flags) (body : Command) : Work Unit := do
  let empty ← Work.act (Action.update fun machine =>
    machine.newOpening { channel := .null, reads := true })
  let stages := match body with
    | .pipeline false stages => stages
    | body => [body]
  let inside := { flags with guarded := false }
  let children ← startStages runner inside backgroundIgnored (some empty) stages
  Work.modify fun process =>
    { process with
      background := children.getLast?, jobs := process.jobs ++ children.getLast?.toList }
  Work.setStatus 0

/-- Carries out work in a copy of the process; where nothing is left for the process to do it does
the work itself. -/
def subshell (flags : Flags) (work : Work Unit) : Work Unit := do
  let process ← Work.process
  if flags.final && process.traps.isEmpty && !process.isExtended then
    Work.modify Work.asCopy
    work
    Work.leave .process
  else Work.inCopy runner work

/-! ## Loops -/

/-- How often a loop goes on, at most. -/
def maxRounds : Nat := 1000000000

/-- How a loop goes on when a part of it was left. -/
inductive Next where
  | on
  | off

/-- Carries out a part of a loop, and says how the loop goes on. -/
def inLoop (work : Work Unit) : Work Next := do
  match ← Work.attempt work with
  | .ok _ => return .on
  | .error (.loops (n + 2)) => Work.leave (.loops (n + 1))
  | .error (.loops _) => return .off
  | .error (.round (n + 2)) => Work.leave (.round (n + 1))
  | .error (.round _) => return .on
  | .error escape => Work.leave escape

/-- Carries out a loop. -/
def looping (work : Work Unit) : Work Unit :=
  Work.restoring (fun before after => { after with loops := before.loops }) do
    Work.modify fun process => { process with loops := process.loops + 1 }
    work

/-- Repeats a body while a condition comes out as wanted; `status` is that of the body. -/
def repeatWhile (flags : Flags) (wanted : Bool) (condition body : Command) (fuel status : Nat) :
    Work Unit :=
  match fuel with
  | 0 => return ()
  | fuel + 1 => do
    match ← inLoop (runner.run { guarded := true } condition) with
    | .off => return ()
    | .on =>
      let holds := (← Work.process).status == 0
      if holds == wanted then
        match ← inLoop (runner.run flags body) with
        | .off => return ()
        | .on =>
          let after ← Work.process
          repeatWhile flags wanted condition body fuel after.status
      else Work.setStatus status

/-- Repeats a body for each of some values of a variable. -/
def forEach (flags : Flags) (name : Octets) (shown : Work Unit) (body : Command) :
    List Octets → Work Unit
  | [] => return ()
  | value :: rest => do
    shown
    Work.assign name value
    match ← inLoop (runner.run flags body) with
    | .off => return ()
    | .on => forEach flags name shown body rest

/-- The value of a calculation in a command; an empty one is given another. -/
def calculated (empty : Int) (expression : List Part) : Work Int := do
  let text ← Expansion.single runner.substitution expression
  trace runner (← errorsOpening) ("(( ".toList ++ Octets.trim text ++ " ))".toList)
  if (Octets.trim text).isEmpty then return empty else Work.calculate text

/-- Repeats a body as long as a calculation does not come to zero. -/
def countRounds (flags : Flags) (condition step : List Part) (body : Command) (fuel : Nat) :
    Work Unit :=
  match fuel with
  | 0 => return ()
  | fuel + 1 => do
    if (← calculated runner 1 condition) != 0 then
      match ← inLoop (runner.run flags body) with
      | .off => return ()
      | .on =>
        let _ ← calculated runner 1 step
        countRounds flags condition step body fuel

/-! ## Choices -/

/-- Whether a text matches one of some patterns. -/
def matchesAny (subject : Octets) : List Word → Work Bool
  | [] => return false
  | word :: rest => do
    let pattern ← Expansion.pattern runner.substitution word
    let process ← Work.process
    if Pattern.covers pattern subject (process.has "nocasematch") then return true
    else matchesAny subject rest

/-- Carries out the branches whose patterns a text matches; `through` says whether the next branch is
carried out whatever its patterns are. -/
def branches (flags : Flags) (subject : Octets) (through : Bool) : List Branch → Work Unit
  | [] => return ()
  | .mk patterns body finish :: rest => do
    if ← (pure through <||> matchesAny runner subject patterns) then
      match finish with
      | .leave => runner.run flags body
      | .continue =>
        runner.run flags.inner body
        branches flags subject true rest
      | .test =>
        runner.run flags.inner body
        branches flags subject false rest
    else branches flags subject false rest

/-! ## Conditions in double brackets -/

/-- The expression that the pattern of a word writes: quoted parts stand for themselves. -/
def expressionOf (fields : List Marked) : Octets :=
  fields.flatMap fun (c, quoted) =>
    if quoted && "\\^$.|?*+()[]{}".toList.contains c then ['\\', c] else [c]

/-- Decides whether an expression matches in a text, and notes what its groups match. -/
def matchExpression (text : Octets) (pattern : Octets) : Work (Option Bool) := do
  match Expression.ofText .extended pattern with
  | .error _ => return none
  | .ok expression =>
    let process ← Work.process
    let subject : Expression.Subject :=
      { text := text.toArray, fold := process.has "nocasematch" }
    let name := "BASH_REMATCH".toList
    match expression.search? subject 0 with
    | none =>
      Work.modify fun process =>
        { process with bindings := process.bindings.setValue name (.indexed []) }
      return some false
    | some found =>
      let count := pattern.countP (· == '(')
      let groups := (List.range (count + 1)).map fun n => (n, found.group subject n)
      Work.modify fun process =>
        { process with bindings := process.bindings.setValue name (.indexed groups) }
      return some true

/-- Decides a condition; nothing where it is malformed. -/
def decideTest : Test → Work (Option Bool)
  | .word word => do
    let text ← Expansion.single runner.substitution word
    trace runner (← errorsOpening) ("[[ -n ".toList ++ shownWord text ++ " ]]".toList)
    return some !text.isEmpty
  | .unary operator word => do
    let text ← Expansion.single runner.substitution word
    trace runner (← errorsOpening)
      ("[[ ".toList ++ operator ++ ' ' :: shownWord text ++ " ]]".toList)
    let process ← Work.process
    let view ← Work.look (Builtin.view process)
    return some (Condition.unary view (operator[1]?.getD 'n') text)
  | .binary operator left right => do
    let a ← Expansion.single runner.substitution left
    let marked := Expansion.marked (← Expansion.pieces runner.substitution { fields := false } right)
    let b := marked.map (·.1)
    trace runner (← errorsOpening)
      ("[[ ".toList ++ shownWord a ++ ' ' :: operator ++ ' ' ::
        (if b.isEmpty then ['\'', '\''] else b) ++ " ]]".toList)
    let process ← Work.process
    match String.ofList operator with
    | "==" | "=" =>
      return some (Pattern.covers (Pattern.ofMarked true marked) a (process.has "nocasematch"))
    | "!=" =>
      return some !(Pattern.covers (Pattern.ofMarked true marked) a (process.has "nocasematch"))
    | "=~" => matchExpression a (expressionOf marked)
    | name =>
      match Condition.numeric? name with
      | some compare =>
        let m ← Work.calculate a
        let n ← Work.calculate b
        return some (compare m n)
      | none =>
        let view ← Work.look (Builtin.view process)
        return (Condition.binary view true a operator b).toOption
  | .not test => do return (← decideTest test).map (!·)
  | .and first second => do
    match ← decideTest first with
    | some true => decideTest second
    | result => return result
  | .or first second => do
    match ← decideTest first with
    | some false => decideTest second
    | result => return result

/-- Carries out work whose mistakes are reported under a name, and are failures like any other. -/
def mistakesAs (name : Octets) (work : Work Unit) : Work Unit := do
  let labelled := Work.restoring (fun before after => { after with command := before.command }) do
    Work.modify fun process => { process with command := name }
    work
  match ← Work.attempt labelled with
  | .error .mistake => return ()
  | result => Work.resume result

/-! ## Commands -/

/-- Sets the line that is carried out. -/
def atLine (line : Nat) : Work Unit := Work.modify fun process => { process with line }

/-- Carries out commands one after the other. -/
def sequence (flags : Flags) : List Command → Work Unit
  | [] => return ()
  | [command] => runner.run flags command
  | command :: rest => do
    runner.run flags.inner command
    sequence flags rest

/-- Carries out a command with its streams redirected. -/
def redirected (flags : Flags) (line : Nat) (body : Command) (redirects : List Redirect) :
    Work Unit := do
  atLine line
  let prepared ← Redirection.prepare runner.substitution redirects
  let failed : Work Unit := checked runner flags (return ())
  match body with
  | .subshell inside =>
    checked runner flags do
      subshell runner flags do
        if ← Redirection.apply prepared then runner.run { flags with final := true } inside
        else
          Work.setStatus (Redirection.failureStatus (← Work.process))
          Work.leave .process
  | body => Redirection.around prepared failed (runner.run flags.inner body)

/-- Carries out a command. -/
def command (flags : Flags) : Command → Work Unit
  | .simple line assignments words redirects declared =>
    checked runner flags (simple runner flags line assignments words redirects declared)
  | .pipeline true stages => do
    pipeline runner { guarded := true } stages
    Work.modify fun process => process.withStatus (if process.status == 0 then 1 else 0)
  | .pipeline false stages => checked runner flags (pipeline runner flags stages)
  | .both first second => do
    runner.run { guarded := true } first
    if (← Work.process).status == 0 then runner.run flags second
  | .either first second => do
    runner.run { guarded := true } first
    if (← Work.process).status != 0 then runner.run flags second
  | .sequence [] => Work.setStatus 0
  | .sequence commands => sequence runner flags commands
  | .background body => background runner flags body
  | .subshell body =>
    checked runner flags (subshell runner flags (runner.run { flags with final := true } body))
  | .redirected line body redirects => redirected runner flags line body redirects
  | .choice condition yes no => do
    runner.run { guarded := true } condition
    if (← Work.process).status == 0 then runner.run flags yes else runner.run flags no
  | .repeated wanted condition body =>
    looping (repeatWhile runner flags.inner wanted condition body maxRounds 0)
  | .each line name given words body => do
    atLine line
    let process ← Work.process
    let values ← if given then Expansion.allArguments runner.substitution words
      else pure process.arguments
    let shownWords := Octets.join [' '] (if given then words.map shownSource else ["\"$@\"".toList])
    let shown : Work Unit := do
      if process.isExtended then
        trace runner (← errorsOpening) ("for ".toList ++ name ++ " in ".toList ++ shownWords)
    Work.setStatus 0
    looping (forEach runner flags.inner name shown body values)
  | .counted line start condition step body => do
    atLine line
    mistakesAs "((".toList do
      let _ ← calculated runner 1 start
      Work.setStatus 0
      looping (countRounds runner flags.inner condition step body maxRounds)
  | .cases line word found => do
    atLine line
    let subject ← Expansion.single runner.substitution word
    let process ← Work.process
    if process.isExtended then
      trace runner (← errorsOpening) ("case ".toList ++ shownSource word ++ " in".toList)
    Work.setStatus 0
    branches runner flags subject false found
  | .function name body => do
    Work.modify fun process => { process with functions := process.functions.insert name body }
    Work.setStatus 0
  | .calculation line expression => checked runner flags do
    atLine line
    mistakesAs "((".toList do
      Builtin.answer ((← calculated runner 0 expression) != 0)
  | .test line test => checked runner flags do
    atLine line
    mistakesAs "[[".toList do
      match ← decideTest runner test with
      | some holds => Builtin.answer holds
      | none => Work.setStatus 2
  | .timed body => do
    runner.run flags.inner body
    Work.report "\nreal\t0m0.000s\nuser\t0m0.000s\nsys\t0m0.000s"
where
  /-- A word as it is written, as far as a report shows it. -/
  shownSource (word : Word) : Octets := word.flatMap fun
    | .text true octets => if octets.all fun c => c.isAlphanum then octets
      else '"' :: octets ++ ['"']
    | .text false octets => octets
    | .parameter true (.mk name _ _) _ => "\"$".toList ++ name ++ ['"']
    | .parameter false (.mk name _ _) _ => '$' :: name
    | _ => []

/-- Carries out a command, and in front of it and behind it what is arranged for signals. -/
def run (flags : Flags) (body : Command) : Work Unit := do
  Work.takeSignals runner Work.maxSignals
  command runner flags body
  Work.takeSignals runner Work.maxSignals

end TaskRunner.Shell.Execution
