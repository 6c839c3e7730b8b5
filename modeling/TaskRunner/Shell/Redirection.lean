import TaskRunner.Shell.Expansion
/- # TaskRunner.Shell.Redirection -- where the streams of a command lead

The targets of all redirections of a command are expanded first; then the files are opened, from left
to right, until one of them cannot be.  Afterwards everything is as it was, unless a command keeps
its redirections. -/

namespace TaskRunner.Shell.Redirection
set_option autoImplicit false

/-- A redirection whose target is expanded. -/
structure Prepared where
  stream : Nat
  holder : Octets
  kind : RedirectKind
  /-- The target, which must be one text. -/
  targets : List Octets

/-- Expands the targets of redirections. -/
def prepare (substitution : Substitution) (redirects : List Redirect) :
    Work (List Prepared) := do
  let process ← Work.process
  redirects.mapM fun redirect => do
    match redirect with
    | .mk stream holder kind target =>
      let isFile := match kind with
        | .document | .text => false
        | _ => true
      let targets ← if isFile && process.isExtended then Expansion.arguments substitution target
        else do pure [← Expansion.single substitution target]
      if kind matches .copy _ then
        match process.isExtended, targets with
        | false, [text] =>
          if text != ['-'] && !(text.length == 1 && text.all Char.isDigit) then
            Work.abort "Syntax error: Bad fd number"
        | _, _ => pure ()
      return { stream, holder, kind, targets }

/-- A file that cannot be opened for reading. -/
def cannotOpen (process : Process) (path : Octets) (cause : FileError) : String :=
  if process.isExtended then s!"{path.toText}: {cause.wording}"
  else
    let wording := match cause with
      | .notFound | .notDirectory => "No such file"
      | cause => cause.wording
    s!"cannot open {path.toText}: {wording}"

/-- A file that cannot be opened for writing. -/
def cannotCreate (process : Process) (path : Octets) (cause : FileError) : String :=
  if process.isExtended then
    let wording := if cause == .alreadyThere then "cannot overwrite existing file"
      else cause.wording
    s!"{path.toText}: {wording}"
  else
    let wording := match cause with
      | .notFound | .notDirectory => "Directory nonexistent"
      | cause => cause.wording
    s!"cannot create {path.toText}: {wording}"

/-- How a file is opened that is not to be overwritten. -/
def guardedMode (machine : Machine) (path : Octets) : Machine.Mode :=
  if machine.files.doesExist machine.place path.toText then { Machine.Mode.output with
    empties := false, exclusive := true }
  else Machine.Mode.output

/-- Puts an opening under the number of a redirection, or under one that a variable gets. -/
def connect (prepared : Prepared) (opening : Nat) : Work Unit := do
  if prepared.holder.isEmpty then Work.change (·.setDescriptor prepared.stream opening)
  else
    let number ← Work.look Action.freeNumber
    Work.change (·.setDescriptor number opening)
    Work.modify (·.set prepared.holder (Octets.ofNat number))

/-- Opens a file for a redirection; the flag says whether that was possible. -/
def openFor (prepared : Prepared) (path : Octets) (mode : Machine.Mode) : Work Bool := do
  match ← Work.act (Action.openFile path mode) with
  | .ok opening =>
    connect prepared opening
    return true
  | .error cause =>
    let process ← Work.process
    Work.complain (if mode.writes && !mode.reads then cannotCreate process path cause
      else if mode.reads && !mode.writes then cannotOpen process path cause
      else if process.isExtended then cannotOpen process path cause
      else cannotCreate process path cause)
    return false

/-- Reports a target that is not one text. -/
def ambiguous (text : Octets) : Work Bool := do
  Work.complain s!"{text.toText}: ambiguous redirect"
  return false

/-- Opens what leads a stream where another one leads. -/
def copy (prepared : Prepared) (text : Octets) : Work Bool := do
  if text == ['-'] then
    Work.change (·.close prepared.stream)
    return true
  else
    let (digits, moves) := if text.getLast? == some '-' then (text.dropLast, true) else (text, false)
    match Octets.natural? digits with
    | none => ambiguous text
    | some number =>
      match ← Work.look (·.opening? number) with
      | some (opening, _) =>
        connect prepared opening
        if moves then Work.change (·.close number)
        return true
      | none =>
        Work.complain s!"{Octets.toText digits}: {FileError.badDescriptor.wording}"
        return false

/-- Carries out a redirection; the flag says whether that was possible. -/
def applyOne (prepared : Prepared) : Work Bool := do
  let process ← Work.process
  match prepared.targets with
  | [text] =>
    let output (keep : Bool) (prepared : Prepared) : Work Bool := do
      let mode ← if keep then pure Machine.Mode.append
        else if process.has "noclobber" && prepared.kind != .overwrite then
          Work.look fun machine => guardedMode machine text
        else pure Machine.Mode.output
      openFor prepared text mode
    let both (keep : Bool) : Work Bool := do
      if ← output keep { prepared with stream := 1 } then
        copy { prepared with stream := 2 } ['1']
      else return false
    match prepared.kind with
    | .input => openFor prepared text .input
    | .both => openFor prepared text .both
    | .output | .overwrite => output false prepared
    | .append => output true prepared
    | .document =>
      connect prepared (← Work.act (Action.update (·.newSource text)))
      return true
    | .text =>
      connect prepared (← Work.act (Action.update (·.newSource (text ++ ['\n']))))
      return true
    | .all keep => both keep
    | .copy reads =>
      let isNumber := text == ['-'] || (Octets.natural? text).isSome ||
        (text.getLast? == some '-' && (Octets.natural? text.dropLast).isSome)
      if isNumber then copy prepared text
      else if !reads && prepared.stream == 1 then both false
      else ambiguous text
  | targets => ambiguous (targets.head?.getD [])

/-- Carries out redirections; the flag says whether that was possible. -/
def apply : List Prepared → Work Bool
  | [] => return true
  | one :: rest => do if ← applyOne one then apply rest else return false

/-- The numbers of the streams that are redirected. -/
def streams (prepared : List Prepared) : List Nat :=
  prepared.flatMap fun one =>
    match one.kind with
    | .all _ => [1, 2]
    | .copy false => if one.stream == 1 then [1, 2] else [one.stream]
    | _ => if one.holder.isEmpty then [one.stream] else []

/-- The status of a command whose redirections are not possible. -/
def failureStatus (process : Process) : Nat := if process.isExtended then 1 else 2

/-- Carries out work with streams redirected, or something else where that is not possible.  All is
undone afterwards. -/
def around (prepared : List Prepared) (failed work : Work Unit) : Work Unit := do
  if prepared.isEmpty then work
  else
    let numbers := streams prepared
    Work.change (·.save numbers)
    if ← apply prepared then
      let result ← Work.attempt work
      Work.change (·.restore numbers)
      Work.resume result
    else
      Work.change (·.restore numbers)
      Work.setStatus (failureStatus (← Work.process))
      failed

end TaskRunner.Shell.Redirection
