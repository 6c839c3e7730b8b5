import TaskRunner.Shell.Tool.Count
import TaskRunner.Shell.Tool.Options
/- # TaskRunner.Shell.Utility.Lines -- programs that show files

These programs write files as they are, or some of their lines, in order or from the last to the
first, with or without numbers. -/

namespace TaskRunner.Shell.Utility
set_option autoImplicit false

/-! ## Whole files -/

/-- How octets that cannot be seen are shown. -/
def visible (showsTabs : Bool) (c : Char) : Octets :=
  let low (n : Nat) : Octets :=
    if n < 32 then ['^', Char.ofNat (n + 64)] else if n == 127 then ['^', '?'] else [Char.ofNat n]
  if c == '\t' && !showsTabs then [c]
  else if c.toNat < 128 then low c.toNat
  else 'M' :: '-' :: low (c.toNat - 128)

/-- What lines look like. -/
structure LineStyle where
  numbers : Bool := false
  numbersFilled : Bool := false
  ends : Bool := false
  tabs : Bool := false
  controls : Bool := false
  squeezes : Bool := false

namespace LineStyle

def isPlain (style : LineStyle) : Bool :=
  !(style.numbers || style.numbersFilled || style.ends || style.tabs || style.controls ||
    style.squeezes)

/-- A line in a style. -/
def text (style : LineStyle) (line : Octets) : Octets :=
  if style.controls then line.flatMap (visible style.tabs)
  else if style.tabs then line.flatMap fun c => if c == '\t' then ['^', 'I'] else [c]
  else line

end LineStyle

/-- Where in a row of files a program is: the number of the last line, how many empty lines came
last, and whether a line has begun. -/
structure LinePlace where
  number : Nat := 0
  blanks : Nat := 0
  begun : Bool := false

/-- Writes the next line, or the next part of it. -/
def showLine (style : LineStyle) (place : LinePlace) (line : Octets) (ended : Bool) :
    Tool LinePlace := do
  let isBlank := line.isEmpty && !place.begun && ended
  let blanks := if isBlank then place.blanks + 1 else 0
  if style.squeezes && blanks > 1 then return { place with blanks }
  else
    let isCounted := !place.begun && (style.numbers && !style.numbersFilled ||
      style.numbersFilled && !isBlank)
    let number := if isCounted then place.number + 1 else place.number
    let lead := if isCounted then Octets.padStart 6 (Octets.ofNat number) ++ ['\t'] else []
    let ending := if !ended then [] else if style.ends then ['$', '\n'] else ['\n']
    Tool.put (lead ++ style.text line ++ ending)
    return { number, blanks, begun := !ended }

/-- Copies what can be read. -/
def copyBlocks (number : Nat) (fuel : Nat) : Tool (Except FileError Unit) :=
  match fuel with
  | 0 => return .ok ()
  | fuel + 1 => do
    match ← Tool.block number with
    | .error cause => return .error cause
    | .ok [] => return .ok ()
    | .ok octets =>
      Tool.put octets
      Tool.flush
      copyBlocks number fuel

/-- Whether what is read is a part of the file that is written, behind the place of reading. -/
def feedsItself (number : Nat) (machine : Machine) : Bool :=
  match machine.opening? number, machine.opening? 1 with
  | some (_, { channel := .node source, offset, .. }),
    some (_, { channel := .node target, offset := written, appends, .. }) =>
    let size := (((machine.files.nodes[target]?).bind Node.bytes?).map ByteArray.size).getD 0
    source == target && offset < (if appends then size else written)
  | _, _ => false

def cat (arguments : List Octets) : Tool Unit := do
  let found ← Options.ofWords
    ["A show-all", "b number-nonblank", "e", "E show-ends", "n number", "s squeeze-blank", "t",
      "T show-tabs", "u", "v show-nonprinting"] arguments
  let has (keys : List String) : Bool := keys.any found.has
  let style : LineStyle := {
    numbers := has ["n"], numbersFilled := has ["b"], ends := has ["A", "e", "E"]
    tabs := has ["A", "t", "T"], controls := has ["A", "e", "t", "v"], squeezes := has ["s"] }
  let paths := if found.operands.isEmpty then [['-']] else found.operands
  let mut place : LinePlace := {}
  for path in paths do
    match ← Tool.openInput path with
    | .error cause => Tool.blameFile 1 path cause
    | .ok number =>
      if ← Tool.look (feedsItself number) then
        Tool.blame 1 s!"{Tool.shown path}: input file is output file"
      else if style.isPlain then
        match ← copyBlocks number Action.maxBlocks with
        | .ok _ => pure ()
        | .error cause => Tool.blameFile 1 path cause
      else
        let result ← Tool.foldLines number '\n'
          (fun place line ended => do return (← showLine style place line ended, true))
          Tool.maxSteps place
        match result with
        | .ok (after, _) => place := after
        | .error cause => Tool.blameFile 1 path cause
      Tool.closeInput number

/-- The parts of a text up to each delimiter, with the delimiter. -/
def partsOf (delimiter : Char) (text : Octets) : List Octets :=
  let (found, last) := text.foldr
    (fun c (state : List Octets × Octets) =>
      if c == delimiter then
        (if state.2.isEmpty && state.1.isEmpty then [] else state.2 :: state.1, [c])
      else (state.1, c :: state.2))
    ([], [])
  if last.isEmpty then found else last :: found

/-- Writes lines from the last to the first. -/
def tac (arguments : List Octets) : Tool Unit := do
  let found ← Options.ofWords ["b before", "r regex", "s separator="] arguments
  let delimiter := ((found.value? "s").bind List.head?).getD '\n'
  let paths := if found.operands.isEmpty then [['-']] else found.operands
  for path in paths do
    match ← Tool.contents path with
    | .ok text => Tool.put (partsOf delimiter text).reverse.flatten
    | .error cause =>
      if cause == .isDirectory then Tool.blame 1 s!"{Tool.shown path}: read error: {cause.wording}"
      else
        Tool.blame 1 s!"failed to open {Tool.quoted path} for reading: {cause.wording}"

/-- Writes each line from its end to its beginning. -/
def rev (arguments : List Octets) : Tool Unit := do
  let found ← Options.ofWords ["0 zero"] arguments
  let paths := if found.operands.isEmpty then [['-']] else found.operands
  for path in paths do
    match ← Tool.contents path with
    | .ok text =>
      for part in partsOf '\n' text do
        let line := part.filter (· != '\n')
        Tool.put (line.reverse ++ part.drop line.length)
    | .error cause => Tool.blame 1 s!"cannot open {Octets.toText path}: {cause.wording}"

/-- Writes the input to files and to the output. -/
def tee (arguments : List Octets) : Tool Unit := do
  let found ← Options.ofWords
    ["a append", "i ignore-interrupts", "p output-error?"] arguments
  let mode := if found.has "a" then Machine.Mode.append else Machine.Mode.output
  let mut targets : List (Octets × Nat) := []
  for path in found.operands do
    match ← Tool.act (Action.openFile path mode) with
    | .error cause => Tool.blameFile 1 path cause
    | .ok opening =>
      let number ← Tool.look Action.freeNumber
      Tool.change (·.setDescriptor number opening)
      targets := targets ++ [(path, number)]
  copy targets Action.maxBlocks
where
  copy (targets : List (Octets × Nat)) (fuel : Nat) : Tool Unit :=
    match fuel with
    | 0 => return ()
    | fuel + 1 => do
      match ← Tool.block 0 with
      | .error cause => Tool.blame 1 s!"read error: {cause.wording}"
      | .ok [] => return ()
      | .ok octets =>
        Tool.put octets
        Tool.flush
        for (path, number) in targets do
          match ← Tool.act (Action.write number octets) with
          | .ok _ => pure ()
          | .error cause => Tool.blameFile 1 path cause
        copy targets fuel

/-! ## Numbers in front of lines -/

/-- Writes lines with numbers in front of those that have something on them. -/
def nl (arguments : List Octets) : Tool Unit := do
  let found ← Options.ofWords
    ["b body-numbering=", "d section-delimiter=", "f footer-numbering=", "h header-numbering=",
      "i line-increment=", "l join-blank-lines=", "n number-format=", "p no-renumber",
      "s number-separator=", "v starting-line-number=", "w number-width="] arguments
  let style := (found.value? "b").getD ['t']
  let number (key : String) (usual : Nat) : Nat :=
    ((found.value? key).bind Octets.natural?).getD usual
  let width := number "w" 6
  let separator := (found.value? "s").getD ['\t']
  let form := (found.value? "n").getD ['r', 'n']
  let shown (n : Nat) : Octets :=
    let digits := Octets.ofNat n
    if form == ['l', 'n'] then Octets.padEnd width digits
    else Octets.padStart width digits (if form == ['r', 'z'] then '0' else ' ')
  let isCounted (line : Octets) : Bool :=
    style == ['a'] || (style == ['t'] && !line.isEmpty)
  let paths := if found.operands.isEmpty then [['-']] else found.operands
  let mut next := number "v" 1
  for path in paths do
    match ← Tool.openInput path with
    | .error cause => Tool.blameFile 1 path cause
    | .ok input =>
      let result ← Tool.foldLines input '\n'
        (fun (next : Nat) line _ => do
          if isCounted line then
            Tool.putLine (shown next ++ separator ++ line)
            return (next + number "i" 1, true)
          else
            Tool.putLine (List.replicate (width + separator.length) ' ' ++ line)
            return (next, true))
        Tool.maxSteps next
      match result with
      | .ok (after, _) => next := after
      | .error cause => Tool.blameFile 1 path cause
      Tool.closeInput input

/-! ## Beginnings and ends -/

/-- Which part of a file is shown. -/
structure Extent where
  count : Nat := 10
  /-- Whether octets are counted and not lines. -/
  octets : Bool := false
  /-- Whether the count says how much is left out, and not how much is shown. -/
  leavesOut : Bool := false
  delimiter : Char := '\n'

/-- Writes the title of a file among several. -/
def putTitle (isFirst : Bool) (path : Octets) : Tool Unit := do
  let shown := if path == ['-'] then "standard input".toList else path
  Tool.put ((if isFirst then [] else ['\n']) ++ "==> ".toList ++ shown ++ " <==\n".toList)

/-- The name of a file in a complaint. -/
def readable (path : Octets) : String :=
  Tool.quoted (if path == ['-'] then "standard input".toList else path)

/-- Copies as many octets as there are, at most so many. -/
def copyOctets (number : Nat) (fuel : Nat) (count : Nat) : Tool (Except FileError Unit) :=
  match fuel with
  | 0 => return .ok ()
  | fuel + 1 => do
    if count == 0 then return .ok ()
    else
      match ← Tool.block number with
      | .error cause => return .error cause
      | .ok [] => return .ok ()
      | .ok octets =>
        Tool.put (octets.take count)
        let rest := octets.drop count
        if !rest.isEmpty then Tool.setUnread number { octets := rest }
        copyOctets number fuel (count - octets.length)

/-- Writes the beginning of what can be read. -/
def putBeginning (extent : Extent) (number : Nat) : Tool (Except FileError Unit) := do
  if extent.leavesOut then
    match ← Tool.rest number with
    | .error cause => return .error cause
    | .ok text =>
      if extent.octets then Tool.put (text.take (text.length - extent.count))
      else
        let parts := partsOf extent.delimiter text
        Tool.put (parts.take (parts.length - extent.count)).flatten
      return .ok ()
  else
    let result ← if extent.octets then copyOctets number Action.maxBlocks extent.count
      else if extent.count == 0 then pure (.ok ())
      else do
        let result ← Tool.foldLines number extent.delimiter
          (fun (left : Nat) line ended => do
            Tool.put (if ended then line ++ [extent.delimiter] else line)
            return (left - 1, left > 1))
          Tool.maxSteps extent.count
        pure (result.map fun _ => ())
    Tool.giveBack number
    return result

/-- Writes the end of what can be read. -/
def putEnd (extent : Extent) (number : Nat) : Tool (Except FileError Unit) := do
  match ← Tool.rest number with
  | .error cause => return .error cause
  | .ok text =>
    if extent.octets then
      let dropped := if extent.leavesOut then extent.count - 1 else text.length - extent.count
      Tool.put (text.drop dropped)
    else
      let parts := partsOf extent.delimiter text
      let dropped := if extent.leavesOut then extent.count - 1 else parts.length - extent.count
      Tool.put (parts.drop dropped).flatten
    return .ok ()

/-- The extent that an option gives, where `sign` in front of the number turns its sense. -/
def extentOf (sign : Char) (found : Options.Found) : Tool Extent := do
  let delimiter := if found.has "z" then '\x00' else '\n'
  match found.last? ["n", "c"] with
  | none => return { delimiter }
  | some (key, text) =>
    let octets := key == "c"
    let leavesOut := text.head? == some sign
    let digits := if leavesOut || text.head? == some '-' || text.head? == some '+' then text.drop 1
      else text
    match Count.ofText? digits with
    | some count => return { count, octets, leavesOut, delimiter }
    | none =>
      let what := if octets then "bytes" else "lines"
      let shown := if leavesOut && sign == '-' then digits else text
      Tool.fail 1 s!"invalid number of {what}: {Tool.quoted shown}"

/-- An old way to write a count: as an option by itself, with letters behind it. -/
def oldCount (arguments : List Octets) : List Octets :=
  match arguments with
  | ('-' :: c :: rest) :: others =>
    if c.isDigit then
      let digits := (c :: rest).takeWhile Char.isDigit
      let letters := (c :: rest).drop digits.length
      let key := if letters.contains 'c' then "-c".toList else "-n".toList
      let more := letters.filter fun c => c == 'q' || c == 'v' || c == 'z'
      (key :: digits :: if more.isEmpty then [] else [('-' :: more)]) ++ others
    else arguments
  | _ => arguments

/-- Shows a part of each file. -/
def showParts (sign : Char) (show_ : Extent → Nat → Tool (Except FileError Unit))
    (arguments : List Octets) : Tool Unit := do
  let found ← Options.ofWords
    ["n lines=", "c bytes=", "q quiet silent", "v verbose", "z zero-terminated", "f follow?", "F",
      "s sleep-interval=", "pid="] (oldCount arguments)
  let extent ← extentOf sign found
  let paths := if found.operands.isEmpty then [['-']] else found.operands
  let titled := match found.last? ["q", "v"] with
    | some (key, _) => key == "v"
    | none => paths.length > 1
  let mut isFirst := true
  for path in paths do
    match ← Tool.openInput path with
    | .error cause =>
      Tool.blame 1 s!"cannot open {readable path} for reading: {cause.wording}"
    | .ok number =>
      if titled then putTitle isFirst path
      isFirst := false
      match ← show_ extent number with
      | .ok _ => pure ()
      | .error cause => Tool.blame 1 s!"error reading {readable path}: {cause.wording}"
      Tool.closeInput number

def head : List Octets → Tool Unit := showParts '-' putBeginning

def tail : List Octets → Tool Unit := showParts '+' putEnd

end TaskRunner.Shell.Utility
