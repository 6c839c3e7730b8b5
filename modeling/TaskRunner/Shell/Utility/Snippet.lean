import TaskRunner.Shell.Snippet.Execution
/- # TaskRunner.Shell.Utility.Snippet -- the program that carries out snippets

The snippet is given with an option, is in a file, or is read from the input.  What it was called with
is known to it, and an exception that nothing takes care of ends it. -/

namespace TaskRunner.Shell.Utility
set_option autoImplicit false

/-- Where a snippet comes from, and what it is called with. -/
inductive SnippetSource where
  | text (text : Octets) (arguments : List Octets)
  | file (path : Octets) (arguments : List Octets)
  | input (arguments : List Octets)
  | version
  | module (name : Octets)
  | lacksValue (letter : Char)
  | unknown (letter : Char)

/-- What the words of a call say; letters that stand together are options of their own. -/
def SnippetSource.ofWords (fuel : Nat) (words : List Octets) : SnippetSource :=
  match fuel, words with
  | 0, _ | _, [] => .input [[]]
  | fuel + 1, word :: rest =>
    match word with
    | ['-'] => .input (word :: rest)
    | ['-', '-'] =>
      match rest with
      | path :: rest => .file path (path :: rest)
      | [] => .input [[]]
    | '-' :: '-' :: name =>
      if name == "version".toList then .version else .unknown '-'
    | '-' :: 'c' :: more =>
      match more, rest with
      | [], [] => .lacksValue 'c'
      | [], written :: rest => .text written ("-c".toList :: rest)
      | written, rest => .text written ("-c".toList :: rest)
    | '-' :: 'm' :: more =>
      match more, rest with
      | [], [] => .lacksValue 'm'
      | [], name :: _ => .module name
      | name, _ => .module name
    | '-' :: letter :: more =>
      if letter == 'V' then .version
      else if letter == 'X' || letter == 'W' then ofWords fuel (if more.isEmpty then rest.drop 1 else rest)
      else if "bBdEiIOPqRsSuvx".toList.contains letter then
        ofWords fuel (if more.isEmpty then rest else ('-' :: more) :: rest)
      else .unknown letter
    | path => .file path (path :: rest)

open Snippet in
/-- Carries out a snippet. -/
def carryOutSnippet (file : String) (text : Octets) (arguments : List Octets) : Tool Unit := do
  match Block.ofText text.decode with
  | .error fault =>
    Tool.reportAhead s!"  File \"{file}\", line {fault.line}\n{fault.kind}: {fault.problem}"
    Tool.exit 1
  | .ok block =>
    let settings := (← Tool.progress).invocation.environment.map fun (name, value) =>
      (ofOctets name, ofOctets value)
    let stream (number : Nat) (name : String) : Object :=
      .file { number, name := name.toList, reads := number == 0, writes := number != 0 }
    let heap : Heap := Std.HashMap.ofList [
      (0, stream 0 "<stdin>"), (1, stream 1 "<stdout>"), (2, stream 2 "<stderr>"),
      (3, .dict settings.toArray), (4, .list (arguments.map ofOctets).toArray)]
    let start : State := {
      heap, file, scopes := Std.HashMap.ofList [(0, {})], arguments := arguments.map (·.decode) }
    let (result, state) ← (carryOutAll maxSteps block).run.run start
    match result with
    | .ok _ | .error .leave | .error .continue | .error (.give _) => return ()
    | .error (.stop status) =>
      Tool.modify fun progress => { progress with pending := [], size := 0 }
      Tool.exit status
    | .error (.raised exception origin) =>
      let (status, text) := farewell file state.heap exception origin
      Tool.act (Action.report (Octets.ofText (String.ofList text)))
      Tool.exit status

/-- Carries out a snippet of the language. -/
def python3 (arguments : List Octets) : Tool Unit := do
  match SnippetSource.ofWords (2 * arguments.length + 50) arguments with
  | .text text arguments => carryOutSnippet "<string>" text arguments
  | .input arguments =>
    match ← Tool.contents ['-'] with
    | .ok text => carryOutSnippet "<stdin>" text arguments
    | .error _ => Tool.exit 1
  | .file path arguments =>
    match ← Tool.contents path with
    | .ok text => carryOutSnippet path.toText text arguments
    | .error cause =>
      let number := (cause.condition?.map Prod.fst).getD 0
      let place := "/" ++ "/".intercalate (← Tool.look (·.place))
      let shown := if path.head? == some '/' then path.toText else place ++ "/" ++ path.toText
      Tool.complain s!"can't open file '{shown}': [Errno {number}] {cause.wording}"
      Tool.exit 2
  | .version => Tool.putText "Python 3.12.3\n"
  | .module name =>
    Tool.reportAhead s!"/usr/bin/python3: No module named {name.toText}"
    Tool.exit 1
  | .lacksValue letter =>
    Tool.reportAhead s!"Argument expected for the -{letter} option"
    Tool.exit 2
  | .unknown letter =>
    Tool.reportAhead s!"Unknown option: -{letter}"
    Tool.exit 2

end TaskRunner.Shell.Utility
