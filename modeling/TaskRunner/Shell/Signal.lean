import TaskRunner.Shell.Octets
/- # TaskRunner.Shell.Signal -- signals

A signal has a number and a name.  Most of them end the process that gets one, unless it has arranged
for something else; a few are passed over. -/

namespace TaskRunner.Shell.Signal
set_option autoImplicit false

/-- The signals in the order of their numbers, from one on: their names and what they mean. -/
def table : List (String × String) := [
  ("HUP", "Hangup"), ("INT", "Interrupt"), ("QUIT", "Quit"), ("ILL", "Illegal instruction"),
  ("TRAP", "Trace/breakpoint trap"), ("ABRT", "Aborted"), ("BUS", "Bus error"),
  ("FPE", "Floating point exception"), ("KILL", "Killed"), ("USR1", "User defined signal 1"),
  ("SEGV", "Segmentation fault"), ("USR2", "User defined signal 2"), ("PIPE", "Broken pipe"),
  ("ALRM", "Alarm clock"), ("TERM", "Terminated"), ("STKFLT", "Stack fault"),
  ("CHLD", "Child exited"), ("CONT", "Continued"), ("STOP", "Stopped (signal)"),
  ("TSTP", "Stopped"), ("TTIN", "Stopped (tty input)"), ("TTOU", "Stopped (tty output)"),
  ("URG", "Urgent I/O condition"), ("XCPU", "CPU time limit exceeded"),
  ("XFSZ", "File size limit exceeded"), ("VTALRM", "Virtual timer expired"),
  ("PROF", "Profiling timer expired"), ("WINCH", "Window changed"), ("IO", "I/O possible"),
  ("PWR", "Power failure"), ("SYS", "Bad system call")]

def interrupt : Nat := 2
def kill : Nat := 9
def segmentation : Nat := 11
def pipe : Nat := 13
def terminate : Nat := 15

/-- The name of a signal. -/
def name? (signal : Nat) : Option String :=
  match signal with
  | 0 => some "EXIT"
  | n + 1 => (table[n]?).map (·.1)

/-- What a signal means. -/
def meaning (signal : Nat) : String :=
  match signal with
  | 0 => "Unknown signal 0"
  | n + 1 => ((table[n]?).map (·.2)).getD s!"Unknown signal {signal}"

/-- The signal of a number or of a name, with the usual letters in front of it or without. -/
def ofText? (text : Octets) : Option Nat :=
  match Octets.natural? text with
  | some n => if n ≤ 64 then some n else none
  | none =>
    let name := Octets.toText (text.map Char.toUpper)
    let name := if name.startsWith "SIG" then (name.drop 3).toString else name
    if name == "EXIT" then some 0
    else ((table.findIdx? (·.1 == name)).map (· + 1))

/-- Whether a signal does nothing to a process that has not arranged for it. -/
def isHarmless (signal : Nat) : Bool := [17, 18, 23, 28].contains signal

/-- Whether a signal only stops a process. -/
def stops (signal : Nat) : Bool := [19, 20, 21, 22].contains signal

/-- Whether nothing can be arranged for a signal. -/
def isCertain (signal : Nat) : Bool := signal == 9 || signal == 19

end TaskRunner.Shell.Signal
