import TaskRunner.Shell.Utility.Columns
import TaskRunner.Shell.Utility.Comparison
import TaskRunner.Shell.Utility.Copying
import TaskRunner.Shell.Utility.Counting
import TaskRunner.Shell.Utility.Dump
import TaskRunner.Shell.Utility.Editing
import TaskRunner.Shell.Utility.Evaluation
import TaskRunner.Shell.Utility.Finding
import TaskRunner.Shell.Utility.Lines
import TaskRunner.Shell.Utility.Listing
import TaskRunner.Shell.Utility.Order
import TaskRunner.Shell.Utility.Records
import TaskRunner.Shell.Utility.Running
import TaskRunner.Shell.Utility.Selection
import TaskRunner.Shell.Utility.Snippet
import TaskRunner.Shell.Utility.Translation
import TaskRunner.Shell.Utility.Words
/- # TaskRunner.Shell.Utility -- the programs of the machine by name

Every program has a name, under which it is found in a directory of the machine. -/

namespace TaskRunner.Shell.Utility
set_option autoImplicit false

/-- Programs whose status is 1 if they cannot write. -/
def usual : List (String × (List Octets → Tool Unit)) := [
  ("[", test true),
  ("base32", base Alphabet.base32),
  ("base64", base Alphabet.base64),
  ("basename", basename),
  ("cat", cat),
  ("chgrp", chown),
  ("chmod", chmod),
  ("chown", chown),
  ("cksum", cksum),
  ("column", column),
  ("comm", comm),
  ("cp", cp),
  ("cut", cut),
  ("date", date),
  ("dd", dd),
  ("dirname", dirname),
  ("du", du),
  ("echo", echo),
  ("expand", expand),
  ("factor", factor),
  ("false", ending 1),
  ("find", find),
  ("fold", fold),
  ("head", head),
  ("hostname", hostname),
  ("id", userNumber),
  ("install", install),
  ("join", joinFiles),
  ("kill", killProcesses),
  ("link", ln),
  ("ln", ln),
  ("md5sum", digests Digest.md5),
  ("mkdir", mkdir),
  ("mktemp", mktemp),
  ("mv", mv),
  ("nl", nl),
  ("nproc", nproc),
  ("od", od),
  ("paste", paste),
  ("printenv", printenv),
  ("printf", printf),
  ("pwd", pwd),
  ("readlink", readlink),
  ("realpath", realpath),
  ("rev", rev),
  ("rm", rm),
  ("rmdir", rmdir),
  ("seq", seq),
  ("sha1sum", digests Digest.sha1),
  ("sha256sum", digests Digest.sha256),
  ("sha512sum", digests Digest.sha512),
  ("sleep", sleep),
  ("split", split),
  ("stat", stat),
  ("sum", sum),
  ("sync", ending 0),
  ("tac", tac),
  ("tail", tail),
  ("tee", tee),
  ("test", test false),
  ("touch", touch),
  ("tr", tr),
  ("true", ending 0),
  ("truncate", truncate),
  ("tsort", tsort),
  ("tty", tty),
  ("uname", uname),
  ("unexpand", unexpand),
  ("uniq", uniq),
  ("unlink", unlink),
  ("wc", wc),
  ("which", which),
  ("whoami", whoami),
  ("xargs", xargs),
  ("yes", yes)]

/-- A program that is another one with an option. -/
def withOption (name option : String) (utility : Utility) : Utility := fun execute invocation =>
  utility execute { invocation with
    name := name.toList, arguments := option.toList :: invocation.arguments }

/-- Programs with another status if they cannot write: those that compare, and those that become
another program. -/
def others : List (String × Utility) := [
  ("awk", Tool.toUtility awk 2),
  ("cmp", Tool.toUtility cmp 2),
  ("diff", Tool.toUtility diff 2),
  ("egrep", withOption "grep" "-E" (Tool.toUtility grep 2)),
  ("env", Tool.toUtility env 125),
  ("expr", Tool.toUtility expr 3),
  ("fgrep", withOption "grep" "-F" (Tool.toUtility grep 2)),
  ("grep", Tool.toUtility grep 2),
  ("ionice", Tool.toUtility (passOn ["c class=", "n classdata=", "t ignore"]) 125),
  ("ls", Tool.toUtility ls 2),
  ("mawk", Tool.toUtility awk 2),
  ("nice", Tool.toUtility nice 125),
  ("nohup", Tool.toUtility nohup 125),
  ("python3", Tool.toUtility python3 120),
  ("sed", Tool.toUtility sed 4),
  ("setsid", Tool.toUtility (passOn ["c ctty", "f fork", "w wait"]) 125),
  ("sort", Tool.toUtility sort 2),
  ("stdbuf", Tool.toUtility (passOn ["i input=", "o output=", "e error="]) 125),
  ("timeout", Tool.toUtility timeout 125)]

/-- The programs by name. -/
def table : List (String × Utility) :=
  (usual.map fun (name, tool) => (name, Tool.toUtility tool)) ++ others

/-- The program of a name. -/
def ofName? (name : String) : Option Utility := table.lookup name

end TaskRunner.Shell.Utility
