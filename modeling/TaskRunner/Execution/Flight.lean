import TaskRunner.Report
/- # TaskRunner.Execution.Flight -- a recipe that is being run

A recipe in flight is about to start one of its lines, is waiting for one to end, or is over.  It is
over when its last line has succeeded or when a line has failed; the lines behind a failed one are
not run.  It is over too when the command of its next line could not be printed: then it has crashed,
and neither that line nor the lines behind it are run.  `work` bounds how often a flight can be
advanced and joined. -/

namespace TaskRunner
set_option autoImplicit false

/-- How far a recipe has come. -/
inductive Progress where
  /-- The next line is to be started; `rest` comes after it. -/
  | ready (line : Nat) (command : String) (rest : List String)
  /-- A line is running; `rest` comes after it. -/
  | busy (line : Nat) (command : String) (rest : List String)
  | finished (failure : Option TargetFailure)
  /-- The command of a line could not be printed, and `error` says what became of the recipe; `rest`
  comes after the line. -/
  | crashed (line : Nat) (command : String) (rest : List String) (error : String)
  deriving DecidableEq, Repr

/-- A recipe that is being run. -/
structure Flight where
  target : String
  progress : Progress
  deriving DecidableEq, Repr

namespace Progress

/-- The progress of a recipe of which the lines from number `line` on are to be run. -/
def ofLines (line : Nat) : List String → Progress
  | [] => finished none
  | command :: rest => ready line command rest

/-- Whether a recipe is over. -/
def isFinished : Progress → Bool
  | finished _ | crashed _ _ _ _ => true
  | ready _ _ _ | busy _ _ _ => false

/-- A bound on how many steps are left. -/
def work : Progress → Nat
  | ready _ _ rest => 2 * rest.length + 3
  | busy _ _ rest => 2 * rest.length + 2
  | finished _ | crashed _ _ _ _ => 1

/-- The progress after a line of a target has ended. -/
def afterLine (target : String) (line : Nat) (command : String) (rest : List String) :
    Option LineFailure → Progress
  | none => ofLines (line + 1) rest
  | some cause => finished (some ⟨target, line, command, cause⟩)

theorem work_pos (progress : Progress) : 0 < progress.work := by
  cases progress <;> simp [work]

theorem work_afterLine (target : String) (line : Nat) (command : String) (rest : List String)
    (result : Option LineFailure) :
    (afterLine target line command rest result).work < (busy line command rest).work := by
  cases result with
  | none => cases rest <;> simp [afterLine, ofLines, work]; omega
  | some cause => simp [afterLine, work]

end Progress

/-- A bound on how many steps are left of several recipes. -/
def Flight.totalWork : List Flight → Nat
  | [] => 0
  | flight :: rest => flight.progress.work + totalWork rest

theorem Flight.totalWork_set {flights : List Flight} {i : Nat} {old new : Flight}
    (found : flights[i]? = some old) (less : new.progress.work < old.progress.work) :
    totalWork (flights.set i new) < totalWork flights := by
  induction flights generalizing i with
  | nil => simp at found
  | cons flight rest ih =>
    cases i with
    | zero =>
      simp only [List.getElem?_cons_zero, Option.some.injEq] at found
      subst found
      simp only [totalWork, List.set_cons_zero]
      omega
    | succ i =>
      simp only [List.getElem?_cons_succ] at found
      have := ih found
      simp only [totalWork, List.set_cons_succ] at *
      omega

theorem Flight.totalWork_eraseIdx {flights : List Flight} {i : Nat} {old : Flight}
    (found : flights[i]? = some old) : totalWork (flights.eraseIdx i) < totalWork flights := by
  induction flights generalizing i with
  | nil => simp at found
  | cons flight rest ih =>
    cases i with
    | zero =>
      have := flight.progress.work_pos
      simp only [totalWork, List.eraseIdx_cons_zero]
      omega
    | succ i =>
      simp only [List.getElem?_cons_succ] at found
      have := ih found
      simp only [totalWork, List.eraseIdx_cons_succ] at *
      omega

end TaskRunner
