import TaskRunner.CommandLine.Arguments
import TaskRunner.Proofs.Override
import TaskRunner.Proofs.Project.Validation
/- # TaskRunner.Proofs.CommandLine.Precedence -- which of its definitions a variable has

A name can be defined in four places: by asking for a check, by an operand, by a declaration of the
Runfile, and from the start.  They are merged into one table by overwriting, over three functions.
`Resolves` says what comes of it without a table: the places are asked in the order above, and of
several operands or declarations the last one counts.

Operands with an equals sign are read as overrides in their order, so the override that counts for a
name is that of the last operand which assigns to it (`exists_last_assignment`). -/

namespace TaskRunner
set_option autoImplicit false

namespace Override

/-- An argument that gives a value to what is no name. -/
def Misnamed (argument : String) : Prop :=
  ∃ name value, Assigns argument name value ∧ ¬ Variable.Named name.toList

/-- An argument with an equals sign is refused if what it gives a value to is no name. -/
theorem refusal?_parse_eq_some_iff {argument : String} (held : '=' ∈ argument.toList)
    {e : ConfigError} : Variable.refusal? (parse argument) = some e ↔
      Misnamed argument ∧ e = .invalidOverride argument := by
  obtain ⟨name, value, assigns⟩ := exists_assigns held
  have misnamed : Misnamed argument ↔ ¬ isKey name.toList = true := by
    rw [isKey_iff]
    constructor
    · rintro ⟨other, text, assignsToo, unnamed⟩
      rwa [(assigns.unique assignsToo).1]
    · exact fun unnamed => ⟨name, value, assigns, unnamed⟩
  rw [parse_of_assigns assigns, misnamed]
  by_cases key : isKey name.toList = true
  · rw [if_pos key]
    simp [key, Variable.refusal?]
  · rw [if_neg key]
    simp [key, Variable.refusal?, eq_comm]

end Override

namespace CommandLine

open Override (Assigns Misnamed)

/-- Where a name has its value from, and what it is; the earlier of these places is asked first. -/
inductive Resolves (arguments : Arguments) (runfile : Runfile) (name : String) :
    Except ConfigError Variable.Value → Prop where
  | check (asked : arguments.has .check = true) (same : name = checkVariable) :
      Resolves arguments runfile name (.ok (.scalar "--check"))
  /-- The last operand counts. -/
  | operand {early late : List String} {operand value : String}
      (unchecked : ¬ (arguments.has .check = true ∧ name = checkVariable))
      (split : arguments.operands = early ++ operand :: late)
      (assigns : Assigns operand name value)
      (last : ∀ later ∈ late, ∀ other, ¬ Assigns later name other) :
      Resolves arguments runfile name (.ok (.scalar value))
  /-- The last declaration counts. -/
  | declaration {early late : List VariableDecl} {decl : VariableDecl}
      (unchecked : ¬ (arguments.has .check = true ∧ name = checkVariable))
      (unassigned : ∀ operand ∈ arguments.operands, ∀ value, ¬ Assigns operand name value)
      (split : runfile.definitions = early ++ decl :: late) (declares : decl.name = name)
      (last : ∀ later ∈ late, later.name ≠ name) :
      Resolves arguments runfile name (.ok decl.value)
  | initial (unchecked : arguments.has .check = false)
      (unassigned : ∀ operand ∈ arguments.operands, ∀ value, ¬ Assigns operand name value)
      (undeclared : ∀ decl ∈ runfile.definitions, decl.name ≠ name) (same : name = checkVariable) :
      Resolves arguments runfile name (.ok (.scalar ""))
  | undefined
      (unassigned : ∀ operand ∈ arguments.operands, ∀ value, ¬ Assigns operand name value)
      (undeclared : ∀ decl ∈ runfile.definitions, decl.name ≠ name)
      (different : name ≠ checkVariable) :
      Resolves arguments runfile name (.error (.undefinedVariable name))

/-! ## Operands -/

/-- The operands that are overrides. -/
def assignments (operands : List String) : List String :=
  operands.filter fun operand => operand.toList.contains '='

/-- The operands that are targets. -/
def targets (operands : List String) : List String :=
  operands.filter fun operand => !operand.toList.contains '='

/-- The override that asking for a check adds. -/
def checks (arguments : Arguments) : List Override :=
  if arguments.has .check then [⟨checkVariable, "--check"⟩] else []

theorem split_eq (arguments : Arguments) : arguments.split = (do
    let overrides ← (assignments arguments.operands).mapM Override.parse
    return (targets arguments.operands, overrides ++ checks arguments)) := rfl

/-- The first operand that is misnamed is reported. -/
theorem split_eq_error_iff {arguments : Arguments} {e : ConfigError} :
    arguments.split = .error e ↔
      ∃ early operand late, arguments.operands = early ++ operand :: late ∧
        (∀ earlier ∈ early, ¬ Misnamed earlier) ∧ Misnamed operand ∧
          e = .invalidOverride operand := by
  have reported : Variable.refusal? arguments.split =
      arguments.operands.findSome? fun operand =>
        if operand.toList.contains '=' then Variable.refusal? (Override.parse operand)
        else none := by
    have first : Variable.refusal? arguments.split =
        ((assignments arguments.operands).filterMap
          (fun operand => Variable.refusal? (Override.parse operand)) ++ []).head? :=
      Variable.refusal?_bind (Variable.refusal?_mapM Override.parse _) fun _ _ => rfl
    rw [first, List.append_nil, assignments, List.filterMap_filter, List.head?_filterMap]
  have blamed : ∀ (operand : String) (e : ConfigError),
      (if operand.toList.contains '=' then Variable.refusal? (Override.parse operand)
        else none) = some e ↔ Misnamed operand ∧ e = .invalidOverride operand := by
    intro operand e
    by_cases held : '=' ∈ operand.toList
    · rw [if_pos (by simpa using held), Override.refusal?_parse_eq_some_iff held]
    · have fine : ¬ Misnamed operand := by
        rintro ⟨name, value, assigns, -⟩
        exact held assigns.mem
      simp [held, fine]
  rw [← Variable.refusal?_eq_some_iff, reported, List.findSome?_eq_some_iff]
  constructor
  · rintro ⟨early, operand, late, split, here, before⟩
    obtain ⟨misnamed, same⟩ := (blamed operand e).1 here
    refine ⟨early, operand, late, split, fun earlier member faulty => ?_, misnamed, same⟩
    have silent := before earlier member
    rw [(blamed earlier _).2 ⟨faulty, rfl⟩] at silent
    cases silent
  · rintro ⟨early, operand, late, split, before, misnamed, same⟩
    refine ⟨early, operand, late, split, (blamed operand e).2 ⟨misnamed, same⟩, ?_⟩
    intro earlier member
    rw [Option.eq_none_iff_forall_ne_some]
    exact fun other reported => before earlier member ((blamed earlier other).1 reported).1

/-- What is read of the operands for a name is what the last operand gives it that assigns to it. -/
theorem exists_last_assignment {operands : List String} {read : List Override}
    (parsed : (assignments operands).mapM Override.parse = .ok read) (name : String) :
    (∃ early operand late value, operands = early ++ operand :: late ∧
      Assigns operand name value ∧ (∀ later ∈ late, ∀ other, ¬ Assigns later name other) ∧
        read.reverse.find? (fun override => override.name = name) = some ⟨name, value⟩) ∨
    (∀ operand ∈ operands, ∀ value, ¬ Assigns operand name value) ∧
      read.reverse.find? (fun override => override.name = name) = none := by
  induction operands generalizing read with
  | nil =>
    cases parsed
    exact .inr ⟨by simp, rfl⟩
  | cons operand rest ih =>
    by_cases held : '=' ∈ operand.toList
    · have front : assignments (operand :: rest) = operand :: assignments rest :=
        List.filter_cons_of_pos (by simpa using held)
      rw [front, List.mapM_cons] at parsed
      obtain ⟨override, first, parsed⟩ := ok_of_bind parsed
      obtain ⟨others, following, parsed⟩ := ok_of_bind parsed
      cases parsed
      rw [List.reverse_cons, List.find?_append]
      rcases ih following with ⟨early, later, late, value, rfl, assigns, last, found⟩ |
        ⟨unassigned, found⟩
      · exact .inl ⟨operand :: early, later, late, value, rfl, assigns, last, by rw [found]; rfl⟩
      · obtain ⟨assigns, -⟩ := Override.parse_eq_ok_iff.1 first
        rw [found]
        by_cases same : override.name = name
        · obtain rfl := same
          exact .inl ⟨[], operand, rest, override.value, rfl, assigns, unassigned, by simp⟩
        · refine .inr ⟨List.forall_mem_cons.2 ⟨fun value mine => ?_, unassigned⟩, by simp [same]⟩
          exact same (assigns.unique mine).1
    · have front : assignments (operand :: rest) = assignments rest :=
        List.filter_cons_of_neg (by simpa using held)
      rw [front] at parsed
      have silent : ∀ value, ¬ Assigns operand name value := fun value mine => held mine.mem
      rcases ih parsed with ⟨early, later, late, value, rfl, assigns, last, found⟩ |
        ⟨unassigned, found⟩
      · exact .inl ⟨operand :: early, later, late, value, rfl, assigns, last, found⟩
      · exact .inr ⟨List.forall_mem_cons.2 ⟨silent, unassigned⟩, found⟩

/-! ## The table -/

section Table

open Project (finalValue tableOf)

variable {arguments : Arguments} {runfile : Runfile} {read : List Override} {name : String}

/-- What asking for a check adds bears on one name alone. -/
theorem find?_checks (unchecked : ¬ (arguments.has .check = true ∧ name = checkVariable)) :
    (read ++ checks arguments).reverse.find? (fun override => override.name = name) =
      read.reverse.find? fun override => override.name = name := by
  unfold checks
  by_cases asked : arguments.has .check = true
  · have different : checkVariable ≠ name := fun same => unchecked ⟨asked, same.symm⟩
    simp [asked, different]
  · simp [asked]

/-- A table that was made of the overrides of operands gives each name what the places say. -/
theorem resolves_of_read
    (parsed : (assignments arguments.operands).mapM Override.parse = .ok read) :
    Resolves arguments runfile name
      ((tableOf runfile (read ++ checks arguments)).resolve name) := by
  rw [Variable.Table.resolve, Project.get?_tableOf, finalValue]
  by_cases checked : arguments.has .check = true ∧ name = checkVariable
  · obtain ⟨asked, rfl⟩ := checked
    have front : (read ++ checks arguments).reverse.find?
        (fun override => override.name = checkVariable) = some ⟨checkVariable, "--check"⟩ := by
      simp [checks, asked]
    rw [front]
    exact .check asked rfl
  rw [find?_checks checked]
  rcases exists_last_assignment parsed name with
    ⟨early, operand, late, value, split, assigns, last, found⟩ | ⟨unassigned, found⟩
  · rw [found]
    exact .operand checked split assigns last
  rw [found]
  cases declared : runfile.definitions.reverse.find? fun decl => decl.name = name with
  | some decl =>
    obtain ⟨mine, after, before, split, others⟩ := List.find?_eq_some_iff_append.1 declared
    have split : runfile.definitions = before.reverse ++ decl :: after.reverse := by
      simpa using congrArg List.reverse split
    refine .declaration checked unassigned split (by simpa using mine) fun later member => ?_
    simpa using others later (List.mem_reverse.1 member)
  | none =>
    have undeclared : ∀ decl ∈ runfile.definitions, decl.name ≠ name := by
      intro decl member
      simpa using List.find?_eq_none.1 declared decl (List.mem_reverse.2 member)
    by_cases same : name = checkVariable
    · have unasked : arguments.has .check = false := by
        simpa [same] using checked
      subst same
      exact .initial unasked unassigned undeclared rfl
    · simp only [if_neg same]
      exact .undefined unassigned undeclared same

end Table

/-- **Which definition a variable has.**  The operands are refused for the first that gives a value
to what is no name, and otherwise the targets are those without an equals sign, in order.  In every
project that is then loaded each name resolves to what the first of its places says. -/
theorem split_then_resolves (arguments : Arguments) (runfile : Runfile) (root : String) :
    (∀ e, arguments.split = .error e ↔
      ∃ early operand late, arguments.operands = early ++ operand :: late ∧
        (∀ earlier ∈ early, ¬ Misnamed earlier) ∧ Misnamed operand ∧
          e = .invalidOverride operand) ∧
    ∀ targets overrides, arguments.split = .ok (targets, overrides) →
      targets = arguments.operands.filter (fun operand => '=' ∉ operand.toList) ∧
        ∀ project, Project.ofRunfile runfile root overrides = .ok project →
          ∀ name, Resolves arguments runfile name (project.table.resolve name) := by
  refine ⟨fun e => split_eq_error_iff, fun found overrides divided => ?_⟩
  rw [split_eq] at divided
  obtain ⟨read, parsed, divided⟩ := ok_of_bind divided
  cases divided
  refine ⟨?_, fun project loaded name => ?_⟩
  · refine List.filter_congr fun operand _ => ?_
    by_cases held : '=' ∈ operand.toList <;> simp [held]
  · rw [(Project.assembled_of_loaded loaded).final]
    exact resolves_of_read parsed

/-- Operands that give a variable a value twice, and one to the variable that a check defines. -/
def repeated : Arguments where
  operands := ["all", "SRC=a.c", "SRC=b.c", "CHECK=no"]
  flags := [.check]

def overrides : List Override := [
  ⟨"SRC", "a.c"⟩, ⟨"SRC", "b.c"⟩, ⟨"CHECK", "no"⟩, ⟨"CHECK", "--check"⟩]

theorem split_then_resolves_small :
    (∃ project, repeated.split = .ok (["all"], overrides) ∧
      Project.ofRunfile Small.runfile "." overrides = .ok project ∧
      ∀ name, Resolves repeated Small.runfile name (project.table.resolve name)) ∧
    ({ operands := ["all", "9X=1"] } : Arguments).split = .error (.invalidOverride "9X=1") := by
  obtain ⟨-, resolves⟩ := split_then_resolves repeated Small.runfile "."
  obtain ⟨refused, -⟩ := split_then_resolves { operands := ["all", "9X=1"] } Small.runfile "."
  have divided : repeated.split = .ok (["all"], overrides) := by decide +kernel
  have sound : Project.mistakes (Project.tableOf Small.runfile overrides) Small.runfile = [] := by
    decide +kernel
  obtain ⟨project, loaded⟩ :
      ∃ project, Project.ofRunfile Small.runfile "." overrides = .ok project := by
    rw [← Variable.refusal?_eq_none_iff, Project.refusal?_ofRunfile, sound]
    rfl
  refine ⟨⟨project, divided, loaded, (resolves _ _ divided).2 project loaded⟩, ?_⟩
  refine (refused _).2 ⟨["all"], "9X=1", [], rfl, ?_, ⟨"9X", "1", ⟨rfl, by decide⟩, ?_⟩, rfl⟩
  · intro earlier member
    obtain rfl := List.mem_singleton.1 member
    rintro ⟨name, value, assigns, -⟩
    exact absurd assigns.mem (by decide)
  · rw [← Override.isKey_iff]
    decide

end CommandLine
end TaskRunner
