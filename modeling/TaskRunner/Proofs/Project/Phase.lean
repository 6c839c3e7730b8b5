import TaskRunner.Proofs.Application
/- # TaskRunner.Proofs.Project.Phase -- which phase a mistake is put down to

`ConfigError.isPlanning` tells by its cause alone whether a mistake is one of planning, and causes
nearly tell the phases apart.  Loading comes upon texts, repeated names and unknown prerequisites;
planning comes upon unknown roots and cycles.  Two causes cross over.  A default that is not
declared is found while loading and has the cause of an unknown root, and that there is nothing to
run is found while planning and does not count as such.

So the classification is off for exactly two inputs: a Runfile of which nothing is wrong but its
default (`Runfile.OnlyDefaultUnknown`), and a request for the default of a Runfile without targets.
Everything else is put down to the phase that found it (`phase_exact`). -/

namespace TaskRunner
set_option autoImplicit false

namespace ConfigError

/-- Whether a mistake is reported as one of planning. -/
def ToldAsPlanning (e : ConfigError) : Prop :=
  CommandLine.problemText (.config e) = "planning failed: " ++ e.message

/-- Whether a mistake is reported as one of the configuration. -/
def ToldAsConfiguration (e : ConfigError) : Prop :=
  CommandLine.problemText (.config e) = "configuration error: " ++ e.message

theorem told_iff (e : ConfigError) :
    (e.ToldAsPlanning ↔ e.isPlanning = true) ∧ (e.ToldAsConfiguration ↔ e.isPlanning = false) := by
  cases planning : e.isPlanning <;>
    simp [ToldAsPlanning, ToldAsConfiguration, CommandLine.problemText, planning]

end ConfigError

namespace Variable.Table

/-- A text with a mistake is one of the configuration. -/
theorem isPlanning_of_mistake? {table : Table} {text : String} {e : ConfigError}
    (wrong : table.mistake? text = some e) : e.isPlanning = false := by
  obtain ⟨_, _, _, ⟨rfl, -⟩ | ⟨rfl, -⟩⟩ := blame_of_error (refusal?_eq_some_iff.1 wrong) <;> rfl

end Variable.Table

namespace Project

open Variable

variable {table : Table} {runfile : Runfile} {root : String} {overrides : List Override}
  {project : Project} {requested : List String} {e : ConfigError}

/-! ## Loading -/

theorem isPlanning_of_mem_declarationMistakes {earlier : List String} {decls : List TargetDecl}
    (member : e ∈ declarationMistakes table earlier decls) : e.isPlanning = false := by
  induction decls generalizing earlier with
  | nil => cases member
  | cons decl rest ih =>
    simp only [declarationMistakes, List.mem_append, List.mem_filterMap] at member
    rcases member with (⟨_, _, wrong⟩ | ⟨_, _, wrong⟩) | repeated | later
    · exact Table.isPlanning_of_mistake? wrong
    · exact Table.isPlanning_of_mistake? wrong
    · split at repeated
      · rw [List.mem_singleton.1 repeated]
        rfl
      · cases repeated
    · exact ih later

/-- A Runfile without a default has mistakes of the configuration only. -/
theorem isPlanning_of_mem_mistakes (unnamed : runfile.default = none)
    (member : e ∈ mistakes table runfile) : e.isPlanning = false := by
  simp only [mistakes, defaultMistakes, unnamed, List.mem_append, List.mem_filterMap] at member
  rcases member with ⟨_, _, wrong⟩ | declared | missing | impossible
  · exact Table.isPlanning_of_mistake? wrong
  · exact isPlanning_of_mem_declarationMistakes declared
  · obtain ⟨_, _, needs⟩ := List.mem_flatMap.1 missing
    obtain ⟨_, _, rfl⟩ := List.mem_map.1 needs
    rfl
  · cases impossible

/-- A default is looked at when all else is in order. -/
theorem mistakes_eq_append : mistakes table runfile =
    mistakes table { runfile with default := none } ++
      defaultMistakes runfile.declared runfile.default := by
  simp [mistakes, defaultMistakes, Runfile.declared]

end Project

/-- Whether all that is wrong with a Runfile is that its default is not declared. -/
def Runfile.OnlyDefaultUnknown (table : Variable.Table) (runfile : Runfile) : Prop :=
  Project.Valid table { runfile with default := none } ∧
    ∃ name ∈ runfile.default, name ∉ runfile.declared

namespace Project

open Variable

variable {table : Table} {runfile : Runfile} {root : String} {overrides : List Override}
  {project : Project} {requested : List String} {e : ConfigError}

/-- The default makes a mistake of planning, and nothing else does. -/
theorem isPlanning_iff_of_ofRunfile (refused : ofRunfile runfile root overrides = .error e) :
    e.isPlanning = true ↔ runfile.OnlyDefaultUnknown (tableOf runfile overrides) := by
  have first := refusal?_eq_some_iff.2 refused
  rw [refusal?_ofRunfile, mistakes_eq_append] at first
  cases others : mistakes (tableOf runfile overrides) { runfile with default := none } with
  | nil =>
    rw [others, List.nil_append] at first
    have member := List.mem_of_head? first
    obtain ⟨name, unknown, rfl⟩ := List.mem_map.1 member
    obtain ⟨named, undeclared⟩ := List.mem_filter.1 unknown
    exact iff_of_true rfl ⟨mistakes_eq_nil_iff.1 others, name, Option.mem_toList.1 named,
      of_decide_eq_true undeclared⟩
  | cons other rest =>
    rw [others] at first
    obtain rfl : other = e := Option.some.inj first
    have member : other ∈ mistakes (tableOf runfile overrides) { runfile with default := none } :=
      others ▸ List.mem_cons_self
    refine iff_of_false (by simp [isPlanning_of_mem_mistakes rfl member]) fun ⟨valid, _⟩ => ?_
    rw [mistakes_eq_nil_iff.2 valid] at others
    cases others

/-! ## Planning -/

/-- A project has no first target just if its Runfile declares none. -/
theorem first?_eq_none_iff (loaded : ofRunfile runfile root overrides = .ok project) :
    project.registry.first? = none ↔ runfile.targets = [] := by
  have same := (assembled_of_loaded loaded).targets.length_eq
  rw [Registry.first?_eq_none_iff, ← Array.toList_eq_nil_iff, ← List.length_eq_zero_iff,
    ← List.length_eq_zero_iff]
  exact same ▸ Iff.rfl

/-- Planning makes a mistake of the configuration where there is nothing to run, and nothing else
does. -/
theorem isPlanning_iff_of_plan (loaded : ofRunfile runfile root overrides = .ok project)
    (refused : project.plan requested = .error e) :
    e.isPlanning = false ↔ requested = [] ∧ runfile.targets = [] := by
  rcases error_of_bind refused with unrooted | ⟨roots, rooted, unplanned⟩
  · obtain ⟨nothing, undeclared, rfl⟩ := roots_eq_error_iff.1 unrooted
    exact iff_of_true rfl ⟨nothing, (first?_eq_none_iff loaded).1 undeclared⟩
  · have planning : e.isPlanning = true := by
      rcases Plan.refusal_of_plan unplanned with ⟨_, _, _, rfl⟩ | ⟨_, rfl⟩ <;> rfl
    refine iff_of_false (by simp [planning]) fun ⟨nothing, undeclared⟩ => ?_
    rw [roots_eq_error_iff.2 ⟨nothing, (first?_eq_none_iff loaded).2 undeclared, rfl⟩] at rooted
    cases rooted

/-- **A mistake is put down to the phase that found it, but for two inputs.**  Loading reports a
mistake of planning just for a Runfile of which only the default is wrong, and planning reports one
of the configuration just where nothing is requested of a Runfile without targets.  What the program
says of the mistake goes by the same rule. -/
theorem phase_exact (runfile : Runfile) (root : String) (overrides : List Override) :
    (∀ e, ofRunfile runfile root overrides = .error e →
      (e.isPlanning = true ↔ runfile.OnlyDefaultUnknown (tableOf runfile overrides)) ∧
        (e.ToldAsPlanning ↔ runfile.OnlyDefaultUnknown (tableOf runfile overrides))) ∧
    ∀ project, ofRunfile runfile root overrides = .ok project →
      ∀ requested e, project.plan requested = .error e →
        (e.isPlanning = false ↔ requested = [] ∧ runfile.targets = []) ∧
          (e.ToldAsConfiguration ↔ requested = [] ∧ runfile.targets = []) := by
  refine ⟨fun e refused => ?_, fun project loaded requested e refused => ?_⟩
  · have crosses := isPlanning_iff_of_ofRunfile refused
    exact ⟨crosses, e.told_iff.1.trans crosses⟩
  · have crosses := isPlanning_iff_of_plan loaded refused
    exact ⟨crosses, e.told_iff.2.trans crosses⟩

end Project

namespace Small

open Project

/-- A Runfile of which only the default is wrong. -/
def misdirected : Runfile := { runfile with default := some "main" }

theorem refused_misdirected : ofRunfile misdirected "." [] = .error (.unknownTarget "main") := by
  have mistaken : mistakes (tableOf misdirected []) misdirected = [.unknownTarget "main"] := by
    decide +kernel
  rw [← Variable.refusal?_eq_some_iff, refusal?_ofRunfile, mistaken]
  rfl

/-- The Runfile that declares nothing. -/
theorem loads_nothing : ∃ project, ofRunfile {} "." [] = .ok project ∧
    project.plan [] = .error .noTargets := by
  have fine : mistakes (tableOf {} []) {} = [] := by decide +kernel
  obtain ⟨project, loaded⟩ : ∃ project, ofRunfile {} "." [] = .ok project := by
    rw [← Variable.refusal?_eq_none_iff, refusal?_ofRunfile, fine]
    rfl
  refine ⟨project, loaded, ?_⟩
  have unrooted : project.roots [] = .error .noTargets :=
    roots_eq_error_iff.2 ⟨rfl, (first?_eq_none_iff loaded).2 rfl, rfl⟩
  rw [Project.plan, unrooted]
  rfl

theorem phase_exact_small :
    ofRunfile faulty "." [] = .error (.undefinedVariable "CC") ∧
      ¬ faulty.OnlyDefaultUnknown (tableOf faulty []) ∧
      misdirected.OnlyDefaultUnknown (tableOf misdirected []) ∧
      ∃ project, ofRunfile {} "." [] = .ok project ∧ project.plan [] = .error .noTargets ∧
        ConfigError.noTargets.ToldAsConfiguration := by
  have refused : ofRunfile faulty "." [] = .error (.undefinedVariable "CC") := by
    rw [← Variable.refusal?_eq_some_iff, refusal?_ofRunfile, mistakes_faulty]
    rfl
  obtain ⟨project, loaded, unplanned⟩ := loads_nothing
  refine ⟨refused, fun only => ?_, ?_, project, loaded, unplanned, ?_⟩
  · exact absurd (((phase_exact faulty "." []).1 _ refused).1.2 only) (by decide)
  · exact ((phase_exact misdirected "." []).1 _ refused_misdirected).1.1 rfl
  · exact (((phase_exact {} "." []).2 project loaded [] _ unplanned).2).2 ⟨rfl, rfl⟩

/-- Causes do not tell the phases apart: loading finds a mistake that counts as one of planning, and
planning finds one that does not. -/
theorem phase_crossed :
    ¬ (∀ e, ofRunfile misdirected "." [] = .error e → e.isPlanning = false) ∧
      ¬ ∀ project, ofRunfile {} "." [] = .ok project →
        ∀ e, project.plan [] = .error e → e.isPlanning = true := by
  refine ⟨fun loading => ?_, fun planning => ?_⟩
  · cases loading _ refused_misdirected
  · obtain ⟨project, loaded, unplanned⟩ := loads_nothing
    cases planning project loaded _ unplanned

end Small
end TaskRunner
