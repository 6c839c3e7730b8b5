import Mathlib.Data.List.Forall2
import TaskRunner.Proofs.Plan.Refusal
import TaskRunner.Proofs.Project.Loading
import TaskRunner.Proofs.Variable.Substitution
/- # TaskRunner.Proofs.Project.Validation -- loading finds every mistake, and the first one first

Loading works in stages that stop early, over a draft that grows and tables that decide what a text
means.  The account given here has no stages: a Runfile has a list of all its mistakes, in an order
that the declarations alone determine (`mistakes`), and loading fails with the head of the list
(`refusal?_ofRunfile`).  The list is empty just for the Runfiles without a mistake
(`mistakes_eq_nil_iff`), so these are the ones that load, and a project made of one says what the
declarations say (`assembled_of_loaded`).

That each part of loading reports the head of its part of the list goes through a sequence by
`refusal?_bind`, since the later part is only reached where the earlier list is empty. -/

namespace TaskRunner
set_option autoImplicit false

namespace Variable

/-! ## The first error of a sequence -/

/-- A sequence reports the first of the mistakes that its parts would report. -/
theorem refusal?_bind {α β : Type} {first : Except ConfigError α}
    {rest : α → Except ConfigError β} {early late : List ConfigError}
    (here : refusal? first = early.head?)
    (there : ∀ value, first = .ok value → refusal? (rest value) = late.head?) :
    refusal? (first >>= rest) = (early ++ late).head? := by
  rw [List.head?_append, ← here]
  cases first with
  | error e => rfl
  | ok value => exact there value rfl

theorem refusal?_map {α β : Type} (f : α → β) (result : Except ConfigError α) :
    refusal? (f <$> result) = refusal? result := by
  cases result <;> rfl

theorem refusal?_forM {α : Type} (check : α → Except ConfigError Unit) (items : List α) :
    refusal? (items.forM check) = (items.filterMap fun item => refusal? (check item)).head? := by
  induction items with
  | nil => rfl
  | cons item items ih =>
    rw [← List.singleton_append, List.filterMap_append]
    refine refusal?_bind ?_ fun _ _ => ih
    cases reported : refusal? (check item) <;> simp [reported]

theorem refusal?_mapM {α β : Type} (f : α → Except ConfigError β) (items : List α) :
    refusal? (items.mapM f) = (items.filterMap fun item => refusal? (f item)).head? := by
  induction items with
  | nil => rfl
  | cons item items ih =>
    rw [List.mapM_cons, ← List.singleton_append, List.filterMap_append]
    refine refusal?_bind ?_ fun value _ => ?_
    · cases reported : refusal? (f item) <;> simp [reported]
    · exact (refusal?_map (value :: ·) (items.mapM f)).trans ih

namespace Table

/-- The mistake in a text, if a reference in it cannot be replaced. -/
def mistake? (table : Table) (text : String) : Option ConfigError :=
  refusal? (table.substitute text)

/-- The texts that stand for the values of a table, by name. -/
def valueTexts (table : Table) : List String :=
  table.names.filterMap fun name => (table.get? name).map Value.render

/-- Whether every text can have its references replaced. -/
def Sane (table : Table) (texts : List String) : Prop :=
  ∀ text ∈ texts, ∃ result, table.substitute text = .ok result

theorem filterMap_mistake?_eq_nil_iff {table : Table} {texts : List String} :
    texts.filterMap table.mistake? = [] ↔ table.Sane texts := by
  simp only [List.filterMap_eq_nil_iff, mistake?, refusal?_eq_none_iff, Sane]

/-- The names of a table are in increasing order. -/
theorem names_sorted (table : Table) : table.names.Pairwise (· < ·) := by
  refine (Std.TreeMap.ordered_keys (t := table.values)).imp fun {name other} less => ?_
  exact compareOfLessAndEq_eq_lt.1 less

end Table
end Variable

/-- The names that a Runfile declares targets under. -/
def Runfile.declared (runfile : Runfile) : List String := runfile.targets.map (·.name)

namespace Project

open Variable

/-! ## All mistakes, in order -/

/-- The value that a name ends up with: that of its last override, else that of its last
definition. -/
def finalValue (runfile : Runfile) (overrides : List Override) (name : String) : Option Value :=
  ((overrides.reverse.find? fun override => override.name = name).map
      fun override => .scalar override.value).or
    (((runfile.definitions.reverse.find? fun decl => decl.name = name).map (·.value)).or
      (if name = checkVariable then some (.scalar "") else none))

/-- The mistakes of declarations that follow targets of `earlier` names: of each its lines, then its
outputs, then its name. -/
def declarationMistakes (table : Table) : List String → List TargetDecl → List ConfigError
  | _, [] => []
  | earlier, decl :: rest =>
    (decl.recipe.filterMap table.mistake? ++ decl.outputs.filterMap table.mistake?) ++
      ((if decl.name ∈ earlier then [.duplicateTarget decl.name] else []) ++
        declarationMistakes table (earlier ++ [decl.name]) rest)

/-- The unknown prerequisites of declarations. -/
def prerequisiteMistakes (declared : List String) (decls : List TargetDecl) : List ConfigError :=
  decls.flatMap fun decl =>
    (decl.prerequisites.filter (· ∉ declared)).map (.unknownPrerequisite decl.name)

/-- The mistake of naming a default that is not declared. -/
def defaultMistakes (declared : List String) (default : Option String) : List ConfigError :=
  (default.toList.filter (· ∉ declared)).map .unknownTarget

/-- All mistakes of a Runfile under a table, the one to be reported first. -/
def mistakes (table : Table) (runfile : Runfile) : List ConfigError :=
  table.valueTexts.filterMap table.mistake? ++
    (declarationMistakes table [] runfile.targets ++
      (prerequisiteMistakes runfile.declared runfile.targets ++
        defaultMistakes runfile.declared runfile.default))

/-- A Runfile without a mistake under a table. -/
structure Valid (table : Table) (runfile : Runfile) : Prop where
  values : ∀ name value, table.get? name = some value →
    ∃ text, table.substitute value.render = .ok text
  recipes : ∀ decl ∈ runfile.targets, table.Sane decl.recipe
  outputs : ∀ decl ∈ runfile.targets, table.Sane decl.outputs
  names : runfile.declared.Nodup
  prerequisites : ∀ decl ∈ runfile.targets, ∀ name ∈ decl.prerequisites, name ∈ runfile.declared
  default : ∀ name ∈ runfile.default, name ∈ runfile.declared

/-- What a target has of its declaration. -/
structure Describes (table : Table) (decl : TargetDecl) (target : Target) : Prop where
  name : target.name = decl.name
  prerequisites : target.prerequisites = decl.prerequisites
  recipe : target.recipe = decl.recipe
  description : target.description = decl.description
  outputs : List.Forall₂ (fun text output => table.substitute text = .ok output) decl.outputs
    target.outputs
  phony : target.phony = decl.phony.getD target.outputs.isEmpty

/-- What a project has of its Runfile. -/
structure Assembled (table : Table) (runfile : Runfile) (project : Project) : Prop where
  targets : List.Forall₂ (Describes table) runfile.targets project.registry.toList
  final : project.table = table
  default : project.default = runfile.default
  defaultTarget : runfile.targets ≠ [] →
    ∃ name, project.defaultTarget = .ok name ∧ project.registry.contains name = true

variable {table : Table} {runfile : Runfile} {root : String} {overrides : List Override}

theorem get?_tableOf (name : String) :
    (tableOf runfile overrides).get? name = finalValue runfile overrides name := by
  simp only [tableOf, Table.get?_foldl_define, Table.get?_define, Table.get?_empty, finalValue,
    eq_comm]

/-! ## An empty list of mistakes -/

theorem sane_valueTexts_iff : table.Sane table.valueTexts ↔
    ∀ name value, table.get? name = some value →
      ∃ text, table.substitute value.render = .ok text := by
  constructor
  · intro sane name value found
    refine sane _ (List.mem_filterMap.2 ⟨name, ?_, by rw [found]; rfl⟩)
    rw [Table.mem_names_iff, found]
    rfl
  · intro each text member
    obtain ⟨name, -, rendered⟩ := List.mem_filterMap.1 member
    obtain ⟨value, found, rfl⟩ := Option.map_eq_some_iff.1 rendered
    exact each name value found

theorem declarationMistakes_eq_nil_iff {earlier : List String} {decls : List TargetDecl} :
    declarationMistakes table earlier decls = [] ↔
      (∀ decl ∈ decls, table.Sane decl.recipe ∧ table.Sane decl.outputs) ∧
        (decls.map (·.name)).Nodup ∧ ∀ decl ∈ decls, decl.name ∉ earlier := by
  induction decls generalizing earlier with
  | nil => simp [declarationMistakes]
  | cons decl rest ih =>
    have name_free : (if decl.name ∈ earlier then [ConfigError.duplicateTarget decl.name] else []) =
        [] ↔ decl.name ∉ earlier := by
      split <;> simp_all
    simp only [declarationMistakes, List.append_eq_nil_iff, Table.filterMap_mistake?_eq_nil_iff,
      name_free, ih, List.forall_mem_cons, List.map_cons, List.nodup_cons, List.mem_append,
      List.mem_singleton, List.mem_map, not_or, not_exists, not_and]
    constructor
    · rintro ⟨sane, free, others, distinct, fresh⟩
      exact ⟨⟨sane, others⟩, ⟨fun other member => (fresh other member).2, distinct⟩, free,
        fun other member => (fresh other member).1⟩
    · rintro ⟨⟨sane, others⟩, ⟨alone, distinct⟩, free, fresh⟩
      exact ⟨sane, free, others, distinct, fun other member =>
        ⟨fresh other member, alone other member⟩⟩

/-- A Runfile is valid if and only if it has no mistake. -/
theorem mistakes_eq_nil_iff : mistakes table runfile = [] ↔ Valid table runfile := by
  simp only [mistakes, List.append_eq_nil_iff, Table.filterMap_mistake?_eq_nil_iff,
    sane_valueTexts_iff, declarationMistakes_eq_nil_iff, prerequisiteMistakes, defaultMistakes,
    List.flatMap_eq_nil_iff, List.map_eq_nil_iff, List.filter_eq_nil_iff, decide_eq_true_eq,
    not_not, Option.mem_toList, List.not_mem_nil, not_false_eq_true, implies_true, and_true]
  constructor
  · rintro ⟨values, ⟨sane, names⟩, prerequisites, default⟩
    exact ⟨values, fun decl member => (sane decl member).1, fun decl member => (sane decl member).2,
      names, prerequisites, default⟩
  · rintro ⟨values, recipes, outputs, names, prerequisites, default⟩
    exact ⟨values, ⟨fun decl member => ⟨recipes decl member, outputs decl member⟩, names⟩,
      prerequisites, default⟩

/-! ## What each part of loading reports -/

theorem refusal?_checkValues :
    refusal? (checkValues table) = (table.valueTexts.filterMap table.mistake?).head? := by
  rw [checkValues, refusal?_forM, Table.valueTexts, List.filterMap_filterMap]
  refine congrArg List.head? (List.filterMap_congr fun name member => ?_)
  obtain ⟨value, found⟩ := Option.isSome_iff_exists.1 ((table.mem_names_iff name).1 member)
  simp only [Table.resolve, found, Option.map_some, Option.bind_some, Table.mistake?]
  exact refusal?_map (fun _ => ()) (table.substitute value.render)

theorem refusal?_substituteAll (texts : List String) :
    refusal? (table.substituteAll texts) = (texts.filterMap table.mistake?).head? :=
  refusal?_mapM table.substitute texts

theorem refusal?_target (decl : TargetDecl) : refusal? (target table decl) =
    (decl.recipe.filterMap table.mistake? ++ decl.outputs.filterMap table.mistake?).head? := by
  refine refusal?_bind (refusal?_substituteAll decl.recipe) fun _ _ => ?_
  refine (List.append_nil (decl.outputs.filterMap table.mistake?)) ▸ ?_
  exact refusal?_bind (refusal?_substituteAll decl.outputs) fun _ _ => rfl

theorem describes_of_target {decl : TargetDecl} {made : Target}
    (described : target table decl = .ok made) : Describes table decl made := by
  obtain ⟨lines, -, described⟩ := ok_of_bind described
  obtain ⟨outputs, replaced, described⟩ := ok_of_bind described
  cases described
  exact ⟨rfl, rfl, rfl, rfl, Table.forall₂_of_substituteAll replaced, rfl⟩

theorem refusal?_register (draft : Registry.Draft) (target : Target) :
    refusal? (draft.register target) =
      if draft.contains target.name then some (.duplicateTarget target.name) else none := by
  by_cases taken : draft.contains target.name = true
  · rw [if_pos taken, Registry.Draft.register_of_taken taken]
    rfl
  · obtain ⟨next, registered⟩ := Registry.Draft.register_of_free (by simpa using taken)
    rw [if_neg taken, registered]
    rfl

theorem names_of_described {decls : List TargetDecl} {targets : List Target}
    (described : List.Forall₂ (Describes table) decls targets) :
    targets.map (·.name) = decls.map (·.name) := by
  induction described with
  | nil => rfl
  | cons first _ ih => rw [List.map_cons, List.map_cons, first.name, ih]

/-- A draft that holds the targets of `done` is extended by the targets of further declarations, or
the first of their mistakes is reported. -/
theorem draft_step {draft : Registry.Draft} {done : List TargetDecl}
    (described : List.Forall₂ (Describes table) done draft.targets.toList) (decl : TargetDecl) :
    refusal? (do draft.register (← target table decl)) =
        ((decl.recipe.filterMap table.mistake? ++ decl.outputs.filterMap table.mistake?) ++
          if decl.name ∈ done.map TargetDecl.name then [ConfigError.duplicateTarget decl.name]
            else []).head? ∧
      ∀ next, (do draft.register (← target table decl)) = .ok next →
        List.Forall₂ (Describes table) (done ++ [decl]) next.targets.toList := by
  constructor
  · refine refusal?_bind (refusal?_target decl) fun made same => ?_
    have taken : draft.contains decl.name = true ↔ decl.name ∈ done.map TargetDecl.name := by
      rw [Registry.Draft.contains_iff, names_of_described described]
    simp only [refusal?_register, (describes_of_target same).name, taken]
    split <;> rfl
  · intro next added
    obtain ⟨made, same, registered⟩ := ok_of_bind added
    rw [Registry.Draft.targets_of_register registered, Array.toList_push]
    exact List.rel_append described (.cons (describes_of_target same) .nil)

theorem draft_steps {decls done : List TargetDecl} {draft : Registry.Draft}
    (described : List.Forall₂ (Describes table) done draft.targets.toList) :
    refusal? (decls.foldlM (fun draft decl => do draft.register (← target table decl)) draft) =
        (declarationMistakes table (done.map (·.name)) decls).head? ∧
      ∀ drafted,
        decls.foldlM (fun draft decl => do draft.register (← target table decl)) draft =
            .ok drafted →
          List.Forall₂ (Describes table) (done ++ decls) drafted.targets.toList := by
  induction decls generalizing done draft with
  | nil =>
    refine ⟨rfl, fun drafted same => ?_⟩
    cases same
    rwa [List.append_nil]
  | cons decl rest ih =>
    obtain ⟨reported, grown⟩ := draft_step described decl
    rw [List.foldlM_cons, declarationMistakes, ← List.append_assoc]
    constructor
    · refine refusal?_bind reported fun next added => ?_
      rw [(ih (grown next added)).1, List.map_append]
      rfl
    · intro drafted folded
      obtain ⟨next, added, folded⟩ := ok_of_bind folded
      have all := (ih (grown next added)).2 drafted folded
      rwa [List.append_assoc] at all

/-- A draft of no targets describes no declarations. -/
theorem described_empty :
    List.Forall₂ (Describes table) [] Registry.Draft.empty.targets.toList := .nil

theorem refusal?_draft (decls : List TargetDecl) :
    refusal? (draft table decls) = (declarationMistakes table [] decls).head? :=
  (draft_steps described_empty).1

theorem described_of_draft {decls : List TargetDecl} {drafted : Registry.Draft}
    (made : draft table decls = .ok drafted) :
    List.Forall₂ (Describes table) decls drafted.targets.toList :=
  (draft_steps described_empty).2 drafted made

/-- A draft becomes a registry, or the first unknown prerequisite is reported. -/
theorem refusal?_finalize {drafted : Registry.Draft} {decls : List TargetDecl}
    (described : List.Forall₂ (Describes table) decls drafted.targets.toList) :
    refusal? drafted.finalize = (prerequisiteMistakes (decls.map (·.name)) decls).head? := by
  have reported : refusal? drafted.finalize =
      drafted.missing?.map fun pair => .unknownPrerequisite pair.1 pair.2 := by
    unfold Registry.Draft.finalize
    split <;> simp_all
  have held : ∀ name, (!drafted.contains name) = decide (name ∉ decls.map (·.name)) := by
    intro name
    rw [← names_of_described described, Bool.eq_iff_iff, Bool.not_eq_true', decide_eq_true_eq,
      ← Registry.Draft.contains_iff, Bool.not_eq_true]
  rw [reported, Registry.Draft.missing?, prerequisiteMistakes]
  simp only [held]
  clear held
  generalize decls.map (·.name) = declared
  generalize drafted.targets.toList = targets at described
  induction described with
  | nil => rfl
  | cons first _ ih =>
    rw [List.flatMap_cons, List.head?_append, ← ih, List.findSome?_cons, first.prerequisites,
      List.head?_map, List.head?_filter, first.name]
    cases List.find? (fun name => decide (name ∉ declared)) _ <;> rfl

/-! ## Loading -/

/-- **Loading reports the first mistake of a Runfile**, and fails only if there is one. -/
theorem refusal?_ofRunfile :
    refusal? (ofRunfile runfile root overrides) =
      (mistakes (tableOf runfile overrides) runfile).head? := by
  refine refusal?_bind refusal?_checkValues fun _ _ => ?_
  refine refusal?_bind (refusal?_draft runfile.targets) fun drafted made => ?_
  have described := described_of_draft made
  refine refusal?_bind (refusal?_finalize described) fun registry finalized => ?_
  have declared : ∀ name, registry.contains name = true ↔ name ∈ runfile.declared := by
    intro name
    rw [Registry.Draft.toDraft_of_finalize finalized, Registry.Draft.contains_iff,
      names_of_described described]
    rfl
  cases named : runfile.default with
  | none => rfl
  | some name =>
    dsimp only
    split
    · next held => simp [defaultMistakes, (declared name).1 held]; rfl
    · next unheld =>
      have absent : name ∉ runfile.declared := fun member => unheld ((declared name).2 member)
      simp [defaultMistakes, absent]
      rfl

/-- A loaded project says what the declarations say. -/
theorem assembled_of_loaded {project : Project}
    (loaded : ofRunfile runfile root overrides = .ok project) :
    Assembled (tableOf runfile overrides) runfile project := by
  obtain ⟨drafted, made, finalized, final, default⟩ := parts_of_loaded loaded
  have targets := described_of_draft made
  rw [← Registry.Draft.toDraft_of_finalize finalized] at targets
  refine ⟨targets, final, default, fun some_declared => ?_⟩
  unfold defaultTarget
  cases named : project.default with
  | some name => exact ⟨name, rfl, project.default_declared name named⟩
  | none =>
    obtain ⟨decl, decls, listed⟩ := List.exists_cons_of_ne_nil some_declared
    rw [listed] at targets
    obtain ⟨first, others, -, -, same⟩ := List.forall₂_cons_left_iff.1 targets
    have found : project.registry.first? = some first := by
      rw [Registry.first?, ← Array.getElem?_toList, same]
      rfl
    refine ⟨first.name, by rw [found], Registry.Draft.contains_iff.2 ?_⟩
    rw [same]
    exact List.mem_cons_self

/-- **Loading is exact.**  The table that decides what a text means gives each name its last
override or definition.  Under it a Runfile loads if and only if it is valid; the project then says
what the Runfile declares; and otherwise the error is the first of all mistakes, where values come
in the increasing order of names. -/
theorem ofRunfile_exact (runfile : Runfile) (root : String) (overrides : List Override) :
    (∀ name, (tableOf runfile overrides).get? name = finalValue runfile overrides name) ∧
    (tableOf runfile overrides).names.Pairwise (· < ·) ∧
    ((∃ project, ofRunfile runfile root overrides = .ok project) ↔
      Valid (tableOf runfile overrides) runfile) ∧
    (∀ project, ofRunfile runfile root overrides = .ok project →
      Assembled (tableOf runfile overrides) runfile project) ∧
    ∀ e, ofRunfile runfile root overrides = .error e ↔
      (mistakes (tableOf runfile overrides) runfile).head? = some e := by
  refine ⟨get?_tableOf, Table.names_sorted _, ?_, fun project => assembled_of_loaded, fun e => ?_⟩
  · rw [← refusal?_eq_none_iff, refusal?_ofRunfile, List.head?_eq_none_iff, mistakes_eq_nil_iff]
  · rw [← refusal?_eq_some_iff, refusal?_ofRunfile]

end Project

namespace Small

open Project

/-- A Runfile with a reference in a recipe. -/
def runfile : Runfile where
  definitions := [⟨"SRC", .scalar "lib.c"⟩]
  targets := [
    { name := "all", prerequisites := ["lib"] },
    { name := "lib", recipe := ["cc $(SRC)"], outputs := ["lib.o"] }]

/-- The Runfile with mistakes of every kind. -/
def faulty : Runfile where
  default := some "main"
  definitions := [⟨"SRC", .scalar "lib.c"⟩]
  targets := [
    { name := "lib", prerequisites := ["gen"] },
    { name := "lib", recipe := ["$(CC) $(SRC)"], outputs := ["lib.o"] }]

theorem mistakes_runfile : mistakes (tableOf runfile []) runfile = [] := by decide +kernel

theorem mistakes_faulty : mistakes (tableOf faulty []) faulty =
    [.undefinedVariable "CC", .duplicateTarget "lib", .unknownPrerequisite "lib" "gen",
      .unknownTarget "main"] := by
  decide +kernel

/-- It loads: every reference has a value, and every prerequisite is declared. -/
theorem loads_runfile : ∃ project, Project.ofRunfile runfile "." [] = .ok project := by
  rw [← Variable.refusal?_eq_none_iff, refusal?_ofRunfile, mistakes_runfile]
  rfl

theorem ofRunfile_exact_small :
    (∃ project, ofRunfile runfile "." [] = .ok project ∧
      Assembled (tableOf runfile []) runfile project) ∧
    ofRunfile faulty "." [] = .error (.undefinedVariable "CC") := by
  obtain ⟨-, -, loads, assembled, -⟩ := ofRunfile_exact runfile "." []
  obtain ⟨-, -, -, -, refused⟩ := ofRunfile_exact faulty "." []
  obtain ⟨project, loaded⟩ := loads.2 (mistakes_eq_nil_iff.1 mistakes_runfile)
  exact ⟨⟨project, loaded, assembled project loaded⟩, (refused _).2 (by rw [mistakes_faulty]; rfl)⟩

end Small
end TaskRunner
