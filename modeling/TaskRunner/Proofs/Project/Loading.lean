import TaskRunner.Project
import TaskRunner.Proofs.Execution.Completion
import TaskRunner.Proofs.Registry
/- # TaskRunner.Proofs.Project.Loading -- what a loaded project can rely on

Loading replaces the references in every recipe line once and throws the texts away.  What it is
done for shows later: a run of any plan of the project finds that its lines can be replaced
(`expands_of_loaded`). -/

namespace TaskRunner
set_option autoImplicit false

/-- Whether the references in the recipe of a target can be replaced. -/
def Target.Expands (table : Variable.Table) (target : Target) : Prop :=
  ∀ line ∈ target.recipe, ∃ text, table.substitute line = .ok text

namespace Project

variable {table : Variable.Table}

theorem expands_of_target {decl : TargetDecl} {made : Target}
    (described : target table decl = .ok made) : made.Expands table := by
  obtain ⟨lines, replaced, described⟩ := ok_of_bind described
  obtain ⟨outputs, -, described⟩ := ok_of_bind described
  cases described
  obtain ⟨same, each⟩ :=
    List.forall₂_iff_get.1 (Variable.Table.forall₂_of_substituteAll replaced)
  intro line member
  obtain ⟨i, inside, rfl⟩ := List.mem_iff_getElem.1 member
  exact ⟨_, each i inside (same ▸ inside)⟩

/-- Adding declarations to a draft keeps that all recipes in it can be replaced. -/
theorem expands_of_draft {decls : List TargetDecl} {draft drafted : Registry.Draft}
    (added : decls.foldlM (fun draft decl => do draft.register (← target table decl)) draft =
      .ok drafted)
    (old : ∀ made ∈ draft.targets, made.Expands table) :
    ∀ made ∈ drafted.targets, made.Expands table := by
  induction decls generalizing draft with
  | nil =>
    cases added
    exact old
  | cons decl rest ih =>
    rw [List.foldlM_cons] at added
    obtain ⟨next, first, added⟩ := ok_of_bind added
    obtain ⟨fresh, described, registered⟩ := ok_of_bind first
    refine ih added fun made member => ?_
    rw [Registry.Draft.targets_of_register registered, Array.mem_push] at member
    rcases member with earlier | rfl
    · exact old made earlier
    · exact expands_of_target described

variable {runfile : Runfile} {root : String} {overrides : List Override} {project : Project}

/-- The parts of a loaded project. -/
theorem parts_of_loaded (loaded : ofRunfile runfile root overrides = .ok project) :
    ∃ drafted, draft (tableOf runfile overrides) runfile.targets = .ok drafted ∧
      drafted.finalize = .ok project.registry ∧ project.table = tableOf runfile overrides ∧
        project.default = runfile.default := by
  obtain ⟨-, -, loaded⟩ := ok_of_bind loaded
  obtain ⟨drafted, made, loaded⟩ := ok_of_bind loaded
  obtain ⟨registry, finalized, loaded⟩ := ok_of_bind loaded
  refine ⟨drafted, made, ?_⟩
  split at loaded
  · next unnamed =>
    cases loaded
    exact ⟨finalized, rfl, unnamed.symm⟩
  · next named =>
    split at loaded
    · cases loaded
      exact ⟨finalized, rfl, named.symm⟩
    · cases loaded

/-- A loaded project has the root that it was loaded for. -/
theorem root_of_loaded (loaded : ofRunfile runfile root overrides = .ok project) :
    project.root = root := by
  obtain ⟨-, -, loaded⟩ := ok_of_bind loaded
  obtain ⟨drafted, -, loaded⟩ := ok_of_bind loaded
  obtain ⟨registry, -, loaded⟩ := ok_of_bind loaded
  split at loaded
  · cases loaded
    rfl
  · split at loaded
    · cases loaded
      rfl
    · cases loaded

theorem expands_of_loaded (loaded : ofRunfile runfile root overrides = .ok project)
    (options : RunOptions) (plan : Plan) :
    Scheduler.Expands ⟨project.registry, project.table, options⟩ plan := by
  obtain ⟨drafted, made, finalized, table, -⟩ := parts_of_loaded loaded
  intro name _ target found
  have all := expands_of_draft made (by simp [Registry.Draft.empty])
  rw [← Registry.Draft.toDraft_of_finalize finalized, ← table] at all
  exact all target (Registry.mem_of_get? found)

end Project
end TaskRunner
