import TaskRunner.Registry
/- # TaskRunner.Plan -- what to run, prerequisites first

A plan lists every target that the requested ones need, each once and after all of its
prerequisites.  It is the order in which a depth-first walk along prerequisites, taken from left to
right, leaves the targets; the walks from several roots share their marks.

The walk keeps a stack of the targets that it is inside, each with the prerequisites still to be
looked at.  A target is marked `active` while it is on the stack and `done` when it has left it.
Meeting an active target means that the stack from that target upwards is a cycle.  Every step marks
a target that had no mark or leaves less to look at, so the walk ends, on cyclic registries too. -/

namespace TaskRunner
set_option autoImplicit false

/-- The names of targets in the order in which they are to run. -/
structure Plan where
  targets : List String
  deriving DecidableEq, Repr, Inhabited

namespace Plan

/-- How far the walk has come with a target. -/
inductive Mark where
  | active
  | done
  deriving DecidableEq, Repr

abbrev Marks := Std.HashMap String Mark

/-- A target that the walk is inside, with the prerequisites it has not looked at. -/
structure Frame where
  name : String
  pending : List String

/-- What is left to look at on a stack. -/
def workLeft : List Frame → Nat
  | [] => 0
  | frame :: rest => frame.pending.length + 1 + workLeft rest

/-- How many targets the walk has not met. -/
def unmet (registry : Registry) (marks : Marks) : Nat :=
  registry.targets.toList.countP (!marks.contains ·.name)

theorem unmet_insert_le (registry : Registry) (marks : Marks) (name : String) (mark : Mark) :
    unmet registry (marks.insert name mark) ≤ unmet registry marks := by
  refine List.countP_mono_left fun target _ h => ?_
  simp only [Std.HashMap.contains_insert, Bool.not_or, Bool.and_eq_true] at h
  exact h.2

theorem unmet_insert_lt {registry : Registry} {marks : Marks} {target : Target} (mark : Mark)
    (member : target ∈ registry.targets) (fresh : marks.contains target.name = false) :
    unmet registry (marks.insert target.name mark) < unmet registry marks := by
  unfold unmet
  obtain ⟨before, after, split⟩ := List.append_of_mem (Array.mem_def.1 member)
  rw [split, List.countP_append, List.countP_append, List.countP_cons, List.countP_cons]
  have keep : ∀ targets : List Target,
      targets.countP (!(marks.insert target.name mark).contains ·.name) ≤
        targets.countP (!marks.contains ·.name) := fun targets =>
    List.countP_mono_left fun other _ h => by
      simp only [Std.HashMap.contains_insert, Bool.not_or, Bool.and_eq_true] at h
      exact h.2
  have left := keep before
  have right := keep after
  simp only [Std.HashMap.contains_insert_self, Bool.not_true, Bool.false_eq_true, if_false, fresh,
    Bool.not_false, if_true]
  omega

/-- The cycle closed by looking at `name` from the top of a stack on which it is. -/
def cycle (name : String) (stack : List Frame) : List String :=
  name :: ((stack.map (·.name)).takeWhile (· != name)).reverse ++ [name]

/-- Walks until the stack is empty, and adds every target that it leaves to `order`. -/
def walk (registry : Registry) (marks : Marks) (stack : List Frame) (order : Array String) :
    Except ConfigError (Marks × Array String) :=
  match stack with
  | [] => .ok (marks, order)
  | ⟨name, []⟩ :: below => walk registry (marks.insert name .done) below (order.push name)
  | ⟨name, next :: pending⟩ :: below =>
    match _fresh : marks[next]? with
    | some .done => walk registry marks (⟨name, pending⟩ :: below) order
    | some .active => .error (.cyclicDependency (cycle next (⟨name, pending⟩ :: below)))
    | none =>
      match _found : registry.get? next with
      | none => .error (.unknownPrerequisite name next)
      | some target =>
        walk registry (marks.insert target.name .active)
          (⟨target.name, target.prerequisites⟩ :: ⟨name, pending⟩ :: below) order
termination_by (unmet registry marks, workLeft stack)
decreasing_by
  · rcases Nat.lt_or_eq_of_le (unmet_insert_le registry marks name .done) with h | h
    · exact Prod.Lex.left _ _ h
    · rw [h]
      exact Prod.Lex.right _ (by simp [workLeft])
  · exact Prod.Lex.right _ (by simp [workLeft])
  · refine Prod.Lex.left _ _ (unmet_insert_lt .active (Registry.mem_of_get? _found) ?_)
    rw [Registry.name_of_get? _found]
    simpa using _fresh

/-- Walks from one more root, unless an earlier walk has met it. -/
def visit (registry : Registry) (state : Marks × Array String) (root : String) :
    Except ConfigError (Marks × Array String) :=
  match registry.get? root with
  | none => .error (.unknownTarget root)
  | some target =>
    if state.1.contains target.name then .ok state
    else walk registry (state.1.insert target.name .active)
      [⟨target.name, target.prerequisites⟩] state.2

end Plan

/-- The plan for a list of roots. -/
def Registry.plan (registry : Registry) (roots : List String) : Except ConfigError Plan := do
  let (_, order) ← roots.foldlM (Plan.visit registry) ({}, #[])
  return ⟨order.toList⟩

end TaskRunner
