import Std.Data.HashMap
import TaskRunner.Error
import TaskRunner.Target
/- # TaskRunner.Registry -- the declared targets, by name

A draft takes targets one by one and refuses a name that it holds already.  When every prerequisite
names a target of the draft it becomes a registry, which does not change any more.  Prerequisites
may be declared after the targets that need them.

Both keep the targets in the order of declaration beside an index from names to positions, and
`index_eq_some_iff` ties the two together: the index has exactly the names of the targets, each at
its position, so no two targets share a name. -/

namespace TaskRunner
set_option autoImplicit false

namespace Registry

/-- Targets under distinct names, with prerequisites not yet checked. -/
structure Draft where
  targets : Array Target
  index : Std.HashMap String Nat
  index_eq_some_iff : ∀ name i,
    index[name]? = some i ↔ ∃ h : i < targets.size, targets[i].name = name

namespace Draft

def empty : Draft where
  targets := #[]
  index := {}
  index_eq_some_iff := by simp

instance : Inhabited Draft := ⟨empty⟩

/-- Whether a target of this name is there. -/
def contains (draft : Draft) (name : String) : Bool := draft.index.contains name

/-- The target of a name. -/
def get? (draft : Draft) (name : String) : Option Target :=
  draft.index[name]?.bind (draft.targets[·]?)

theorem get?_eq_some_iff (draft : Draft) (name : String) (target : Target) :
    draft.get? name = some target ↔ target ∈ draft.targets ∧ target.name = name := by
  simp only [get?, Option.bind_eq_some_iff, Array.getElem?_eq_some_iff, Array.mem_iff_getElem,
    draft.index_eq_some_iff]
  constructor
  · rintro ⟨i, ⟨inside, named⟩, _, same⟩
    exact ⟨⟨i, inside, same⟩, same ▸ named⟩
  · rintro ⟨⟨i, inside, same⟩, named⟩
    exact ⟨i, ⟨inside, same ▸ named⟩, inside, same⟩

/-- What the index has to say when a target of a fresh name is added at the end. -/
theorem index_push {targets : Array Target} {index : Std.HashMap String Nat}
    (old : ∀ name i, index[name]? = some i ↔ ∃ h : i < targets.size, targets[i].name = name)
    {target : Target} (fresh : index[target.name]? = none) (name : String) (i : Nat) :
    (index.insert target.name targets.size)[name]? = some i ↔
      ∃ h : i < (targets.push target).size, (targets.push target)[i].name = name := by
  rw [Std.HashMap.getElem?_insert]
  by_cases same : target.name = name
  · subst same
    simp only [beq_self_eq_true, if_true, Option.some.injEq, Array.size_push]
    constructor
    · rintro rfl
      exact ⟨by omega, by simp⟩
    · rintro ⟨inside, named⟩
      by_cases last : i < targets.size
      · rw [Array.getElem_push_lt last] at named
        rw [(old target.name i).2 ⟨last, named⟩] at fresh
        cases fresh
      · omega
  · simp only [beq_eq_false_iff_ne.2 same, Bool.false_eq_true, if_false, old, Array.size_push]
    constructor
    · rintro ⟨inside, named⟩
      exact ⟨by omega, by rw [Array.getElem_push_lt inside]; exact named⟩
    · rintro ⟨inside, named⟩
      by_cases last : i < targets.size
      · rw [Array.getElem_push_lt last] at named
        exact ⟨last, named⟩
      · obtain rfl : i = targets.size := by omega
        rw [Array.getElem_push_eq] at named
        exact absurd named same

/-- Adds a target at the end, unless its name is taken. -/
def register : Draft → Target → Except ConfigError Draft
  | ⟨targets, index, index_eq_some_iff⟩, target =>
    if h : index.contains target.name then .error (.duplicateTarget target.name)
    else
      let position := targets.size
      .ok {
        targets := targets.push target
        index := index.insert target.name position
        index_eq_some_iff := index_push index_eq_some_iff (by simpa using h) }

/-- The first target, in the order of declaration, that has an unknown prerequisite, with the first
such prerequisite. -/
def missing? (draft : Draft) : Option (String × String) :=
  draft.targets.toList.findSome? fun target =>
    (target.prerequisites.find? (!draft.contains ·)).map (target.name, ·)

theorem contains_of_missing?_eq_none {draft : Draft} (h : draft.missing? = none)
    {target : Target} (member : target ∈ draft.targets) {name : String}
    (needed : name ∈ target.prerequisites) : draft.contains name = true := by
  have all := List.findSome?_eq_none_iff.1 h target (Array.mem_def.1 member)
  simp only [Option.map_eq_none_iff, List.find?_eq_none] at all
  simpa using all name needed

end Draft
end Registry

/-- Targets under distinct names, whose prerequisites are targets too. -/
structure Registry extends Registry.Draft where
  closed : ∀ target ∈ targets, ∀ name ∈ target.prerequisites, toDraft.contains name = true

namespace Registry

/-- Accepts a draft that has no unknown prerequisite. -/
def Draft.finalize (draft : Draft) : Except ConfigError Registry :=
  match h : draft.missing? with
  | some (target, missing) => .error (.unknownPrerequisite target missing)
  | none => .ok {
      draft with
      closed := fun _ member _ needed => Draft.contains_of_missing?_eq_none h member needed }

/-- The registry of a list of targets.  A name used twice is reported before an unknown
prerequisite. -/
def ofTargets (targets : List Target) : Except ConfigError Registry := do
  let draft ← targets.foldlM Draft.register Draft.empty
  draft.finalize

theorem mem_of_get? {registry : Registry} {name : String} {target : Target}
    (h : registry.get? name = some target) : target ∈ registry.targets :=
  ((registry.get?_eq_some_iff name target).1 h).1

theorem name_of_get? {registry : Registry} {name : String} {target : Target}
    (h : registry.get? name = some target) : target.name = name :=
  ((registry.get?_eq_some_iff name target).1 h).2

/-- The targets in the order of declaration. -/
def toList (registry : Registry) : List Target := registry.targets.toList

/-- The target declared first. -/
def first? (registry : Registry) : Option Target := registry.targets[0]?

theorem first?_eq_none_iff {registry : Registry} :
    registry.first? = none ↔ registry.targets = #[] := by
  simp [first?, Array.size_eq_zero_iff]

def size (registry : Registry) : Nat := registry.targets.size

end Registry
end TaskRunner
