import Mathlib.Data.List.Nodup
import Mathlib.Logic.Relation
import TaskRunner.Plan
/- # TaskRunner.Proofs.Plan.Order -- a plan is in topological order

`Plan.Sorted` says of a list of names that each is declared, stands in it once, and comes after all
of its prerequisites.  A plan is always sorted (`sorted_of_plan`), although the walk that makes it
keeps a stack and marks and meets targets in another order than it leaves them.

What carries the proof is `Plan.Walking`: the active targets are those on the stack, the targets
that are done are those in the order, and every prerequisite that a frame has looked at is in the
order, but for the one that the frame above it stands for. -/

namespace TaskRunner
set_option autoImplicit false

/-- A computation gives a result only if each of its parts does. -/
theorem ok_of_bind {ε α β : Type} {first : Except ε α} {rest : α → Except ε β} {result : β}
    (h : first >>= rest = .ok result) : ∃ value, first = .ok value ∧ rest value = .ok result := by
  cases first with
  | error e => cases h
  | ok value => exact ⟨value, rfl, h⟩

/-- A computation fails where one of its parts does. -/
theorem error_of_bind {ε α β : Type} {first : Except ε α} {rest : α → Except ε β} {e : ε}
    (h : first >>= rest = .error e) :
    first = .error e ∨ ∃ value, first = .ok value ∧ rest value = .error e := by
  cases first with
  | error other =>
    cases h
    exact .inl rfl
  | ok value => exact .inr ⟨value, rfl, h⟩

/-- Whether a target lists a prerequisite. -/
def Registry.Needs (registry : Registry) (name prerequisite : String) : Prop :=
  ∃ target, registry.get? name = some target ∧ prerequisite ∈ target.prerequisites

namespace Plan

variable {registry : Registry}

/-- Declared targets, each once and after all of its prerequisites. -/
inductive Sorted (registry : Registry) : List String → Prop where
  | nil : Sorted registry []
  | snoc {order : List String} {name : String} {target : Target} (sorted : Sorted registry order)
      (found : registry.get? name = some target) (fresh : name ∉ order)
      (earlier : ∀ prerequisite ∈ target.prerequisites, prerequisite ∈ order) :
      Sorted registry (order ++ [name])

namespace Sorted

variable {order : List String}

theorem nodup (sorted : Sorted registry order) : order.Nodup := by
  induction sorted with
  | nil => exact List.nodup_nil
  | snoc _ _ fresh _ ih =>
    exact List.nodup_append.2 ⟨ih, List.nodup_singleton _,
      fun other member last final same => fresh (List.mem_singleton.1 final ▸ same ▸ member)⟩

theorem declared (sorted : Sorted registry order) {name : String} (member : name ∈ order) :
    ∃ target, registry.get? name = some target := by
  induction sorted with
  | nil => cases member
  | snoc _ found _ _ ih =>
    rcases List.mem_append.1 member with earlier | last
    · exact ih earlier
    · exact ⟨_, List.mem_singleton.1 last ▸ found⟩

/-- The prerequisites of an entry stand before it. -/
theorem mem_before (sorted : Sorted registry order) {before after : List String} {name : String}
    {target : Target} (split : order = before ++ name :: after)
    (found : registry.get? name = some target) {prerequisite : String}
    (needed : prerequisite ∈ target.prerequisites) : prerequisite ∈ before := by
  induction sorted generalizing after with
  | nil => simp at split
  | snoc _ foundLast _ earlier ih =>
    rcases List.eq_nil_or_concat after with rfl | ⟨rest, last, rfl⟩
    · obtain ⟨rfl, same⟩ := List.append_inj' split rfl
      obtain rfl := List.singleton_inj.1 same
      rw [found, Option.some.injEq] at foundLast
      exact earlier prerequisite (foundLast ▸ needed)
    · rw [List.concat_eq_append, ← List.cons_append, ← List.append_assoc] at split
      exact ih (List.append_inj' split rfl).1

theorem mem_of_needs (sorted : Sorted registry order) {name prerequisite : String}
    (member : name ∈ order) (needs : registry.Needs name prerequisite) : prerequisite ∈ order := by
  obtain ⟨before, after, split⟩ := List.append_of_mem member
  obtain ⟨target, found, needed⟩ := needs
  rw [split]
  exact List.mem_append_left _ (sorted.mem_before split found needed)

theorem mem_of_reflTransGen (sorted : Sorted registry order) {name cause : String}
    (member : name ∈ order) (path : Relation.ReflTransGen registry.Needs name cause) :
    cause ∈ order := by
  induction path with
  | refl => exact member
  | tail _ needs ih => exact sorted.mem_of_needs ih needs

/-- The first of several entries needs none of them. -/
theorem not_needs_of_sublist (sorted : Sorted registry order) {first other : String}
    {rest : List String} (stand : (first :: rest).Sublist order) (member : other ∈ first :: rest) :
    ¬ registry.Needs first other := by
  rintro ⟨target, found, needed⟩
  obtain ⟨front, back, split, inFront, inBack⟩ := List.cons_sublist_iff.1 stand
  obtain ⟨before, between, rfl⟩ := List.append_of_mem inFront
  rw [List.append_assoc, List.cons_append] at split
  have early := sorted.mem_before split found needed
  have late : other ∈ first :: (between ++ back) :=
    List.cons_subset_cons _ (List.subset_append_of_subset_right _ inBack.subset) member
  exact List.disjoint_of_nodup_append (split ▸ sorted.nodup) early late

end Sorted

/-! ## The walk -/

/-- What the frames of a stack have looked at is in the order, but for what is `above`. -/
def Seen (registry : Registry) (order : List String) : Option String → List Frame → Prop
  | _, [] => True
  | above, frame :: below =>
    (∃ target seen, registry.get? frame.name = some target ∧
      target.prerequisites = seen ++ frame.pending ∧
        ∀ prerequisite ∈ seen, prerequisite ∈ order ∨ above = some prerequisite) ∧
      Seen registry order (some frame.name) below

theorem Seen.mono {order longer : List String} (more : order ⊆ longer) :
    ∀ {above : Option String} {stack : List Frame}, Seen registry order above stack →
      Seen registry longer above stack
  | _, [], _ => trivial
  | _, _ :: _, ⟨⟨target, seen, found, split, looked⟩, rest⟩ =>
    ⟨⟨target, seen, found, split, fun prerequisite member =>
      (looked prerequisite member).imp_left (@more _)⟩, rest.mono more⟩

/-- What was above a stack may move into the order. -/
theorem Seen.leave {order : List String} {name : String} {stack : List Frame}
    (seen : Seen registry order (some name) stack) :
    Seen registry (order ++ [name]) none stack := by
  cases stack with
  | nil => trivial
  | cons frame below =>
    obtain ⟨⟨target, before, found, split, looked⟩, rest⟩ := seen
    refine ⟨⟨target, before, found, split, fun prerequisite member => .inl ?_⟩,
      rest.mono (List.subset_append_left _ _)⟩
    rcases looked prerequisite member with inside | same
    · exact List.mem_append_left _ inside
    · simp [Option.some.inj same]

/-- What the marks, the stack and the order of a walk have to say about one another. -/
structure Walking (registry : Registry) (marks : Marks) (stack : List Frame)
    (order : List String) : Prop where
  sorted : Sorted registry order
  done_iff : ∀ name : String, marks[name]? = some .done ↔ name ∈ order
  active_iff : ∀ name : String, marks[name]? = some .active ↔ name ∈ stack.map (·.name)
  stack_nodup : (stack.map (·.name)).Nodup
  seen : Seen registry order none stack

namespace Walking

variable {marks : Marks} {order : List String} {below : List Frame} {name : String}

theorem start (registry : Registry) : Walking registry {} [] [] :=
  ⟨.nil, fun name => by simp, fun name => by simp, List.nodup_nil, trivial⟩

/-- A target of which every prerequisite was looked at leaves the stack. -/
theorem leave (walking : Walking registry marks (⟨name, []⟩ :: below) order) :
    Walking registry (marks.insert name .done) below (order ++ [name]) := by
  obtain ⟨⟨target, seen, found, split, looked⟩, rest⟩ := walking.seen
  have active : marks[name]? = some .active := (walking.active_iff name).2 (by simp)
  have fresh : name ∉ order := by
    rw [← walking.done_iff, active]
    simp
  have distinct := walking.stack_nodup
  rw [List.map_cons, List.nodup_cons] at distinct
  refine ⟨?_, fun other => ?_, fun other => ?_, distinct.2, rest.leave⟩
  · refine walking.sorted.snoc found fresh fun prerequisite needed => ?_
    rw [split, List.append_nil] at needed
    simpa using looked prerequisite needed
  · rw [Std.HashMap.getElem?_insert, List.mem_append, List.mem_singleton, ← walking.done_iff other]
    by_cases same : name = other
    · simp [same]
    · simp [same, Ne.symm same]
  · have old := walking.active_iff other
    rw [List.map_cons, List.mem_cons] at old
    rw [Std.HashMap.getElem?_insert]
    by_cases same : name = other
    · subst same
      simpa using distinct.1
    · simpa [same, Ne.symm same] using old

/-- A prerequisite that is done is passed by. -/
theorem pass {next : String} {pending : List String}
    (walking : Walking registry marks (⟨name, next :: pending⟩ :: below) order)
    (done : marks[next]? = some .done) :
    Walking registry marks (⟨name, pending⟩ :: below) order := by
  obtain ⟨⟨target, seen, found, split, looked⟩, rest⟩ := walking.seen
  refine ⟨walking.sorted, walking.done_iff, walking.active_iff, walking.stack_nodup,
    ⟨⟨target, seen ++ [next], found, by simp [split], fun prerequisite member => ?_⟩, rest⟩⟩
  rcases List.mem_append.1 member with earlier | last
  · exact looked prerequisite earlier
  · rw [List.mem_singleton] at last
    exact .inl (last ▸ (walking.done_iff next).1 done)

/-- A target without a mark comes to the top of a stack that is waiting for it. -/
theorem push {stack waiting : List Frame} {next : Target}
    (walking : Walking registry marks stack order)
    (names : waiting.map (·.name) = stack.map (·.name))
    (seen : Seen registry order (some next.name) waiting) (fresh : marks[next.name]? = none)
    (known : registry.get? next.name = some next) :
    Walking registry (marks.insert next.name .active)
      (⟨next.name, next.prerequisites⟩ :: waiting) order := by
  refine ⟨walking.sorted, fun other => ?_, fun other => ?_, ?_,
    ⟨next, [], known, rfl, fun _ member => absurd member List.not_mem_nil⟩, seen⟩
  · rw [Std.HashMap.getElem?_insert, ← walking.done_iff other]
    by_cases same : next.name = other
    · subst same
      simp [fresh]
    · simp [same]
  · have old := walking.active_iff other
    rw [List.map_cons, List.mem_cons, names, Std.HashMap.getElem?_insert]
    by_cases same : next.name = other
    · simp [same]
    · simpa [same, Ne.symm same] using old
  · rw [List.map_cons, List.nodup_cons, names]
    refine ⟨fun member => ?_, walking.stack_nodup⟩
    rw [(walking.active_iff next.name).2 member] at fresh
    cases fresh

/-- A prerequisite without a mark is walked next. -/
theorem enter {next : Target} {pending : List String}
    (walking : Walking registry marks (⟨name, next.name :: pending⟩ :: below) order)
    (fresh : marks[next.name]? = none) (known : registry.get? next.name = some next) :
    Walking registry (marks.insert next.name .active)
      (⟨next.name, next.prerequisites⟩ :: ⟨name, pending⟩ :: below) order := by
  obtain ⟨⟨target, seen, found, split, looked⟩, rest⟩ := walking.seen
  refine walking.push rfl ⟨⟨target, seen ++ [next.name], found, by simp [split],
    fun prerequisite member => ?_⟩, rest⟩ fresh known
  rcases List.mem_append.1 member with earlier | last
  · exact .inl (by simpa using looked prerequisite earlier)
  · exact .inr (by rw [List.mem_singleton.1 last])

/-- A walk that ends has nothing on its stack. -/
theorem of_walk {stack : List Frame} {order : Array String} {result : Marks × Array String}
    (walking : Walking registry marks stack order.toList)
    (h : walk registry marks stack order = .ok result) :
    Walking registry result.1 [] result.2.toList := by
  fun_induction walk registry marks stack order with
  | case1 marks order => cases h; exact walking
  | case2 marks order name below ih =>
    exact ih (Array.toList_push ▸ walking.leave) h
  | case3 marks order name below next pending done ih => exact ih (walking.pass done) h
  | case4 marks order name below next pending active => cases h
  | case5 marks order name below next pending fresh unknown => cases h
  | case6 marks order name below next pending fresh target found ih =>
    obtain rfl := Registry.name_of_get? found
    exact ih (walking.enter fresh found) h

end Walking

/-- Another root leaves the stack empty again. -/
theorem walking_of_visit {state result : Marks × Array String} {root : String}
    (walking : Walking registry state.1 [] state.2.toList)
    (h : visit registry state root = .ok result) :
    Walking registry result.1 [] result.2.toList := by
  unfold visit at h
  split at h
  · cases h
  · next target found =>
    split at h
    · cases h
      exact walking
    · next fresh =>
      obtain rfl := Registry.name_of_get? found
      have fresh : state.1[target.name]? = none := by simpa using fresh
      exact (walking.push rfl trivial fresh found).of_walk h

theorem walking_of_visits {roots : List String} {state result : Marks × Array String}
    (walking : Walking registry state.1 [] state.2.toList)
    (h : roots.foldlM (visit registry) state = .ok result) :
    Walking registry result.1 [] result.2.toList := by
  induction roots generalizing state with
  | nil => cases h; exact walking
  | cons root rest ih =>
    rw [List.foldlM_cons] at h
    obtain ⟨next, visited, h⟩ := ok_of_bind h
    exact ih (walking_of_visit walking visited) h

/-- **A plan is in topological order**, and names each of its targets once. -/
theorem sorted_of_plan {roots : List String} {plan : Plan} (h : registry.plan roots = .ok plan) :
    Sorted registry plan.targets := by
  obtain ⟨result, walked, h⟩ := ok_of_bind h
  cases h
  exact (walking_of_visits (.start registry) walked).sorted

/-! ## Turns one by one -/

theorem walk_of_over (marks : Marks) (order : Array String) :
    walk registry marks [] order = .ok (marks, order) := by
  rw [walk]

theorem walk_of_looked (marks : Marks) (name : String) (below : List Frame)
    (order : Array String) :
    walk registry marks (⟨name, []⟩ :: below) order =
      walk registry (marks.insert name .done) below (order.push name) := by
  rw [walk]

/-- A walk that looks at a prerequisite that is done goes on with the next one. -/
theorem walk_of_done {marks : Marks} {name next : String} {pending : List String}
    {below : List Frame} {order : Array String} (done : marks[next]? = some .done) :
    walk registry marks (⟨name, next :: pending⟩ :: below) order =
      walk registry marks (⟨name, pending⟩ :: below) order := by
  rw [walk]
  split
  · rfl
  · next active => simp [done] at active
  · next fresh => simp [done] at fresh

/-- A walk that looks at a prerequisite that is active is refused. -/
theorem walk_of_active {marks : Marks} {name next : String} {pending : List String}
    {below : List Frame} {order : Array String} (active : marks[next]? = some .active) :
    walk registry marks (⟨name, next :: pending⟩ :: below) order =
      .error (.cyclicDependency (cycle next (⟨name, pending⟩ :: below))) := by
  rw [walk]
  split
  · next done => simp [active] at done
  · rfl
  · next fresh => simp [active] at fresh

/-- A walk that looks at a prerequisite without a mark goes on with it. -/
theorem walk_of_fresh {marks : Marks} {name next : String} {pending : List String}
    {below : List Frame} {order : Array String} {target : Target} (fresh : marks[next]? = none)
    (found : registry.get? next = some target) :
    walk registry marks (⟨name, next :: pending⟩ :: below) order =
      walk registry (marks.insert target.name .active)
        (⟨target.name, target.prerequisites⟩ :: ⟨name, pending⟩ :: below) order := by
  rw [walk]
  split
  · next done => simp [fresh] at done
  · next active => simp [fresh] at active
  · split
    · next unknown => simp [found] at unknown
    · next other known => rw [Option.some.inj (found.symm.trans known)]

end Plan

/-! ## A small project -/

namespace Small

/-- A target with a recipe and an output. -/
def lib : Target :=
  { name := "lib", recipe := ["cc lib.c"], phony := false, outputs := ["lib.o"] }

/-- A target that groups the other one. -/
def all : Target := { name := "all", prerequisites := ["lib"] }

def registry : Registry where
  targets := #[lib, all]
  index := (Registry.Draft.empty.index.insert lib.name 0).insert all.name 1
  index_eq_some_iff :=
    Registry.Draft.index_push
      (Registry.Draft.index_push Registry.Draft.empty.index_eq_some_iff
        (by simp [Registry.Draft.empty]))
      (by simp [Registry.Draft.empty, lib, all])
  closed := by simp [lib, all, Registry.Draft.contains, Registry.Draft.empty]

theorem get?_eq_some_iff (name : String) (target : Target) :
    registry.get? name = some target ↔
      name = "lib" ∧ target = lib ∨ name = "all" ∧ target = all := by
  rw [Registry.Draft.get?_eq_some_iff]
  constructor
  · rintro ⟨member, rfl⟩
    rcases (by simpa [registry] using member : target = lib ∨ target = all) with rfl | rfl
    · exact .inl ⟨rfl, rfl⟩
    · exact .inr ⟨rfl, rfl⟩
  · rintro (⟨rfl, rfl⟩ | ⟨rfl, rfl⟩) <;> simp [registry, lib, all]

@[simp] theorem get?_lib : registry.get? "lib" = some lib := by simp [get?_eq_some_iff]

@[simp] theorem get?_all : registry.get? "all" = some all := by simp [get?_eq_some_iff]

def plan : Plan := ⟨["lib", "all"]⟩

theorem plan_registry : registry.plan ["all"] = .ok plan := by
  simp only [Registry.plan, Plan.visit, List.foldlM_cons, get?_all, all]
  simp [Plan.walk_of_fresh, Plan.walk, lib, plan]

end Small
end TaskRunner
