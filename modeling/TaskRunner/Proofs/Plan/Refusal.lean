import Mathlib.Data.List.Chain
import TaskRunner.Proofs.Plan.PostOrder
import TaskRunner.Proofs.Registry
/- # TaskRunner.Proofs.Plan.Refusal -- why there is no plan

Roots can be planned unless one of them is faulty: it is not declared, or it leads into a cycle of
prerequisites.  The first faulty root settles the error, whatever was walked before it: walks share
their marks, but what an earlier walk has left is in topological order, so no cycle hides in it.
Nothing else is refused: every prerequisite of a declared target is declared, so a walk finds
whatever it looks for.

`Plan.Arises` lists the states that the loop of a walk comes through.  In each of them the stack is
a chain of prerequisites that begins at the root (`Plan.Descends`) and the active targets are those
on it.  So a prerequisite that is active stands on the stack, and from there upwards the stack is a
cycle; the frames below, which only lead to it, are left out. -/

namespace TaskRunner
set_option autoImplicit false

namespace Registry

/-- The prerequisites of a declared target are declared. -/
theorem get?_of_needs {registry : Registry} {name prerequisite : String}
    (needs : registry.Needs name prerequisite) :
    ∃ target, registry.get? prerequisite = some target := by
  obtain ⟨target, found, needed⟩ := needs
  exact get?_of_contains (registry.closed target (mem_of_get? found) prerequisite needed)

/-! ## Faults -/

variable {registry : Registry} {root : String} {path : List String}

/-- Whether a cycle of prerequisites can be reached from a target. -/
def LeadsIntoCycle (registry : Registry) (root : String) : Prop :=
  ∃ name, Relation.ReflTransGen registry.Needs root name ∧
    Relation.TransGen registry.Needs name name

/-- Whether there is no plan for a root. -/
def Faulty (registry : Registry) (root : String) : Prop :=
  registry.get? root = none ∨ registry.LeadsIntoCycle root

/-- A path along prerequisites, reached from a root, that ends where it began and comes to no other
target twice. -/
structure Circular (registry : Registry) (root : String) (path : List String) : Prop where
  two_le_length : 2 ≤ path.length
  head?_eq_getLast? : path.head? = path.getLast?
  nodup : path.tail.Nodup
  chain : path.IsChain registry.Needs
  reached : ∀ name ∈ path, Relation.ReflTransGen registry.Needs root name

theorem Circular.leadsIntoCycle (circular : registry.Circular root path) :
    registry.LeadsIntoCycle root := by
  obtain ⟨long, closed, -, chain, reached⟩ := circular
  match path with
  | [] | [_] => simp at long
  | first :: second :: rest =>
    obtain ⟨needs, chain⟩ := List.isChain_cons_cons.1 chain
    have last : (second :: rest).getLast (List.cons_ne_nil _ _) = first := by
      rw [List.head?_cons, List.getLast?_cons_cons, List.getLast?_eq_getLast_of_ne_nil] at closed
      exact (Option.some.inj closed).symm
    have back : Relation.ReflTransGen registry.Needs second first :=
      List.relationReflTransGen_of_exists_isChain_cons rest chain last
    exact ⟨first, reached first List.mem_cons_self, .head' needs back⟩

end Registry

namespace Plan

variable {registry : Registry}

/-- No target of a sorted list needs itself, not even through others. -/
theorem Sorted.acyclic {order : List String} (sorted : Sorted registry order) {name : String}
    (member : name ∈ order) : ¬ Relation.TransGen registry.Needs name name := by
  induction sorted with
  | nil => cases member
  | @snoc order last target sorted found fresh earlier ih =>
    intro loop
    rcases List.mem_append.1 member with before | final
    · exact ih before loop
    · obtain rfl := List.mem_singleton.1 final
      obtain ⟨next, ⟨other, known, needed⟩, back⟩ := Relation.TransGen.head'_iff.1 loop
      obtain rfl := Option.some.inj (found.symm.trans known)
      exact fresh (sorted.mem_of_reflTransGen (earlier next needed) back)

/-! ## The states of a walk -/

/-- The marks, the stack and the order that the loop of the walk from a target comes through, when
the walks before it have come to `state`. -/
inductive Arises (registry : Registry) (root : Target) (state : Marks × Array String) :
    Marks → List Frame → Array String → Prop where
  | start :
      Arises registry root state (state.1.insert root.name .active)
        [⟨root.name, root.prerequisites⟩] state.2
  | leave {marks : Marks} {name : String} {below : List Frame} {order : Array String}
      (arises : Arises registry root state marks (⟨name, []⟩ :: below) order) :
      Arises registry root state (marks.insert name .done) below (order.push name)
  | pass {marks : Marks} {name next : String} {pending : List String} {below : List Frame}
      {order : Array String}
      (arises : Arises registry root state marks (⟨name, next :: pending⟩ :: below) order)
      (done : marks[next]? = some .done) :
      Arises registry root state marks (⟨name, pending⟩ :: below) order
  | enter {marks : Marks} {name next : String} {pending : List String} {below : List Frame}
      {order : Array String} {target : Target}
      (arises : Arises registry root state marks (⟨name, next :: pending⟩ :: below) order)
      (fresh : marks[next]? = none) (found : registry.get? next = some target) :
      Arises registry root state (marks.insert target.name .active)
        (⟨target.name, target.prerequisites⟩ :: ⟨name, pending⟩ :: below) order

/-- A stack on which every frame is needed by the one below it, and all of them from the root. -/
structure Descends (registry : Registry) (root : String) (stack : List Frame) : Prop where
  chain : (stack.map (·.name)).IsChain fun above below => registry.Needs below above
  reached : ∀ name ∈ stack.map (·.name), Relation.ReflTransGen registry.Needs root name

/-- What a frame has not looked at is needed by its target. -/
theorem Walking.needs_next {marks : Marks} {name next : String} {pending : List String}
    {below : List Frame} {order : List String}
    (walking : Walking registry marks (⟨name, next :: pending⟩ :: below) order) :
    registry.Needs name next := by
  obtain ⟨⟨target, seen, found, split, -⟩, -⟩ := walking.seen
  exact ⟨target, found, by simp [split]⟩

section States

variable {root : Target} {state : Marks × Array String}
  (begun : Walking registry state.1 [] state.2.toList)
  (found : registry.get? root.name = some root) (fresh : state.1.contains root.name = false)

include begun found fresh

theorem Arises.walking {marks : Marks} {stack : List Frame} {order : Array String}
    (arises : Arises registry root state marks stack order) :
    Walking registry marks stack order.toList := by
  induction arises with
  | start => exact begun.push rfl trivial (by simpa using fresh) found
  | leave _ ih => exact Array.toList_push ▸ ih.leave
  | pass _ done ih => exact ih.pass done
  | enter _ unmarked known ih =>
    obtain rfl := Registry.name_of_get? known
    exact ih.enter unmarked known

theorem Arises.descends {marks : Marks} {stack : List Frame} {order : Array String}
    (arises : Arises registry root state marks stack order) :
    Descends registry root.name stack := by
  induction arises with
  | start => exact ⟨.singleton _, by simp [Relation.ReflTransGen.refl]⟩
  | leave _ ih =>
    exact ⟨ih.chain.tail, fun name member => ih.reached name (List.mem_cons_of_mem _ member)⟩
  | pass _ done ih => exact ⟨ih.chain, ih.reached⟩
  | enter arises unmarked known ih =>
    obtain rfl := Registry.name_of_get? known
    have needs := (arises.walking begun found fresh).needs_next
    refine ⟨ih.chain.cons_cons needs, List.forall_mem_cons.2 ⟨?_, ih.reached⟩⟩
    exact (ih.reached _ List.mem_cons_self).tail needs

omit begun found fresh in
/-- A walk is refused in one of its states, for the prerequisite in front. -/
theorem Arises.of_refused {marks : Marks} {stack : List Frame} {order : Array String}
    {e : ConfigError} (arises : Arises registry root state marks stack order)
    (refused : walk registry marks stack order = .error e) :
    ∃ marks name next pending below order,
      Arises registry root state marks (⟨name, next :: pending⟩ :: below) order ∧
        (marks[next]? = some .active ∧
            e = .cyclicDependency (cycle next (⟨name, pending⟩ :: below)) ∨
          registry.get? next = none) := by
  fun_induction walk registry marks stack order with
  | case1 marks order => cases refused
  | case2 marks order name below ih => exact ih arises.leave refused
  | case3 marks order name next pending below done ih => exact ih (arises.pass done) refused
  | case4 marks order name next pending below active =>
    cases refused
    exact ⟨_, _, _, _, _, _, arises, .inl ⟨active, rfl⟩⟩
  | case5 marks order name next pending below fresh unknown =>
    exact ⟨_, _, _, _, _, _, arises, .inr unknown⟩
  | case6 marks order name next pending below fresh target found ih =>
    exact ih (arises.enter fresh found) refused

end States

/-! ## The cycle on a stack -/

/-- The names on a stack, the one at its bottom first. -/
def trail (stack : List Frame) : List String := (stack.map (·.name)).reverse

section Cycle

variable {next : String} {stack : List Frame}

/-- A name on a stack divides it into what is above and what is below. -/
theorem split_of_mem (distinct : (stack.map (·.name)).Nodup) (on : next ∈ stack.map (·.name)) :
    ∃ above below, stack.map (·.name) = above ++ next :: below ∧ next ∉ above ∧ next ∉ below ∧
      cycle next stack = next :: above.reverse ++ [next] := by
  obtain ⟨above, below, split⟩ := List.append_of_mem on
  rw [split, List.nodup_middle, List.nodup_cons, List.mem_append, not_or] at distinct
  refine ⟨above, below, split, distinct.1.1, distinct.1.2, ?_⟩
  have passed : ∀ name ∈ above, (name != next) = true := by
    intro name member
    simpa using fun same : name = next => distinct.1.1 (same ▸ member)
  rw [cycle, split, List.takeWhile_append_of_pos passed, List.takeWhile_cons_of_neg (by simp),
    List.append_nil]

/-- The cycle that a name on a stack closes is what the trail has from that name on. -/
theorem cycle_eq_drop (distinct : (stack.map (·.name)).Nodup) (on : next ∈ stack.map (·.name)) :
    ∃ i, (trail stack).idxOf? next = some i ∧
      cycle next stack = (trail stack).drop i ++ [next] := by
  obtain ⟨above, below, split, -, clear, closed⟩ := split_of_mem distinct on
  have trail_eq : trail stack = below.reverse ++ next :: above.reverse := by simp [trail, split]
  refine ⟨below.length, ?_, ?_⟩
  · rw [trail_eq, List.idxOf?_eq_some_iff]
    refine ⟨by simp, by simp, fun i inside same => clear ?_⟩
    rw [List.getElem_append_left (by simpa using inside)] at same
    exact List.mem_reverse.1 (same ▸ List.getElem_mem _)
  · rw [closed, trail_eq, List.drop_left' List.length_reverse]

/-- **A prerequisite on a chain of prerequisites closes a cycle**, without what leads to it. -/
theorem circular_of_descends {root name : String} {pending : List String} {below : List Frame}
    (descends : Descends registry root (⟨name, pending⟩ :: below))
    (distinct : ((⟨name, pending⟩ :: below : List Frame).map (·.name)).Nodup)
    (needs : registry.Needs name next)
    (on : next ∈ (⟨name, pending⟩ :: below : List Frame).map (·.name)) :
    registry.Circular root (cycle next (⟨name, pending⟩ :: below)) := by
  obtain ⟨above, rest, split, absent, -, closed⟩ := split_of_mem distinct on
  -- Read from its end, the cycle is the name that closes it and then the stack down to that name.
  have reversed : (cycle next (⟨name, pending⟩ :: below)).reverse = next :: (above ++ [next]) := by
    simp [closed]
  have front : above ++ [next] <+: (⟨name, pending⟩ :: below : List Frame).map (·.name) :=
    ⟨rest, by simp [split]⟩
  refine ⟨by simp [closed], by rw [closed, List.getLast?_concat]; rfl, ?_, ?_,
    fun other member => ?_⟩
  · have once : (above ++ [next]).Nodup := front.sublist.nodup distinct
    rw [closed, List.cons_append, List.tail_cons, ← List.reverse_cons, List.nodup_reverse,
      List.nodup_cons]
    exact ⟨absent, (List.nodup_append.1 once).1⟩
  · rw [← List.isChain_reverse, reversed]
    refine List.IsChain.prefix (descends.chain.cons_cons needs) ?_
    exact List.cons_prefix_cons.2 ⟨rfl, front⟩
  · refine descends.reached other (front.subset ?_)
    rw [← List.mem_reverse, reversed, List.mem_cons] at member
    rcases member with rfl | member
    · simp
    · exact member

end Cycle

/-! ## Roots -/

/-- A root is refused for its own fault. -/
theorem fault_of_visit {state : Marks × Array String} {root : String} {e : ConfigError}
    (walking : Walking registry state.1 [] state.2.toList)
    (refused : visit registry state root = .error e) :
    (registry.get? root = none ∧ e = .unknownTarget root) ∨
      ∃ path, (∃ target, registry.get? root = some target) ∧ e = .cyclicDependency path ∧
        registry.Circular root path := by
  unfold visit at refused
  split at refused
  · next unknown =>
    cases refused
    exact .inl ⟨unknown, rfl⟩
  · next target found =>
    split at refused
    · cases refused
    · next fresh =>
      have known := found
      obtain rfl := Registry.name_of_get? found
      have fresh : state.1.contains target.name = false := by simpa using fresh
      obtain ⟨marks, name, next, pending, below, order, arises, reason⟩ :=
        Arises.start.of_refused refused
      have walked := arises.walking walking found fresh
      have descends := arises.descends walking found fresh
      rcases reason with ⟨active, rfl⟩ | unknown
      · refine .inr ⟨_, ⟨target, known⟩, rfl, ?_⟩
        exact circular_of_descends ⟨descends.chain, descends.reached⟩ walked.stack_nodup
          walked.needs_next ((walked.active_iff next).1 active)
      · obtain ⟨other, known⟩ := Registry.get?_of_needs walked.needs_next
        rw [unknown] at known
        cases known

/-- Roots that can be walked from have no fault. -/
theorem sound_of_visits {roots : List String} {state : Marks × Array String}
    (walked : roots.foldlM (visit registry) ({}, #[]) = .ok state) :
    ∀ root ∈ roots, ¬ registry.Faulty root := by
  intro root among faulty
  have unmet : ∀ name : String, name ∈ [] ↔ ({} : Marks).contains name = true := by simp
  obtain ⟨left, declared⟩ := left_of_visits unmet walked
  have sorted := (walking_of_visits (.start registry) walked).sorted
  obtain ⟨target, found⟩ := declared root among
  have member : root ∈ state.2.toList := by
    rw [left, List.nil_append]
    exact (Registry.mem_postOrder_of_mem found among).resolve_left List.not_mem_nil
  rcases faulty with unknown | ⟨name, path, loop⟩
  · rw [unknown] at found
    cases found
  · exact sorted.acyclic (sorted.mem_of_reflTransGen member path) loop

/-- Several roots are refused where the first of them is. -/
theorem refused_at {roots : List String} {state : Marks × Array String} {e : ConfigError}
    (refused : roots.foldlM (visit registry) state = .error e) :
    ∃ before root after middle, roots = before ++ root :: after ∧
      before.foldlM (visit registry) state = .ok middle ∧
        visit registry middle root = .error e := by
  induction roots generalizing state with
  | nil => cases refused
  | cons root rest ih =>
    rw [List.foldlM_cons] at refused
    rcases error_of_bind refused with first | ⟨next, visited, refused⟩
    · exact ⟨[], root, rest, state, rfl, rfl, first⟩
    · obtain ⟨before, other, after, middle, rfl, walked, last⟩ := ih refused
      refine ⟨root :: before, other, after, middle, rfl, ?_, last⟩
      rw [List.foldlM_cons, visited]
      exact walked

theorem faulty_of_visit {state : Marks × Array String} {root : String} {e : ConfigError}
    (walking : Walking registry state.1 [] state.2.toList)
    (refused : visit registry state root = .error e) : registry.Faulty root := by
  rcases fault_of_visit walking refused with ⟨unknown, -⟩ | ⟨path, -, -, circular⟩
  · exact .inl unknown
  · exact .inr circular.leadsIntoCycle

/-- Roots without a fault can be walked from. -/
theorem visits_of_sound {roots : List String} (sound : ∀ root ∈ roots, ¬ registry.Faulty root) :
    ∃ state, roots.foldlM (visit registry) ({}, #[]) = .ok state := by
  cases walked : roots.foldlM (visit registry) ({}, #[]) with
  | ok state => exact ⟨state, rfl⟩
  | error e =>
    obtain ⟨before, root, after, middle, rfl, earlier, refused⟩ := refused_at walked
    have walking := walking_of_visits (.start registry) earlier
    exact absurd (faulty_of_visit walking refused) (sound root (by simp))

/-- A plan is refused for a root that is not declared or for a cycle, and for nothing else. -/
theorem refusal_of_plan {roots : List String} {e : ConfigError}
    (refused : registry.plan roots = .error e) :
    (∃ root ∈ roots, registry.get? root = none ∧ e = .unknownTarget root) ∨
      ∃ path, e = .cyclicDependency path := by
  rcases error_of_bind refused with walked | ⟨state, -, planned⟩
  · obtain ⟨before, root, after, middle, rfl, earlier, visited⟩ := refused_at walked
    rcases fault_of_visit (walking_of_visits (.start registry) earlier) visited with
      unknown | ⟨path, -, cyclic, -⟩
    · exact .inl ⟨root, by simp, unknown⟩
    · exact .inr ⟨path, cyclic⟩
  · cases planned

/-- Planning comes to the first faulty root and is refused there. -/
theorem refused_of_fault {before : List String} {root : String}
    (sound : ∀ earlier ∈ before, ¬ registry.Faulty earlier) (faulty : registry.Faulty root)
    (after : List String) :
    ∃ middle e, before.foldlM (visit registry) ({}, #[]) = .ok middle ∧
      visit registry middle root = .error e ∧
        registry.plan (before ++ root :: after) = .error e := by
  obtain ⟨middle, earlier⟩ := visits_of_sound sound
  cases visited : visit registry middle root with
  | ok state =>
    have walked : (before ++ [root]).foldlM (visit registry) ({}, #[]) = .ok state := by
      rw [List.foldlM_append, earlier]
      change (visit registry middle root >>= pure) = _
      rw [visited]
      rfl
    exact absurd faulty (sound_of_visits walked root (by simp))
  | error e =>
    refine ⟨middle, e, earlier, visited, ?_⟩
    rw [Registry.plan, List.foldlM_append, earlier]
    change (List.foldlM (visit registry) middle (root :: after) >>= _) = _
    rw [List.foldlM_cons, visited]
    rfl

/-- The first faulty root settles the error. -/
theorem plan_of_fault {before after : List String} {root : String}
    (sound : ∀ earlier ∈ before, ¬ registry.Faulty earlier) (faulty : registry.Faulty root) :
    (registry.get? root = none ∧
        registry.plan (before ++ root :: after) = .error (.unknownTarget root)) ∨
      (∃ target, registry.get? root = some target) ∧ ∃ path,
        registry.plan (before ++ root :: after) = .error (.cyclicDependency path) ∧
          registry.Circular root path := by
  obtain ⟨middle, e, earlier, visited, refused⟩ := refused_of_fault sound faulty after
  rcases fault_of_visit (walking_of_visits (.start registry) earlier) visited with
    ⟨unknown, rfl⟩ | ⟨path, declared, rfl, circular⟩
  · exact .inl ⟨unknown, refused⟩
  · exact .inr ⟨declared, path, refused, circular⟩

/-- **Roots have no plan exactly if one of them is faulty**, and the first faulty root settles the
error: it is not declared, or the error shows a cycle that it leads into.  A prerequisite is always
declared, and one that is active is on the stack, where the cycle begins. -/
theorem plan_refused_iff (registry : Registry) (roots : List String) :
    ((∃ e, registry.plan roots = .error e) ↔ ∃ root ∈ roots, registry.Faulty root) ∧
    (∀ before root after, roots = before ++ root :: after →
      (∀ earlier ∈ before, ¬ registry.Faulty earlier) → registry.Faulty root →
        (registry.get? root = none ∧ registry.plan roots = .error (.unknownTarget root)) ∨
          (∃ target, registry.get? root = some target) ∧ ∃ path,
            registry.plan roots = .error (.cyclicDependency path) ∧
              registry.Circular root path) ∧
    (∀ target missing, registry.plan roots ≠ .error (.unknownPrerequisite target missing)) ∧
    ∀ before root after state target, roots = before ++ root :: after →
      before.foldlM (visit registry) ({}, #[]) = .ok state →
      registry.get? root = some target → state.1.contains target.name = false →
      ∀ marks name next pending below order,
        Arises registry target state marks (⟨name, next :: pending⟩ :: below) order →
        marks[next]? = some .active →
          ∃ i, (trail (⟨name, pending⟩ :: below)).idxOf? next = some i ∧
            cycle next (⟨name, pending⟩ :: below) =
              (trail (⟨name, pending⟩ :: below)).drop i ++ [next] := by
  refine ⟨⟨?_, ?_⟩, ?_, ?_, ?_⟩
  · rintro ⟨e, refused⟩
    by_contra sound
    obtain ⟨state, walked⟩ : ∃ state, roots.foldlM (visit registry) ({}, #[]) = .ok state :=
      visits_of_sound fun root among faulty => sound ⟨root, among, faulty⟩
    rw [Registry.plan, walked] at refused
    cases refused
  · rintro ⟨root, among, faulty⟩
    cases planned : registry.plan roots with
    | error e => exact ⟨e, rfl⟩
    | ok plan =>
      obtain ⟨state, walked, -⟩ := ok_of_bind planned
      exact absurd faulty (sound_of_visits walked root among)
  · rintro before root after rfl sound faulty
    exact plan_of_fault sound faulty
  · intro target missing refused
    rcases refusal_of_plan refused with ⟨root, -, -, other⟩ | ⟨path, other⟩ <;> cases other
  · intro before root after state target _ earlier found fresh
    obtain rfl := Registry.name_of_get? found
    intro marks name next pending below order arises active
    have walking := walking_of_visits (.start registry) earlier
    have walked := arises.walking walking found fresh
    exact cycle_eq_drop walked.stack_nodup ((walked.active_iff next).1 active)

end Plan

/-! ## A knot -/

namespace Knot

def base : Target := { name := "base" }

/-- A target that leads into a cycle and is not on it. -/
def entry : Target := { name := "entry", prerequisites := ["base", "x"] }

def x : Target := { name := "x", prerequisites := ["y"] }

def y : Target := { name := "y", prerequisites := ["x"] }

def registry : Registry where
  targets := #[base, entry, x, y]
  index := (((Registry.Draft.empty.index.insert base.name 0).insert entry.name 1).insert
    x.name 2).insert y.name 3
  index_eq_some_iff := by
    refine Registry.Draft.index_push (Registry.Draft.index_push (Registry.Draft.index_push
      (Registry.Draft.index_push Registry.Draft.empty.index_eq_some_iff ?_) ?_) ?_) ?_ <;>
      simp [Registry.Draft.empty, base, entry, x, y]
  closed := by simp [base, entry, x, y, Registry.Draft.contains, Registry.Draft.empty]

theorem get?_registry : registry.get? "base" = some base ∧ registry.get? "entry" = some entry ∧
    registry.get? "x" = some x ∧ registry.get? "y" = some y := by
  simp [Registry.Draft.get?_eq_some_iff, registry, base, entry, x, y]

def roots : List String := ["base", "entry", "nowhere"]

/-- What the walk from the first root has come to. -/
def begun : Plan.Marks × Array String :=
  ((({} : Plan.Marks).insert "base" .active).insert "base" .done, #["base"])

theorem visits_base : ["base"].foldlM (Plan.visit registry) ({}, #[]) = .ok begun := by
  have found := get?_registry.1
  simp only [base] at found
  simp [Plan.visit, found, Plan.walk_of_looked, Plan.walk_of_over, begun]

theorem faulty_entry : registry.Faulty "entry" := by
  obtain ⟨-, foundEntry, foundX, foundY⟩ := get?_registry
  have enters : registry.Needs "entry" "x" := ⟨entry, foundEntry, by simp [entry]⟩
  have onward : registry.Needs "x" "y" := ⟨x, foundX, by simp [x]⟩
  have back : registry.Needs "y" "x" := ⟨y, foundY, by simp [y]⟩
  exact .inr ⟨"x", .single enters, .head onward (.single back)⟩

/-- The state of the walk in which the cycle is closed. -/
theorem arises_closed : ∃ marks, Plan.Arises registry entry begun marks
    [⟨"y", ["x"]⟩, ⟨"x", []⟩, ⟨"entry", []⟩] begun.2 ∧ marks["x"]? = some .active := by
  obtain ⟨-, -, foundX, foundY⟩ := get?_registry
  have started : Plan.Arises registry entry begun (begun.1.insert "entry" .active)
      [⟨"entry", ["base", "x"]⟩] begun.2 := .start
  have passed := started.pass (by simp [begun, Std.HashMap.getElem_insert])
  have inside := passed.enter (by simp [begun]) foundX
  exact ⟨_, inside.enter (by simp [begun, x]) foundY,
    by simp [x, y, Std.HashMap.getElem_insert]⟩

/-- The knot is refused for its second root, the first faulty one. -/
theorem plan_refused_knot :
    (∃ e, registry.plan roots = .error e) ∧
      roots = ["base"] ++ "entry" :: ["nowhere"] ∧
      (∀ earlier ∈ ["base"], ¬ registry.Faulty earlier) ∧ registry.Faulty "entry" ∧
      (∃ path, registry.plan roots = .error (.cyclicDependency path) ∧
        registry.Circular "entry" path) ∧
      ["base"].foldlM (Plan.visit registry) ({}, #[]) = .ok begun ∧
      ∃ i, (Plan.trail [⟨"y", []⟩, ⟨"x", []⟩, ⟨"entry", []⟩]).idxOf? "x" = some i ∧
        Plan.cycle "x" [⟨"y", []⟩, ⟨"x", []⟩, ⟨"entry", []⟩] =
          (Plan.trail [⟨"y", []⟩, ⟨"x", []⟩, ⟨"entry", []⟩]).drop i ++ ["x"] := by
  obtain ⟨refused, settled, -, closed⟩ := Plan.plan_refused_iff registry roots
  have split : roots = ["base"] ++ "entry" :: ["nowhere"] := rfl
  have sound := Plan.sound_of_visits visits_base
  have found := get?_registry.2.1
  obtain ⟨marks, arises, active⟩ := arises_closed
  refine ⟨refused.2 ⟨"entry", by simp [roots], faulty_entry⟩, split, sound, faulty_entry, ?_,
    visits_base, ?_⟩
  · rcases settled _ _ _ split sound faulty_entry with ⟨unknown, -⟩ | ⟨-, circular⟩
    · rw [found] at unknown
      cases unknown
    · exact circular
  · exact closed _ _ _ _ _ split visits_base found (by simp [begun, entry]) _ _ _ _ _ _ arises
      active

end Knot
end TaskRunner
