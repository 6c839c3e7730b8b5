import TaskRunner.Proofs.Plan.Order
/- # TaskRunner.Proofs.Plan.PostOrder -- a plan is the post-order of a depth-first walk

The walk that makes a plan keeps its own stack.  `Registry.postOrder` says without one what it comes
to: every target is left after its prerequisites, these are taken in the order in which they are
declared, and what was met once is not met again, whichever root it was met from.

What carries the proof is `Plan.unwind`, the order in which the targets on a stack and those below
them are still to be left.  No step of a walk that comes to its end changes what has been left
followed by what is still to be left (`left_of_walk`).

A walk looks at each prerequisite of a target once and leaves the target once.  `Plan.Walks` counts
the turns of its loop, and `walks_walk` bounds them by the size of what was not met, on every
registry, cyclic or not. -/

namespace TaskRunner
set_option autoImplicit false

/-! ## What has not been met -/

/-- How many turns a walk takes for those targets that were not met: one for each prerequisite and
one to leave the target. -/
def Target.turnsOf (met : String → Bool) : List Target → Nat
  | [] => 0
  | target :: rest =>
    (if met target.name then 0 else target.prerequisites.length + 1) + turnsOf met rest

namespace Target

variable {met more : String → Bool}

theorem turnsOf_append (met : String → Bool) (before after : List Target) :
    turnsOf met (before ++ after) = turnsOf met before + turnsOf met after := by
  induction before with
  | nil => simp [turnsOf]
  | cons target rest ih =>
    simp only [List.cons_append, turnsOf, ih]
    omega

theorem turnsOf_mono (grown : ∀ name, met name = true → more name = true) (targets : List Target) :
    turnsOf more targets ≤ turnsOf met targets := by
  induction targets with
  | nil => exact Nat.le_refl _
  | cons target rest ih =>
    unfold turnsOf
    cases old : met target.name with
    | true => simpa [grown _ old] using ih
    | false =>
      simp only [Bool.false_eq_true, if_false]
      split <;> omega

/-- Meeting a target takes its turns off. -/
theorem turnsOf_meet {targets : List Target} {target : Target}
    (grown : ∀ name, met name = true → more name = true) (member : target ∈ targets)
    (fresh : met target.name = false) (entered : more target.name = true) :
    turnsOf more targets + (target.prerequisites.length + 1) ≤ turnsOf met targets := by
  obtain ⟨before, after, rfl⟩ := List.append_of_mem member
  have front := turnsOf_mono grown before
  have back := turnsOf_mono grown after
  simp only [turnsOf_append, turnsOf, fresh, entered, Bool.false_eq_true, if_true, if_false]
  omega

end Target

namespace Registry

variable {registry : Registry}

/-- The turns that a walk through a whole registry takes. -/
def extent (registry : Registry) : Nat := Target.turnsOf (fun _ => false) registry.toList

/-- Entering a target leaves less to meet. -/
theorem turnsOf_enter {met more : List String} {name : String} {target : Target}
    (found : registry.get? name = some target) (fresh : name ∉ met)
    (grown : met ⊆ more) (entered : name ∈ more) :
    Target.turnsOf (fun name => decide (name ∈ more)) registry.toList <
      Target.turnsOf (fun name => decide (name ∈ met)) registry.toList := by
  obtain rfl := name_of_get? found
  have grown : ∀ name, decide (name ∈ met) = true → decide (name ∈ more) = true := by
    simpa using fun name member => grown member
  have fewer := Target.turnsOf_meet grown (Array.mem_toList_iff.2 (mem_of_get? found))
    (by simpa using fresh) (by simpa using entered)
  unfold toList
  omega

/-! ## The post-order -/

/-- The targets that a depth-first walk from some names leaves, each after its prerequisites and
these from left to right, where it does not enter what was met. -/
def postOrder (registry : Registry) (met : List String) : List String → List String
  | [] => []
  | name :: rest =>
    if _fresh : name ∈ met then postOrder registry met rest
    else
      match _found : registry.get? name with
      | none => postOrder registry met rest
      | some target =>
        let inside := postOrder registry (name :: met) target.prerequisites
        inside ++ name :: postOrder registry (name :: inside ++ met) rest
termination_by names =>
  (Target.turnsOf (fun name => decide (name ∈ met)) registry.toList, names.length)
decreasing_by
  · exact Prod.Lex.right _ (by simp)
  · exact Prod.Lex.right _ (by simp)
  · exact Prod.Lex.left _ _ (turnsOf_enter _found _fresh (by simp) (by simp))
  · exact Prod.Lex.left _ _ (turnsOf_enter _found _fresh (by intro; simp +contextual) (by simp))

section Equations

variable {met : List String} {name : String} {target : Target} (rest : List String)

theorem postOrder_nil (met : List String) : registry.postOrder met [] = [] := by rw [postOrder]

theorem postOrder_of_met (old : name ∈ met) :
    registry.postOrder met (name :: rest) = registry.postOrder met rest := by
  rw [postOrder, dif_pos old]

theorem postOrder_of_unknown (unknown : registry.get? name = none) :
    registry.postOrder met (name :: rest) = registry.postOrder met rest := by
  by_cases old : name ∈ met
  · exact postOrder_of_met rest old
  · rw [postOrder, dif_neg old]
    split
    · rfl
    · next found => simp [unknown] at found

theorem postOrder_of_fresh (fresh : name ∉ met) (found : registry.get? name = some target) :
    registry.postOrder met (name :: rest) =
      registry.postOrder (name :: met) target.prerequisites ++ name ::
        registry.postOrder (name :: registry.postOrder (name :: met) target.prerequisites ++ met)
          rest := by
  rw [postOrder, dif_neg fresh]
  split
  · next unknown => simp [unknown] at found
  · next known => rw [Option.some.inj (found.symm.trans known)]

end Equations

/-- What is met matters, and not how it is listed. -/
theorem postOrder_congr {met other : List String} (same : ∀ name, name ∈ met ↔ name ∈ other)
    (names : List String) : registry.postOrder met names = registry.postOrder other names := by
  fun_induction postOrder registry met names generalizing other with
  | case1 met => rw [postOrder]
  | case2 met name rest old ih =>
    rw [postOrder_of_met rest ((same name).1 old)]
    exact ih same
  | case3 met name rest fresh unknown ih =>
    rw [postOrder_of_unknown rest unknown]
    exact ih same
  | case4 met name rest fresh target found inside below =>
    rename_i behind
    have sameBelow : ∀ other', other' ∈ name :: met ↔ other' ∈ name :: other := by simp [same]
    rw [postOrder_of_fresh rest (mt (same name).2 fresh) found, ← below sameBelow]
    have sameBehind : ∀ other',
        other' ∈ name :: inside ++ met ↔ other' ∈ name :: inside ++ other := by simp [same]
    rw [behind sameBehind]

/-- Everything that is left is needed for one of the names. -/
theorem needed_of_mem_postOrder {met names : List String} {name : String}
    (member : name ∈ registry.postOrder met names) :
    ∃ root ∈ names, Relation.ReflTransGen registry.Needs root name := by
  fun_induction postOrder registry met names with
  | case1 met => cases member
  | case2 met first rest old ih =>
    obtain ⟨root, among, path⟩ := ih member
    exact ⟨root, List.mem_cons_of_mem _ among, path⟩
  | case3 met first rest fresh unknown ih =>
    obtain ⟨root, among, path⟩ := ih member
    exact ⟨root, List.mem_cons_of_mem _ among, path⟩
  | case4 met first rest fresh target found inside below behind =>
    rcases List.mem_append.1 member with inner | later
    · obtain ⟨prerequisite, needed, path⟩ := below inner
      exact ⟨first, List.mem_cons_self, path.head ⟨target, found, needed⟩⟩
    · rcases List.mem_cons.1 later with rfl | beside
      · exact ⟨name, List.mem_cons_self, .refl⟩
      · obtain ⟨root, among, path⟩ := behind beside
        exact ⟨root, List.mem_cons_of_mem _ among, path⟩

/-- A declared name is left, unless it was met before. -/
theorem mem_postOrder_of_mem {met names : List String} {name : String} {target : Target}
    (found : registry.get? name = some target) (among : name ∈ names) :
    name ∈ met ∨ name ∈ registry.postOrder met names := by
  fun_induction postOrder registry met names with
  | case1 met => cases among
  | case2 met first rest old ih =>
    rcases List.mem_cons.1 among with rfl | behind
    · exact .inl old
    · exact ih behind
  | case3 met first rest fresh unknown ih =>
    rcases List.mem_cons.1 among with rfl | behind
    · simp [unknown] at found
    · exact ih behind
  | case4 met first rest fresh source known inside below behind =>
    rcases List.mem_cons.1 among with rfl | later
    · exact .inr (List.mem_append_right _ List.mem_cons_self)
    · rcases behind later with met | left
      · simp only [List.cons_append, List.mem_cons, List.mem_append] at met
        rcases met with rfl | inner | old
        · exact .inr (List.mem_append_right _ List.mem_cons_self)
        · exact .inr (List.mem_append_left _ inner)
        · exact .inl old
      · exact .inr (List.mem_append_right _ (List.mem_cons_of_mem _ left))

end Registry

namespace Plan

variable {registry : Registry}

/-! ## What a walk leaves -/

/-- The targets that a walk with a stack is still to leave. -/
def unwind (registry : Registry) (met : List String) : List Frame → List String
  | [] => []
  | ⟨name, pending⟩ :: below =>
    let inside := registry.postOrder met pending
    inside ++ name :: unwind registry (name :: inside ++ met) below

theorem unwind_congr {met other : List String} (same : ∀ name, name ∈ met ↔ name ∈ other)
    (stack : List Frame) : unwind registry met stack = unwind registry other stack := by
  induction stack generalizing met other with
  | nil => rfl
  | cons frame below ih =>
    rw [unwind, unwind, Registry.postOrder_congr same]
    refine congrArg (registry.postOrder other frame.pending ++ frame.name :: ·) (ih ?_)
    simp [same]

/-- A target that gets a mark is met. -/
theorem mem_cons_iff_contains {marks : Marks} {met : List String}
    (same : ∀ name, name ∈ met ↔ marks.contains name = true) (name : String) (mark : Mark)
    (other : String) : other ∈ name :: met ↔ (marks.insert name mark).contains other = true := by
  rw [List.mem_cons, Std.HashMap.contains_insert, Bool.or_eq_true, beq_iff_eq, same,
    eq_comm (a := name)]

/-- A target that is met on the way is left, with what is below it, before the one that needs it. -/
theorem unwind_enter {met pending : List String} {name : String} {target : Target}
    (fresh : target.name ∉ met) (found : registry.get? target.name = some target)
    (below : List Frame) :
    unwind registry met (⟨name, target.name :: pending⟩ :: below) =
      unwind registry (target.name :: met)
        (⟨target.name, target.prerequisites⟩ :: ⟨name, pending⟩ :: below) := by
  simp only [unwind, Registry.postOrder_of_fresh pending fresh found]
  generalize registry.postOrder (target.name :: met) target.prerequisites = inside
  have again : registry.postOrder (target.name :: inside ++ target.name :: met) pending =
      registry.postOrder (target.name :: inside ++ met) pending :=
    Registry.postOrder_congr (by simp; tauto) pending
  rw [again]
  generalize registry.postOrder (target.name :: inside ++ met) pending = behind
  have same : ∀ other, other ∈ name :: (inside ++ target.name :: behind) ++ met ↔
      other ∈ name :: behind ++ (target.name :: inside ++ target.name :: met) := by
    intro other
    simp only [List.mem_append, List.mem_cons]
    tauto
  rw [unwind_congr same below]
  simp

/-- **A walk that comes to its end leaves what was still to be left**, in that order, and has met
that and nothing else. -/
theorem left_of_walk {marks : Marks} {stack : List Frame} {order : Array String}
    {met : List String} {result : Marks × Array String}
    (same : ∀ name, name ∈ met ↔ marks.contains name = true)
    (h : walk registry marks stack order = .ok result) :
    result.2.toList = order.toList ++ unwind registry met stack ∧
      ∀ name, name ∈ unwind registry met stack ++ met ↔ result.1.contains name = true := by
  fun_induction walk registry marks stack order generalizing met with
  | case1 marks order =>
    cases h
    simpa [unwind] using same
  | case2 marks order name below ih =>
    obtain ⟨left, marked⟩ := ih (mem_cons_iff_contains same name .done) h
    refine ⟨by simp [left, unwind, Registry.postOrder_nil], fun other => ?_⟩
    rw [← marked other]
    simp only [unwind, Registry.postOrder_nil, List.nil_append, List.mem_append, List.mem_cons]
    tauto
  | case3 marks order name next pending below done ih =>
    have old : next ∈ met := (same next).2 (by
      rw [Std.HashMap.contains_eq_isSome_getElem?, done]; rfl)
    rw [unwind, Registry.postOrder_of_met pending old]
    exact ih same h
  | case4 marks order name next pending below active => cases h
  | case5 marks order name next pending below fresh unknown => cases h
  | case6 marks order name next pending below fresh target found ih =>
    obtain rfl := Registry.name_of_get? found
    have new : target.name ∉ met := by
      rw [same, Std.HashMap.contains_eq_isSome_getElem?, fresh]
      simp
    obtain ⟨left, marked⟩ := ih (mem_cons_iff_contains same target.name .active) h
    rw [unwind_enter new found]
    refine ⟨left, fun other => ?_⟩
    rw [← marked other]
    simp only [unwind, List.mem_append, List.mem_cons]
    tauto

/-- The walk from one more root adds its post-order. -/
theorem left_of_visit {state result : Marks × Array String} {root : String} {met : List String}
    (same : ∀ name, name ∈ met ↔ state.1.contains name = true)
    (h : visit registry state root = .ok result) :
    result.2.toList = state.2.toList ++ registry.postOrder met [root] ∧
      (∀ name, name ∈ registry.postOrder met [root] ++ met ↔ result.1.contains name = true) ∧
        ∃ target, registry.get? root = some target := by
  unfold visit at h
  split at h
  · cases h
  · next target found =>
    obtain rfl := Registry.name_of_get? found
    split at h
    · next old =>
      cases h
      have nothing : registry.postOrder met [target.name] = [] := by
        rw [Registry.postOrder_of_met _ ((same _).2 old), Registry.postOrder_nil]
      exact ⟨by simp [nothing], by simpa [nothing] using same, target, found⟩
    · next fresh =>
      have new : target.name ∉ met := by rwa [same]
      obtain ⟨left, marked⟩ := left_of_walk (mem_cons_iff_contains same target.name .active) h
      have all : registry.postOrder met [target.name] =
          unwind registry (target.name :: met) [⟨target.name, target.prerequisites⟩] := by
        rw [Registry.postOrder_of_fresh _ new found, unwind, unwind, Registry.postOrder_nil]
      rw [all]
      refine ⟨left, fun other => ?_, target, found⟩
      rw [← marked other]
      simp only [unwind, List.mem_append, List.mem_cons]
      tauto

/-- Roots share what was met from them. -/
theorem postOrder_cons (met : List String) (root : String) (rest : List String) :
    registry.postOrder met (root :: rest) = registry.postOrder met [root] ++
      registry.postOrder (registry.postOrder met [root] ++ met) rest := by
  by_cases old : root ∈ met
  · simp [Registry.postOrder_of_met _ old, Registry.postOrder_nil]
  · cases found : registry.get? root with
    | none => simp [Registry.postOrder_of_unknown _ found, Registry.postOrder_nil]
    | some target =>
      rw [Registry.postOrder_of_fresh rest old found, Registry.postOrder_of_fresh [] old found,
        Registry.postOrder_nil]
      generalize registry.postOrder (root :: met) target.prerequisites = inside
      have same : ∀ other, other ∈ root :: inside ++ met ↔ other ∈ inside ++ root :: met := by
        intro other
        simp only [List.mem_append, List.mem_cons]
        tauto
      rw [Registry.postOrder_congr same rest]
      simp

theorem left_of_visits {roots : List String} {state result : Marks × Array String}
    {met : List String} (same : ∀ name, name ∈ met ↔ state.1.contains name = true)
    (h : roots.foldlM (visit registry) state = .ok result) :
    result.2.toList = state.2.toList ++ registry.postOrder met roots ∧
      ∀ root ∈ roots, ∃ target, registry.get? root = some target := by
  induction roots generalizing state met with
  | nil =>
    cases h
    exact ⟨by rw [Registry.postOrder, List.append_nil], fun root member => by cases member⟩
  | cons root rest ih =>
    rw [List.foldlM_cons] at h
    obtain ⟨next, visited, h⟩ := ok_of_bind h
    obtain ⟨left, marked, declared⟩ := left_of_visit same visited
    obtain ⟨behind, others⟩ := ih marked h
    refine ⟨?_, List.forall_mem_cons.2 ⟨declared, others⟩⟩
    rw [behind, left, postOrder_cons met root rest, List.append_assoc]

/-! ## The turns of a walk -/

/-- The loop of a walk is over after a number of turns, with a result. -/
inductive Walks (registry : Registry) :
    Nat → Marks → List Frame → Array String → Except ConfigError (Marks × Array String) → Prop where
  | over {marks : Marks} {order : Array String} :
      Walks registry 0 marks [] order (.ok (marks, order))
  | leave {turns : Nat} {marks : Marks} {name : String} {below : List Frame}
      {order : Array String} {result : Except ConfigError (Marks × Array String)}
      (rest : Walks registry turns (marks.insert name .done) below (order.push name) result) :
      Walks registry (turns + 1) marks (⟨name, []⟩ :: below) order result
  | pass {turns : Nat} {marks : Marks} {name next : String} {pending : List String}
      {below : List Frame} {order : Array String}
      {result : Except ConfigError (Marks × Array String)} (done : marks[next]? = some .done)
      (rest : Walks registry turns marks (⟨name, pending⟩ :: below) order result) :
      Walks registry (turns + 1) marks (⟨name, next :: pending⟩ :: below) order result
  | close {marks : Marks} {name next : String} {pending : List String} {below : List Frame}
      {order : Array String} (active : marks[next]? = some .active) :
      Walks registry 1 marks (⟨name, next :: pending⟩ :: below) order
        (.error (.cyclicDependency (cycle next (⟨name, pending⟩ :: below))))
  | miss {marks : Marks} {name next : String} {pending : List String} {below : List Frame}
      {order : Array String} (fresh : marks[next]? = none) (unknown : registry.get? next = none) :
      Walks registry 1 marks (⟨name, next :: pending⟩ :: below) order
        (.error (.unknownPrerequisite name next))
  | enter {turns : Nat} {marks : Marks} {name next : String} {pending : List String}
      {below : List Frame} {order : Array String} {target : Target}
      {result : Except ConfigError (Marks × Array String)} (fresh : marks[next]? = none)
      (found : registry.get? next = some target)
      (rest : Walks registry turns (marks.insert target.name .active)
        (⟨target.name, target.prerequisites⟩ :: ⟨name, pending⟩ :: below) order result) :
      Walks registry (turns + 1) marks (⟨name, next :: pending⟩ :: below) order result

theorem contains_insert_of_contains {marks : Marks} (name : String) (mark : Mark) :
    ∀ other, marks.contains other = true → (marks.insert name mark).contains other = true := by
  intro other old
  rw [Std.HashMap.contains_insert, old, Bool.or_true]

/-- Entering a target that has no mark takes its turns off those of the targets without one. -/
theorem turnsOf_mark {marks : Marks} {target : Target} (mark : Mark)
    (found : registry.get? target.name = some target) (fresh : marks.contains target.name = false) :
    Target.turnsOf (marks.insert target.name mark).contains registry.toList +
      (target.prerequisites.length + 1) ≤ Target.turnsOf marks.contains registry.toList :=
  Target.turnsOf_meet (contains_insert_of_contains target.name mark)
    (Array.mem_toList_iff.2 (Registry.mem_of_get? found)) fresh Std.HashMap.contains_insert_self

/-- **The loop of a walk is always over**, after no more turns than its stack and the targets that
have no mark ask for. -/
theorem walks_walk (registry : Registry) (marks : Marks) (stack : List Frame)
    (order : Array String) :
    ∃ turns ≤ workLeft stack + Target.turnsOf marks.contains registry.toList,
      Walks registry turns marks stack order (walk registry marks stack order) := by
  fun_induction walk registry marks stack order with
  | case1 marks order => exact ⟨0, Nat.zero_le _, .over⟩
  | case2 marks order name below ih =>
    obtain ⟨turns, bound, walks⟩ := ih
    refine ⟨turns + 1, ?_, walks.leave⟩
    have grown : ∀ other, marks.contains other = true →
        (marks.insert name .done).contains other = true := contains_insert_of_contains name .done
    have fewer := Target.turnsOf_mono grown registry.toList
    simp only [workLeft, List.length_nil]
    omega
  | case3 marks order name next pending below done ih =>
    obtain ⟨turns, bound, walks⟩ := ih
    refine ⟨turns + 1, ?_, walks.pass done⟩
    simp only [workLeft, List.length_cons] at bound ⊢
    omega
  | case4 marks order name next pending below active =>
    exact ⟨1, by simp [workLeft]; omega, .close active⟩
  | case5 marks order name next pending below fresh unknown =>
    exact ⟨1, by simp [workLeft]; omega, .miss fresh unknown⟩
  | case6 marks order name next pending below fresh target found ih =>
    obtain ⟨turns, bound, walks⟩ := ih
    refine ⟨turns + 1, ?_, walks.enter fresh found⟩
    obtain rfl := Registry.name_of_get? found
    have := turnsOf_mark .active found (by simpa using fresh)
    simp only [workLeft, List.length_cons] at bound ⊢
    omega

/-- The walk from a root that was not met takes no more turns than a walk through everything. -/
theorem walks_visit {state : Marks × Array String} {root : String} {target : Target}
    (found : registry.get? root = some target) (fresh : state.1.contains target.name = false) :
    ∃ turns ≤ registry.extent,
      Walks registry turns (state.1.insert target.name .active)
        [⟨target.name, target.prerequisites⟩] state.2 (visit registry state root) := by
  obtain rfl := Registry.name_of_get? found
  have visited : visit registry state target.name = walk registry
      (state.1.insert target.name .active) [⟨target.name, target.prerequisites⟩] state.2 := by
    simp [visit, found, fresh]
  obtain ⟨turns, bound, walks⟩ := walks_walk registry (state.1.insert target.name .active)
    [⟨target.name, target.prerequisites⟩] state.2
  refine ⟨turns, ?_, visited ▸ walks⟩
  have entered := turnsOf_mark .active found fresh
  have all : Target.turnsOf state.1.contains registry.toList ≤ registry.extent :=
    Target.turnsOf_mono (by simp) registry.toList
  simp only [workLeft] at bound
  omega

/-! ## The plan -/

/-- **A plan is the post-order of its roots**: it has exactly what they need, each target once and
after all of its prerequisites.  The walks that make it are over on every registry. -/
theorem plan_eq_postOrder (registry : Registry) :
    (∀ (roots : List String) (plan : Plan), registry.plan roots = .ok plan →
      plan.targets = registry.postOrder [] roots ∧
      (∀ name, name ∈ plan.targets ↔
        ∃ root ∈ roots, Relation.ReflTransGen registry.Needs root name) ∧
      plan.targets.Nodup ∧
      (∀ name ∈ plan.targets, ∃ target, registry.get? name = some target) ∧
      ∀ before name after, plan.targets = before ++ name :: after →
        ∀ prerequisite, registry.Needs name prerequisite → prerequisite ∈ before) ∧
    ∀ (state : Marks × Array String) (root : String) (target : Target),
      registry.get? root = some target → state.1.contains target.name = false →
        ∃ turns ≤ registry.extent,
          Walks registry turns (state.1.insert target.name .active)
            [⟨target.name, target.prerequisites⟩] state.2 (visit registry state root) := by
  refine ⟨fun roots plan planned => ?_, fun state root target => walks_visit⟩
  have sorted := sorted_of_plan planned
  obtain ⟨left, declared⟩ :
      plan.targets = registry.postOrder [] roots ∧
        ∀ root ∈ roots, ∃ target, registry.get? root = some target := by
    obtain ⟨result, walked, planned⟩ := ok_of_bind planned
    cases planned
    have unmet : ∀ name : String, name ∈ [] ↔ ({} : Marks).contains name = true := by simp
    simpa using left_of_visits unmet walked
  refine ⟨left, fun name => ⟨fun member => ?_, ?_⟩, sorted.nodup, fun name => sorted.declared,
    fun before name after split prerequisite ⟨target, found, needed⟩ =>
      sorted.mem_before split found needed⟩
  · exact Registry.needed_of_mem_postOrder (left ▸ member)
  · rintro ⟨root, among, path⟩
    obtain ⟨target, found⟩ := declared root among
    have planned : root ∈ registry.postOrder [] roots :=
      (Registry.mem_postOrder_of_mem found among).resolve_left List.not_mem_nil
    exact sorted.mem_of_reflTransGen (left ▸ planned) path

end Plan

/-! ## A diamond -/

namespace Diamond

def base : Target := { name := "base" }

def left : Target := { name := "left", prerequisites := ["base"] }

/-- A target that lists a prerequisite twice. -/
def right : Target := { name := "right", prerequisites := ["base", "base"] }

def top : Target := { name := "top", prerequisites := ["left", "right"] }

def registry : Registry where
  targets := #[top, left, right, base]
  index := (((Registry.Draft.empty.index.insert top.name 0).insert left.name 1).insert
    right.name 2).insert base.name 3
  index_eq_some_iff := by
    refine Registry.Draft.index_push (Registry.Draft.index_push (Registry.Draft.index_push
      (Registry.Draft.index_push Registry.Draft.empty.index_eq_some_iff ?_) ?_) ?_) ?_ <;>
      simp [Registry.Draft.empty, top, left, right, base]
  closed := by simp [top, left, right, base, Registry.Draft.contains, Registry.Draft.empty]

theorem get?_registry : registry.get? "base" = some base ∧ registry.get? "left" = some left ∧
    registry.get? "right" = some right ∧ registry.get? "top" = some top := by
  simp [Registry.Draft.get?_eq_some_iff, registry, base, left, right, top]

def roots : List String := ["right", "top", "right"]

def plan : Plan := ⟨["base", "right", "left", "top"]⟩

theorem plan_roots : registry.plan roots = .ok plan := by
  obtain ⟨foundBase, foundLeft, foundRight, foundTop⟩ := get?_registry
  simp only [base, left, right, top] at foundBase foundLeft foundRight foundTop
  simp [Registry.plan, Plan.visit, roots, plan, foundBase, foundLeft, foundRight, foundTop,
    Plan.walk_of_over, Plan.walk_of_looked, Plan.walk_of_done, Plan.walk_of_fresh,
    Std.HashMap.getElem_insert, bind, Except.bind, pure, Except.pure]

/-- The plan of the diamond is its post-order, and has what its roots need. -/
theorem plan_eq_postOrder_diamond :
    registry.plan roots = .ok plan ∧ plan.targets = registry.postOrder [] roots ∧
      (∀ name, name ∈ plan.targets ↔
        ∃ root ∈ roots, Relation.ReflTransGen registry.Needs root name) ∧
      registry.get? "top" = some top ∧ (∅ : Plan.Marks).contains top.name = false ∧
        ∃ turns ≤ registry.extent,
          Plan.Walks registry turns ((∅ : Plan.Marks).insert top.name .active)
            [⟨top.name, top.prerequisites⟩] #[] (Plan.visit registry (∅, #[]) "top") := by
  obtain ⟨same, reached, -⟩ := (Plan.plan_eq_postOrder registry).1 roots plan plan_roots
  have found := get?_registry.2.2.2
  have fresh : (∅ : Plan.Marks).contains top.name = false := by simp
  exact ⟨plan_roots, same, reached, found, fresh,
    (Plan.plan_eq_postOrder registry).2 (∅, #[]) "top" top found fresh⟩

end Diamond
end TaskRunner
