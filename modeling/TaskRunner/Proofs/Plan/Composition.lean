import TaskRunner.Proofs.Plan.Refusal
/- # TaskRunner.Proofs.Plan.Composition -- planning some roots and then others

Roots that come later are walked with the marks that the walks from the earlier ones have left.
These marks change nothing but that what is planned already is not planned again.

For a plan that is clear from its post-order: what has been met is closed under prerequisites, so
leaving it out of the walk takes out of its result just what has been met (`postOrder_append_met`).

For an error it has to be shown that the walk comes upon the same cycle.  A walk comes back from a
prerequisite that does not lead into a cycle, and never from one that does.  So when it is refused,
its stack is the way that begins at the root and goes on, from each target, to the first
prerequisite at fault (`Registry.Strays`), up to the first target that it meets for the second time.
The registry alone says which way that is (`Registry.Astray.unique`). -/

namespace TaskRunner
set_option autoImplicit false

/-- Of two chains of a functional relation that start alike, one goes on where the other ends. -/
theorem prefix_of_isChain {α : Type} {relation : α → α → Prop}
    (functional : ∀ a b c, relation a b → relation a c → b = c) {first : α} {rest other : List α}
    (chain : (first :: rest).IsChain relation) (again : (first :: other).IsChain relation) :
    rest <+: other ∨ other <+: rest := by
  induction rest generalizing first other with
  | nil => exact .inl List.nil_prefix
  | cons next rest ih =>
    cases other with
    | nil => exact .inr List.nil_prefix
    | cons nextAgain other =>
      obtain ⟨step, chain⟩ := List.isChain_cons_cons.1 chain
      obtain ⟨stepAgain, again⟩ := List.isChain_cons_cons.1 again
      obtain rfl := functional _ _ _ step stepAgain
      simpa only [List.prefix_cons_inj] using ih chain again

namespace Registry

variable {registry : Registry}

/-! ## What has been met -/

/-- Whether the targets of a list need nothing that is not in it. -/
def SelfContained (registry : Registry) (names : List String) : Prop :=
  ∀ name ∈ names, ∀ prerequisite, registry.Needs name prerequisite → prerequisite ∈ names

theorem SelfContained.mem {done : List String} (closed : registry.SelfContained done)
    {name other : String} (member : name ∈ done)
    (path : Relation.ReflTransGen registry.Needs name other) : other ∈ done := by
  induction path with
  | refl => exact member
  | tail _ needs ih => exact closed _ ih _ needs

/-- Leaving out what is closed under prerequisites takes it out of a post-order, and no more. -/
theorem postOrder_append_met {done : List String} (closed : registry.SelfContained done)
    (met names : List String) :
    registry.postOrder (met ++ done) names =
      (registry.postOrder met names).filter (· ∉ done) := by
  fun_induction postOrder registry met names with
  | case1 met => rw [postOrder, List.filter_nil]
  | case2 met name rest old ih => rw [postOrder_of_met rest (List.mem_append_left _ old), ih]
  | case3 met name rest fresh unknown ih => rw [postOrder_of_unknown rest unknown, ih]
  | case4 met name rest fresh target found inside below behind =>
    rw [List.filter_append]
    by_cases member : name ∈ done
    · -- What is below the target has been met as well, so nothing of it is left.
      have needed : ∀ other ∈ inside, other ∈ done := by
        intro other among
        obtain ⟨prerequisite, needed, path⟩ := needed_of_mem_postOrder among
        exact closed.mem member (path.head ⟨target, found, needed⟩)
      have nothing : inside.filter (· ∉ done) = [] :=
        List.filter_eq_nil_iff.2 fun other among => by simpa using needed other among
      rw [postOrder_of_met rest (List.mem_append_right _ member), nothing, List.nil_append,
        List.filter_cons_of_neg (by simpa using member), ← behind]
      refine postOrder_congr (fun other => ?_) rest
      have covered : other = name ∨ other ∈ inside → other ∈ done := by
        rintro (rfl | among)
        · exact member
        · exact needed other among
      simp only [List.mem_append, List.mem_cons]
      tauto
    · rw [postOrder_of_fresh rest (by simp [fresh, member]) found, ← List.cons_append, below,
        List.filter_cons_of_pos (by simpa using member), ← behind]
      refine congrArg (inside.filter (· ∉ done) ++ name :: ·) (postOrder_congr (fun other => ?_) rest)
      simp only [List.mem_append, List.mem_cons, List.mem_filter, decide_eq_true_eq]
      tauto

theorem postOrder_append (met first second : List String) :
    registry.postOrder met (first ++ second) = registry.postOrder met first ++
      registry.postOrder (registry.postOrder met first ++ met) second := by
  induction first generalizing met with
  | nil => rw [postOrder_nil, List.nil_append, List.nil_append, List.nil_append]
  | cons root rest ih =>
    have same : ∀ other, other ∈ registry.postOrder (registry.postOrder met [root] ++ met) rest ++
        (registry.postOrder met [root] ++ met) ↔ other ∈ registry.postOrder met [root] ++
          registry.postOrder (registry.postOrder met [root] ++ met) rest ++ met := by
      intro other
      simp only [List.mem_append]
      tauto
    rw [List.cons_append, Plan.postOrder_cons, ih, Plan.postOrder_cons met root rest,
      List.append_assoc, postOrder_congr same]

/-- Where everything has been met there is nothing to leave. -/
theorem postOrder_of_all_met {met names : List String} (all : names ⊆ met) :
    registry.postOrder met names = [] := by
  induction names with
  | nil => exact postOrder_nil met
  | cons name rest ih =>
    obtain ⟨old, all⟩ := List.cons_subset.1 all
    rw [postOrder_of_met rest old, ih all]

/-! ## The way into a cycle -/

open scoped Classical in
/-- Whether a target has a prerequisite that leads into a cycle, and which one is the first. -/
def Strays (registry : Registry) (name next : String) : Prop :=
  ∃ target, registry.get? name = some target ∧
    target.prerequisites.find? (registry.LeadsIntoCycle ·) = some next

theorem Strays.unique {name next other : String} (strays : registry.Strays name next)
    (again : registry.Strays name other) : next = other := by
  obtain ⟨target, found, first⟩ := strays
  obtain ⟨same, foundAgain, firstAgain⟩ := again
  obtain rfl := Option.some.inj (found.symm.trans foundAgain)
  exact Option.some.inj (first.symm.trans firstAgain)

/-- The way from a root to the first target that it meets for the second time, which is `next`. -/
structure Astray (registry : Registry) (root : String) (trail : List String) (next : String) :
    Prop where
  head?_eq : trail.head? = some root
  nodup : trail.Nodup
  chain : (trail ++ [next]).IsChain registry.Strays
  back : next ∈ trail

namespace Astray

variable {root next nextAgain : String} {trail other : List String}

/-- A way does not go on behind the end of another one, where it has met a target twice. -/
theorem eq_of_prefix (astray : registry.Astray root trail next)
    (again : registry.Astray root other nextAgain)
    (front : trail ++ [next] <+: other ++ [nextAgain]) : trail = other ∧ next = nextAgain := by
  rcases List.prefix_concat_iff.1 front with same | inside
  · obtain ⟨same, last⟩ := List.append_inj' same rfl
    exact ⟨same, List.singleton_inj.1 last⟩
  · have once := (List.nodup_append.1 (inside.sublist.nodup again.nodup)).2.2
    exact absurd rfl (once next astray.back next (List.mem_singleton_self next))

/-- The registry settles which way that is. -/
theorem unique (astray : registry.Astray root trail next)
    (again : registry.Astray root other nextAgain) : trail = other ∧ next = nextAgain := by
  obtain ⟨rest, rfl⟩ : ∃ rest, trail = root :: rest :=
    ⟨trail.tail, List.eq_cons_of_mem_head? astray.head?_eq⟩
  obtain ⟨restAgain, rfl⟩ : ∃ rest, other = root :: rest :=
    ⟨other.tail, List.eq_cons_of_mem_head? again.head?_eq⟩
  have chain : (root :: (rest ++ [next])).IsChain registry.Strays := astray.chain
  have chainAgain : (root :: (restAgain ++ [nextAgain])).IsChain registry.Strays := again.chain
  rcases prefix_of_isChain (fun name a b (strays : registry.Strays name a)
      (again : registry.Strays name b) => strays.unique again) chain chainAgain with front | front
  · have front : (root :: rest) ++ [next] <+: (root :: restAgain) ++ [nextAgain] :=
      List.cons_prefix_cons.2 ⟨rfl, front⟩
    exact astray.eq_of_prefix again front
  · have front : (root :: restAgain) ++ [nextAgain] <+: (root :: rest) ++ [next] :=
      List.cons_prefix_cons.2 ⟨rfl, front⟩
    obtain ⟨same, last⟩ := again.eq_of_prefix astray front
    exact ⟨same.symm, last.symm⟩

/-- A root from which there is such a way is declared. -/
theorem declared (astray : registry.Astray root trail next) :
    ∃ target, registry.get? root = some target := by
  obtain ⟨rest, rfl⟩ : ∃ rest, trail = root :: rest :=
    ⟨trail.tail, List.eq_cons_of_mem_head? astray.head?_eq⟩
  have chain : (root :: (rest ++ [next])).IsChain registry.Strays := astray.chain
  cases rest with
  | nil | cons =>
    obtain ⟨⟨target, found, -⟩, -⟩ := List.isChain_cons_cons.1 chain
    exact ⟨target, found⟩

end Astray

/-- All targets of a chain of prerequisites need its last one. -/
theorem transGen_of_isChain {last : String} {names : List String}
    (chain : (last :: names).IsChain fun above below => registry.Needs below above) :
    ∀ name ∈ names, Relation.TransGen registry.Needs name last := by
  induction names generalizing last with
  | nil => simp
  | cons next names ih =>
    obtain ⟨needs, chain⟩ := List.isChain_cons_cons.1 chain
    exact List.forall_mem_cons.2 ⟨.single needs, fun name member => (ih chain name member).tail needs⟩

/-- The error that a faulty root is refused with. -/
inductive Refuses (registry : Registry) (root : String) : ConfigError → Prop where
  | unknown (unknown : registry.get? root = none) : Refuses registry root (.unknownTarget root)
  | cyclic {trail : List String} {next : String} {i : Nat}
      (astray : registry.Astray root trail next) (at_ : trail.idxOf? next = some i) :
      Refuses registry root (.cyclicDependency (trail.drop i ++ [next]))

/-- A root is refused with one error, whatever has been walked before. -/
theorem Refuses.unique {root : String} {e other : ConfigError} (refuses : registry.Refuses root e)
    (again : registry.Refuses root other) : e = other := by
  cases refuses with
  | unknown unknown =>
    cases again with
    | unknown => rfl
    | cyclic astray =>
      obtain ⟨target, found⟩ := astray.declared
      rw [unknown] at found
      cases found
  | cyclic astray place =>
    cases again with
    | unknown unknown =>
      obtain ⟨target, found⟩ := astray.declared
      rw [unknown] at found
      cases found
    | cyclic astrayAgain placeAgain =>
      obtain ⟨rfl, rfl⟩ := astray.unique astrayAgain
      rw [Option.some.inj (place.symm.trans placeAgain)]

end Registry

namespace Plan

variable {registry : Registry}

/-! ## The walk into a cycle -/

/-- Whether a frame is at the target of the frame above it, with all before it in the order. -/
def LooksAt (registry : Registry) (order : List String) (above below : Frame) : Prop :=
  ∃ target before, registry.get? below.name = some target ∧
    target.prerequisites = before ++ above.name :: below.pending ∧ before ⊆ order

theorem LooksAt.mono {order longer : List String} (more : order ⊆ longer) {above below : Frame}
    (looks : LooksAt registry order above below) : LooksAt registry longer above below := by
  obtain ⟨target, before, found, split, earlier⟩ := looks
  exact ⟨target, before, found, split, List.Subset.trans earlier more⟩

/-- What a frame has not looked at is of no matter to the one below it. -/
theorem isChain_looksAt_congr {order : List String} {name : String} {pending other : List String}
    {below : List Frame}
    (chain : (⟨name, pending⟩ :: below : List Frame).IsChain (LooksAt registry order)) :
    (⟨name, other⟩ :: below : List Frame).IsChain (LooksAt registry order) := by
  rw [List.isChain_cons] at chain ⊢
  exact chain

/-- The first prerequisite that leads into a cycle is the one behind what is in the order. -/
theorem strays_of_split {order before after : List String} {name next : String} {target : Target}
    (sorted : Sorted registry order) (found : registry.get? name = some target)
    (split : target.prerequisites = before ++ next :: after) (earlier : before ⊆ order)
    (cyclic : registry.LeadsIntoCycle next) : registry.Strays name next := by
  refine ⟨target, found, List.find?_eq_some_iff_append.2 ⟨by simpa using cyclic, before, after,
    split, fun other member => ?_⟩⟩
  have sound : ¬ registry.LeadsIntoCycle other := fun ⟨_, path, loop⟩ =>
    sorted.acyclic (sorted.mem_of_reflTransGen (earlier member) path) loop
  simpa using sound

section States

variable {root : Target} {state : Marks × Array String}
  (begun : Walking registry state.1 [] state.2.toList)
  (found : registry.get? root.name = some root) (fresh : state.1.contains root.name = false)

include begun found fresh

theorem Arises.looksAt {marks : Marks} {stack : List Frame} {order : Array String}
    (arises : Arises registry root state marks stack order) :
    stack.IsChain (LooksAt registry order.toList) := by
  induction arises with
  | start => exact .singleton _
  | leave _ ih => exact ih.tail.imp fun _ _ => LooksAt.mono (by simp)
  | pass _ _ ih => exact isChain_looksAt_congr ih
  | enter arises unmarked known ih =>
    obtain rfl := Registry.name_of_get? known
    obtain ⟨⟨target, seen, foundBelow, split, looked⟩, -⟩ :=
      (arises.walking begun found fresh).seen
    refine (isChain_looksAt_congr ih).cons_cons ⟨target, seen, foundBelow, split, ?_⟩
    exact fun prerequisite member => by simpa using looked prerequisite member

omit begun found fresh in
/-- The root is at the bottom of the stack. -/
theorem Arises.getLast?_eq {marks : Marks} {stack : List Frame} {order : Array String}
    (arises : Arises registry root state marks stack order) :
    ∀ bottom ∈ (stack.map (·.name)).getLast?, bottom = root.name := by
  induction arises with
  | start => simp
  | @leave marks name below order arises ih =>
    cases below with
    | nil => simp
    | cons next rest => simpa [List.getLast?_cons_cons] using ih
  | pass _ _ ih => exact ih
  | enter arises unmarked known ih => simpa [List.getLast?_cons_cons] using ih

/-- A walk that comes to an active prerequisite has gone astray. -/
theorem Arises.astray {marks : Marks} {name next : String} {pending : List String}
    {below : List Frame} {order : Array String}
    (arises : Arises registry root state marks (⟨name, next :: pending⟩ :: below) order)
    (active : marks[next]? = some .active) :
    registry.Astray root.name (trail (⟨name, pending⟩ :: below)) next := by
  have walking := arises.walking begun found fresh
  have on : next ∈ name :: below.map (·.name) := (walking.active_iff next).1 active
  have needed := Registry.transGen_of_isChain
    ((arises.descends begun found fresh).chain.cons_cons walking.needs_next)
  have cyclic : ∀ other ∈ next :: name :: below.map (·.name), registry.LeadsIntoCycle other :=
    List.forall_mem_cons.2 ⟨⟨next, .refl, needed next on⟩, fun other member =>
      ⟨next, (needed other member).to_reflTransGen, needed next on⟩⟩
  refine ⟨?_, List.nodup_reverse.2 walking.stack_nodup, ?_, List.mem_reverse.2 on⟩
  · rw [trail, List.head?_reverse]
    obtain ⟨bottom, last⟩ := Option.ne_none_iff_exists'.1
      (mt List.getLast?_eq_none_iff.1 (List.cons_ne_nil name (below.map (·.name))))
    exact last.trans (congrArg some (arises.getLast?_eq bottom last))
  · -- Read from its end, the way is the prerequisite and then the stack from its top.
    rw [trail, ← List.reverse_cons, List.isChain_reverse, List.isChain_cons]
    obtain ⟨⟨target, seen, known, split, looked⟩, -⟩ := walking.seen
    refine ⟨fun top first => ?_, List.isChain_map _ |>.2 ?_⟩
    · obtain rfl := Option.some.inj first
      exact strays_of_split walking.sorted known split
        (fun prerequisite member => by simpa using looked prerequisite member) (cyclic next (by simp))
    · refine (isChain_looksAt_congr (arises.looksAt begun found fresh)).imp_of_mem_imp ?_
      rintro above frame inside - ⟨target, before, known, split, earlier⟩
      exact strays_of_split walking.sorted known split earlier
        (cyclic above.name (List.mem_cons_of_mem _ (List.mem_map_of_mem inside)))

end States

/-- A root is refused with its own error. -/
theorem refuses_of_visit {state : Marks × Array String} {root : String} {e : ConfigError}
    (walking : Walking registry state.1 [] state.2.toList)
    (refused : visit registry state root = .error e) : registry.Refuses root e := by
  unfold visit at refused
  split at refused
  · next unknown =>
    cases refused
    exact .unknown unknown
  · next target found =>
    split at refused
    · cases refused
    · next fresh =>
      obtain rfl := Registry.name_of_get? found
      have fresh : state.1.contains target.name = false := by simpa using fresh
      obtain ⟨marks, name, next, pending, below, order, arises, reason⟩ :=
        Arises.start.of_refused refused
      have walked := arises.walking walking found fresh
      rcases reason with ⟨active, rfl⟩ | unknown
      · obtain ⟨i, place, closed⟩ :=
          cycle_eq_drop walked.stack_nodup ((walked.active_iff next).1 active)
        exact closed ▸ .cyclic (arises.astray walking found fresh active) place
      · obtain ⟨other, known⟩ := Registry.get?_of_needs walked.needs_next
        rw [unknown] at known
        cases known

/-! ## Plans -/

/-- The plan of roots without a fault. -/
theorem plan_eq_ok_iff {roots : List String} {plan : Plan} :
    registry.plan roots = .ok plan ↔
      (∀ root ∈ roots, ¬ registry.Faulty root) ∧ plan.targets = registry.postOrder [] roots := by
  have unmet : ∀ name : String, name ∈ [] ↔ ({} : Marks).contains name = true := by simp
  constructor
  · intro planned
    obtain ⟨state, walked, planned⟩ := ok_of_bind planned
    cases planned
    exact ⟨sound_of_visits walked, (left_of_visits unmet walked).1⟩
  · rintro ⟨sound, left⟩
    obtain ⟨state, walked⟩ := visits_of_sound sound
    obtain ⟨targets⟩ := plan
    obtain rfl : targets = state.2.toList := left.trans (left_of_visits unmet walked).1.symm
    rw [Registry.plan, walked]
    rfl

/-- The first faulty root settles the error, and nothing but that root. -/
theorem plan_eq_error_iff {roots : List String} {e : ConfigError} :
    registry.plan roots = .error e ↔
      ∃ before root after, roots = before ++ root :: after ∧
        (∀ earlier ∈ before, ¬ registry.Faulty earlier) ∧ registry.Faulty root ∧
          registry.Refuses root e := by
  constructor
  · intro refused
    rcases error_of_bind refused with walked | ⟨state, -, planned⟩
    · obtain ⟨before, root, after, middle, split, earlier, visited⟩ := refused_at walked
      have walking := walking_of_visits (.start registry) earlier
      exact ⟨before, root, after, split, sound_of_visits earlier,
        faulty_of_visit walking visited, refuses_of_visit walking visited⟩
    · cases planned
  · rintro ⟨before, root, after, rfl, sound, faulty, refuses⟩
    obtain ⟨middle, other, earlier, visited, refused⟩ := refused_of_fault sound faulty after
    rw [refused, (refuses_of_visit (walking_of_visits (.start registry) earlier) visited).unique
      refuses]

/-- A plan needs nothing that is not in it. -/
theorem Sorted.selfContained {order : List String} (sorted : Sorted registry order) :
    registry.SelfContained order := fun _ member _ needs => sorted.mem_of_needs member needs

/-- A sorted list is its own post-order. -/
theorem Sorted.postOrder_eq {order : List String} (sorted : Sorted registry order) :
    registry.postOrder [] order = order := by
  induction sorted with
  | nil => exact Registry.postOrder_nil []
  | @snoc order name target sorted found fresh earlier ih =>
    rw [Registry.postOrder_append, ih, List.append_nil, Registry.postOrder_of_fresh [] fresh found,
      Registry.postOrder_of_all_met (List.subset_cons_of_subset name earlier), Registry.postOrder_nil,
      List.nil_append]

/-- No entry of a plan is faulty. -/
theorem Sorted.sound {order : List String} (sorted : Sorted registry order) :
    ∀ name ∈ order, ¬ registry.Faulty name := by
  rintro name member (unknown | ⟨cause, path, loop⟩)
  · obtain ⟨target, found⟩ := sorted.declared member
    rw [unknown] at found
    cases found
  · exact sorted.acyclic (sorted.mem_of_reflTransGen member path) loop

variable {first second : List String} {plan other : Plan} {e : ConfigError}

theorem plan_append_of_error (refused : registry.plan first = .error e) :
    registry.plan (first ++ second) = .error e := by
  obtain ⟨before, root, after, rfl, sound, faulty, refuses⟩ := plan_eq_error_iff.1 refused
  exact plan_eq_error_iff.2 ⟨before, root, after ++ second, by simp, sound, faulty, refuses⟩

/-- The cycle that a later root leads into is found all the same. -/
theorem plan_append_of_ok_of_error (planned : registry.plan first = .ok plan)
    (refused : registry.plan second = .error e) : registry.plan (first ++ second) = .error e := by
  obtain ⟨before, root, after, rfl, sound, faulty, refuses⟩ := plan_eq_error_iff.1 refused
  refine plan_eq_error_iff.2 ⟨first ++ before, root, after, by simp, ?_, faulty, refuses⟩
  exact List.forall_mem_append.2 ⟨(plan_eq_ok_iff.1 planned).1, sound⟩

/-- The plan of further roots goes on with what is not planned yet. -/
theorem plan_append_of_ok (planned : registry.plan first = .ok plan)
    (more : registry.plan second = .ok other) :
    registry.plan (first ++ second) =
      .ok ⟨plan.targets ++ other.targets.filter (· ∉ plan.targets)⟩ := by
  obtain ⟨sound, left⟩ := plan_eq_ok_iff.1 planned
  obtain ⟨soundMore, leftMore⟩ := plan_eq_ok_iff.1 more
  refine plan_eq_ok_iff.2 ⟨List.forall_mem_append.2 ⟨sound, soundMore⟩, ?_⟩
  have closed := (sorted_of_plan planned).selfContained
  rw [Registry.postOrder_append, ← left, leftMore, ← Registry.postOrder_append_met closed,
    List.append_nil, List.nil_append]

/-- Planning the entries of a plan gives that plan. -/
theorem plan_targets (planned : registry.plan first = .ok plan) :
    registry.plan plan.targets = .ok plan := by
  have sorted := sorted_of_plan planned
  exact plan_eq_ok_iff.2 ⟨sorted.sound, sorted.postOrder_eq.symm⟩

/-- Of the roots that come first only their plan, or their error, counts. -/
theorem plan_append_congr {firstAgain : List String}
    (same : registry.plan first = registry.plan firstAgain) (second : List String) :
    registry.plan (first ++ second) = registry.plan (firstAgain ++ second) := by
  cases planned : registry.plan first with
  | error e => rw [plan_append_of_error planned, plan_append_of_error (same.symm.trans planned)]
  | ok plan =>
    have plannedAgain := same.symm.trans planned
    cases more : registry.plan second with
    | error e =>
      rw [plan_append_of_ok_of_error planned more, plan_append_of_ok_of_error plannedAgain more]
    | ok other => rw [plan_append_of_ok planned more, plan_append_of_ok plannedAgain more]

/-- A root that comes again changes nothing. -/
theorem plan_repeat {root : String} (again : root ∈ first) (second : List String) :
    registry.plan (first ++ root :: second) = registry.plan (first ++ second) := by
  have same : registry.plan (first ++ [root]) = registry.plan first := by
    cases planned : registry.plan first with
    | error e => exact plan_append_of_error planned
    | ok plan =>
      obtain ⟨sound, left⟩ := plan_eq_ok_iff.1 planned
      obtain ⟨target, found⟩ : ∃ target, registry.get? root = some target :=
        Option.ne_none_iff_exists'.1 (mt Or.inl (sound root again))
      have met : root ∈ registry.postOrder [] first :=
        (Registry.mem_postOrder_of_mem found again).resolve_left List.not_mem_nil
      have nothing : registry.postOrder (registry.postOrder [] first) [root] = [] :=
        Registry.postOrder_of_all_met (List.cons_subset.2 ⟨met, List.nil_subset _⟩)
      refine plan_eq_ok_iff.2 ⟨List.forall_mem_append.2 ⟨sound, by simpa using sound root again⟩, ?_⟩
      rw [Registry.postOrder_append, List.append_nil, nothing, List.append_nil, left]
  rw [← plan_append_congr same second, List.append_assoc, List.singleton_append]

/-- **Plans compose.**  An error of the first roots is that of all; else an error of the others is,
with the same cycle; else the plan of the first roots is followed by those entries of the other plan
that are not in it.  So a root that is repeated changes nothing, and a plan is its own plan. -/
theorem plan_append (registry : Registry) :
    (∀ first second e, registry.plan first = .error e →
      registry.plan (first ++ second) = .error e) ∧
    (∀ first second plan e, registry.plan first = .ok plan → registry.plan second = .error e →
      registry.plan (first ++ second) = .error e) ∧
    (∀ first second plan other, registry.plan first = .ok plan →
      registry.plan second = .ok other → registry.plan (first ++ second) =
        .ok ⟨plan.targets ++ other.targets.filter (· ∉ plan.targets)⟩) ∧
    (∀ first root second, root ∈ first →
      registry.plan (first ++ root :: second) = registry.plan (first ++ second)) ∧
    ∀ roots plan, registry.plan roots = .ok plan → registry.plan plan.targets = .ok plan := by
  refine ⟨?_, ?_, ?_, ?_, ?_⟩
  · intro first second e refused
    exact plan_append_of_error refused
  · intro first second plan e planned refused
    exact plan_append_of_ok_of_error planned refused
  · intro first second plan other planned more
    exact plan_append_of_ok planned more
  · intro first root second again
    exact plan_repeat again second
  · intro roots plan planned
    exact plan_targets planned

end Plan

/-! ## Plans of the diamond and of the knot -/

namespace Diamond

theorem plan_right : registry.plan ["right"] = .ok ⟨["base", "right"]⟩ := by
  obtain ⟨foundBase, -, foundRight, -⟩ := get?_registry
  simp only [base, right] at foundBase foundRight
  simp [Registry.plan, Plan.visit, foundBase, foundRight, Plan.walk_of_over, Plan.walk_of_looked,
    Plan.walk_of_done, Plan.walk_of_fresh]

theorem plan_top : registry.plan ["top"] = .ok ⟨["base", "left", "right", "top"]⟩ := by
  obtain ⟨foundBase, foundLeft, foundRight, foundTop⟩ := get?_registry
  simp only [base, left, right, top] at foundBase foundLeft foundRight foundTop
  simp [Registry.plan, Plan.visit, foundBase, foundLeft, foundRight, foundTop, Plan.walk_of_over,
    Plan.walk_of_looked, Plan.walk_of_done, Plan.walk_of_fresh, Std.HashMap.getElem_insert]

end Diamond

namespace Knot

theorem plan_base : registry.plan ["base"] = .ok ⟨["base"]⟩ := by
  rw [Registry.plan, visits_base]
  rfl

theorem plan_entry : registry.plan ["entry"] = .error (.cyclicDependency ["x", "y", "x"]) := by
  obtain ⟨foundBase, foundEntry, foundX, foundY⟩ := get?_registry
  simp only [base, entry, x, y] at foundBase foundEntry foundX foundY
  simp [Registry.plan, Plan.visit, foundBase, foundEntry, foundX, foundY, Plan.walk_of_looked,
    Plan.walk_of_active, Plan.walk_of_fresh, Plan.cycle, Std.HashMap.getElem_insert]

/-- Plans of the knot and of the diamond, with and without an error. -/
theorem plan_append_small :
    registry.plan ["entry"] = .error (.cyclicDependency ["x", "y", "x"]) ∧
    registry.plan (["entry"] ++ ["base"]) = .error (.cyclicDependency ["x", "y", "x"]) ∧
    registry.plan ["base"] = .ok ⟨["base"]⟩ ∧
    registry.plan (["base"] ++ ["entry"]) = .error (.cyclicDependency ["x", "y", "x"]) ∧
    Diamond.registry.plan ["right"] = .ok ⟨["base", "right"]⟩ ∧
    Diamond.registry.plan ["top"] = .ok ⟨["base", "left", "right", "top"]⟩ ∧
    Diamond.registry.plan (["right"] ++ ["top"]) = .ok ⟨["base", "right", "left", "top"]⟩ ∧
    "right" ∈ ["right"] ∧
    Diamond.registry.plan (["right"] ++ "right" :: ["top"]) =
      Diamond.registry.plan (["right"] ++ ["top"]) ∧
    Diamond.registry.plan ["base", "right"] = .ok ⟨["base", "right"]⟩ := by
  obtain ⟨ofError, ofOkOfError, -⟩ := Plan.plan_append registry
  obtain ⟨-, -, ofOk, again, targets⟩ := Plan.plan_append Diamond.registry
  exact ⟨plan_entry, ofError _ _ _ plan_entry, plan_base, ofOkOfError _ _ _ _ plan_base plan_entry,
    Diamond.plan_right, Diamond.plan_top, ofOk _ _ _ _ Diamond.plan_right Diamond.plan_top,
    by simp, again _ _ _ (by simp), targets _ _ Diamond.plan_right⟩

end Knot
end TaskRunner
