import TaskRunner.Proofs.Plan.Order
import TaskRunner.Staleness
/- # TaskRunner.Proofs.Staleness -- what it takes to be up to date

`Staleness.check` goes through outputs and prerequisites in order and stops at the first reason.
`Staleness.Fresh` says without an order what it looks for and does not find, and
`isDue_check_eq_false_iff` that the two agree: a target is not due exactly if all of its outputs are
there, none of its prerequisites was rebuilt or is always due, and each output of a prerequisite is
there and not newer than any output of the target.  Comparing with the oldest output is what makes
that hold of all of them.

`Staleness.Due` takes the verdicts on everything that a target needs together: the target is due if
one of them is not fresh, since being rebuilt is passed on (`not_due_iff`). -/

namespace TaskRunner
set_option autoImplicit false

namespace Staleness

variable {registry : Registry} {times : FileTimes} {rebuilt : List String} {target : Target}

/-- Whether the files give no reason to run the recipe of a target. -/
structure Fresh (registry : Registry) (times : FileTimes) (target : Target) : Prop where
  not_alwaysDue : target.alwaysDue = false
  present : ∀ output ∈ target.outputs, ∃ made, times output = some made
  judged : ∀ name ∈ target.prerequisites, ∀ prerequisite,
    registry.get? name = some prerequisite → prerequisite.alwaysDue = false
  /-- No output of a prerequisite is missing, or newer than an output of the target. -/
  older : ∀ name ∈ target.prerequisites, ∀ prerequisite,
    registry.get? name = some prerequisite → ∀ input ∈ prerequisite.outputs,
      ∃ changed, times input = some changed ∧
        ∀ output ∈ target.outputs, ∀ made, times output = some made → changed ≤ made

/-- Whether a target is fresh depends on nothing but its outputs and those of its prerequisites. -/
theorem Fresh.of_agree {others : FileTimes} (fresh : Fresh registry times target)
    (own : ∀ output ∈ target.outputs, others output = times output)
    (inputs : ∀ name ∈ target.prerequisites, ∀ prerequisite,
      registry.get? name = some prerequisite → ∀ input ∈ prerequisite.outputs,
        others input = times input) : Fresh registry others target := by
  refine ⟨fresh.not_alwaysDue, fun output member => ?_, fresh.judged,
    fun name needed prerequisite found input member => ?_⟩
  · rw [own output member]
    exact fresh.present output member
  · obtain ⟨changed, written, older⟩ := fresh.older name needed prerequisite found input member
    refine ⟨changed, (inputs name needed prerequisite found input member).trans written, ?_⟩
    intro output member made there
    exact older output member made (own output member ▸ there)

/-! ## The oldest output -/

/-- The first of those paths of a list that were made at the least time; none of them is missing. -/
structure Oldest (times : FileTimes) (paths : List String) (output : String) (made : FileTime) :
    Prop where
  least : ∀ path ∈ paths, ∃ time, times path = some time ∧ made ≤ time
  first : paths.find? (times · = some made) = some output

namespace Oldest

variable {output path : String} {made time : FileTime} {paths rest : List String}

theorem singleton (found : times path = some time) : Oldest times [path] path time :=
  ⟨by simp [found], by simp [found]⟩

/-- A path in front that was made later changes nothing. -/
theorem cons_later (oldest : Oldest times rest output made) (found : times path = some time)
    (later : made < time) : Oldest times (path :: rest) output made := by
  refine ⟨List.forall_mem_cons.2 ⟨⟨time, found, Int.le_of_lt later⟩, oldest.least⟩, ?_⟩
  rw [List.find?_cons_of_neg (by simpa [found] using Int.ne_of_gt later)]
  exact oldest.first

/-- Neither does one behind the front that was not made before it. -/
theorem cons_cons {next : String} {nextTime : FileTime}
    (oldest : Oldest times (path :: rest) output made) (found : times path = some time)
    (foundNext : times next = some nextTime) (notBefore : time ≤ nextTime) :
    Oldest times (path :: next :: rest) output made := by
  obtain ⟨⟨frontTime, same, le⟩, least⟩ := List.forall_mem_cons.1 oldest.least
  obtain rfl : time = frontTime := Option.some.inj (found.symm.trans same)
  refine ⟨List.forall_mem_cons.2 ⟨⟨time, found, le⟩, List.forall_mem_cons.2
    ⟨⟨nextTime, foundNext, Int.le_trans le notBefore⟩, least⟩⟩, ?_⟩
  have first := oldest.first
  rcases Int.le_iff_lt_or_eq.1 le with lt | rfl
  · have skip : times path ≠ some made := by simpa [found] using Int.ne_of_gt lt
    have skipNext : times next ≠ some made := by
      simpa [foundNext] using Int.ne_of_gt (Int.lt_of_lt_of_le lt notBefore)
    simpa [List.find?_cons, skip, skipNext] using first
  · simpa [List.find?_cons, found] using first

theorem mem (oldest : Oldest times paths output made) : output ∈ paths :=
  List.mem_of_find?_eq_some oldest.first

theorem found (oldest : Oldest times paths output made) : times output = some made := by
  simpa using List.find?_some oldest.first

theorem present (oldest : Oldest times paths output made) :
    ∀ path ∈ paths, ∃ time, times path = some time := fun path member =>
  let ⟨time, found, _⟩ := oldest.least path member
  ⟨time, found⟩

theorem le_iff (oldest : Oldest times paths output made) (bound : FileTime) :
    bound ≤ made ↔ ∀ path ∈ paths, ∀ time, times path = some time → bound ≤ time := by
  constructor
  · intro le path member time found
    obtain ⟨least, same, lower⟩ := oldest.least path member
    obtain rfl : time = least := Option.some.inj (found.symm.trans same)
    exact Int.le_trans le lower
  · intro lower
    exact lower output oldest.mem made oldest.found

theorem unique {other : String} {otherMade : FileTime} (oldest : Oldest times paths output made)
    (again : Oldest times paths other otherMade) : output = other ∧ made = otherMade := by
  have same : made = otherMade := Int.le_antisymm
    ((again.le_iff made).2 ((oldest.le_iff made).1 (Int.le_refl _)))
    ((oldest.le_iff otherMade).2 ((again.le_iff otherMade).1 (Int.le_refl _)))
  subst same
  exact ⟨Option.some.inj (oldest.first.symm.trans again.first), rfl⟩

end Oldest

theorem oldest_of_ok {path output : String} {time made : FileTime} {rest : List String}
    (found : times path = some time) (h : oldest times time path rest = .ok (made, output)) :
    Oldest times (path :: rest) output made := by
  induction rest generalizing time path with
  | nil =>
    cases h
    exact .singleton found
  | cons next rest ih =>
    unfold oldest at h
    split at h
    · cases h
    · next nextTime foundNext =>
      split at h
      · next less =>
        have oldest := ih foundNext h
        obtain ⟨⟨frontTime, same, le⟩, -⟩ := List.forall_mem_cons.1 oldest.least
        obtain rfl : nextTime = frontTime := Option.some.inj (foundNext.symm.trans same)
        exact oldest.cons_later found (Int.lt_of_le_of_lt le less)
      · next notLess => exact (ih found h).cons_cons found foundNext (Int.not_lt.1 notLess)

theorem oldest_eq_error_iff {time : FileTime} {path missing : String} {rest : List String} :
    oldest times time path rest = .error missing ↔
      rest.find? (times · = none) = some missing := by
  induction rest generalizing time path with
  | nil => simp [oldest]
  | cons next rest ih =>
    unfold oldest
    cases found : times next with
    | none => simp [found]
    | some nextTime =>
      rw [List.find?_cons_of_neg (by simp [found])]
      dsimp only
      split <;> exact ih

theorem oldest_eq_ok_iff {path output : String} {time made : FileTime} {rest : List String}
    (found : times path = some time) :
    oldest times time path rest = .ok (made, output) ↔
      Oldest times (path :: rest) output made := by
  refine ⟨oldest_of_ok found, fun oldest => ?_⟩
  cases h : Staleness.oldest times time path rest with
  | error missing =>
    have first := oldest_eq_error_iff.1 h
    obtain ⟨there, present⟩ :=
      oldest.present missing (List.mem_cons_of_mem _ (List.mem_of_find?_eq_some first))
    have absent : times missing = none := by simpa using List.find?_some first
    rw [absent] at present
    cases present
  | ok result =>
    obtain ⟨rfl, rfl⟩ := oldest.unique (oldest_of_ok found h)
    rfl

/-! ## Prerequisites -/

theorem ofInputs_eq_none_iff {output : String} {made : FileTime} {paths : List String} :
    ofInputs times output made paths = none ↔
      ∀ path ∈ paths, ∃ changed, times path = some changed ∧ changed ≤ made := by
  induction paths with
  | nil => simp [ofInputs]
  | cons path rest ih =>
    unfold ofInputs
    rw [List.forall_mem_cons]
    split
    · next absent => simp [absent]
    · next time found =>
      split
      · next newer => simp [found, Int.not_le.2 newer]
      · next older => simp [found, Int.not_lt.1 older, ih]

theorem ofPrerequisite_eq_none_iff {output name : String} {made : FileTime} :
    ofPrerequisite registry times rebuilt output made name = none ↔
      name ∉ rebuilt ∧ ∀ prerequisite, registry.get? name = some prerequisite →
        prerequisite.alwaysDue = false ∧ ∀ input ∈ prerequisite.outputs,
          ∃ changed, times input = some changed ∧ changed ≤ made := by
  unfold ofPrerequisite
  split
  · next again => simp [again]
  · next kept =>
    split
    · next unknown => simp [kept, unknown]
    · next prerequisite found =>
      split
      · next always => simp [kept, found, always]
      · next judged => simp [kept, found, judged, ofInputs_eq_none_iff]

theorem isDue_ofInputs {output : String} {made : FileTime} {paths : List String}
    {reason : Staleness} (h : ofInputs times output made paths = some reason) :
    reason.isDue = true := by
  induction paths with
  | nil => cases h
  | cons path rest ih =>
    unfold ofInputs at h
    split at h
    · cases h; rfl
    · split at h
      · cases h; rfl
      · exact ih h

theorem isDue_ofPrerequisite {output name : String} {made : FileTime} {reason : Staleness}
    (h : ofPrerequisite registry times rebuilt output made name = some reason) :
    reason.isDue = true := by
  unfold ofPrerequisite at h
  split at h
  · cases h; rfl
  · split at h
    · cases h
    · split at h
      · cases h; rfl
      · exact isDue_ofInputs h

/-! ## The verdict -/

/-- When `made` is the time of the oldest output of a target, its prerequisites settle whether it is
fresh. -/
theorem fresh_iff_of_oldest {output : String} {made : FileTime}
    (judged : target.alwaysDue = false) (oldest : Oldest times target.outputs output made) :
    (Fresh registry times target ∧ ∀ name ∈ target.prerequisites, name ∉ rebuilt) ↔
      ∀ name ∈ target.prerequisites,
        ofPrerequisite registry times rebuilt output made name = none := by
  simp only [ofPrerequisite_eq_none_iff, oldest.le_iff]
  constructor
  · rintro ⟨fresh, kept⟩ name needed
    exact ⟨kept name needed, fun prerequisite found =>
      ⟨fresh.judged name needed prerequisite found,
        fresh.older name needed prerequisite found⟩⟩
  · intro each
    exact ⟨⟨judged, oldest.present,
      fun name needed prerequisite found => ((each name needed).2 prerequisite found).1,
      fun name needed prerequisite found => ((each name needed).2 prerequisite found).2⟩,
      fun name needed => (each name needed).1⟩

theorem not_fresh_of_missing {path : String} (member : path ∈ target.outputs)
    (absent : times path = none) : ¬ Fresh registry times target := by
  intro fresh
  obtain ⟨made, found⟩ := fresh.present path member
  rw [absent] at found
  cases found

/-- **A target is not due exactly if it is fresh and no prerequisite was rebuilt.** -/
theorem isDue_check_eq_false_iff :
    (check registry times rebuilt target).isDue = false ↔
      Fresh registry times target ∧ ∀ name ∈ target.prerequisites, name ∉ rebuilt := by
  unfold check
  split
  · next always =>
    refine iff_of_false (by decide) fun ⟨fresh, _⟩ => ?_
    rw [fresh.not_alwaysDue] at always
    cases always
  · next judged =>
    have judged : target.alwaysDue = false := by simpa using judged
    split
    · next empty => simp [Target.alwaysDue, empty] at judged
    · next first rest outputs =>
      split
      · next absent =>
        exact iff_of_false (by simp [isDue]) fun ⟨fresh, _⟩ =>
          not_fresh_of_missing (by simp [outputs]) absent fresh
      · next time found =>
        split
        · next path error =>
          have first := oldest_eq_error_iff.1 error
          have member : path ∈ target.outputs := by
            rw [outputs]
            exact List.mem_cons_of_mem _ (List.mem_of_find?_eq_some first)
          have absent : times path = none := by simpa using List.find?_some first
          exact iff_of_false (by simp [isDue]) fun ⟨fresh, _⟩ =>
            not_fresh_of_missing member absent fresh
        · next made output ok =>
          rw [fresh_iff_of_oldest judged (outputs ▸ oldest_of_ok found ok)]
          split
          · next reason given =>
            obtain ⟨name, needed, given⟩ := List.exists_of_findSome?_eq_some given
            refine iff_of_false (by simp [isDue_ofPrerequisite given]) fun each => ?_
            rw [each name needed] at given
            cases given
          · next silent => exact iff_of_true rfl (List.findSome?_eq_none_iff.1 silent)

/-- Where nothing counts as rebuilt, the files alone settle the verdict. -/
theorem isDue_check_nil :
    (check registry times [] target).isDue = false ↔ Fresh registry times target := by
  simp [isDue_check_eq_false_iff]

/-! ## What a target needs -/

/-- Whether a target or something that it needs, directly or not, is not fresh. -/
def Due (registry : Registry) (times : FileTimes) (name : String) : Prop :=
  ∃ other target, Relation.ReflTransGen registry.Needs name other ∧
    registry.get? other = some target ∧ ¬ Fresh registry times target

theorem Due.of_needs {name prerequisite : String} (due : Due registry times prerequisite)
    (needs : registry.Needs name prerequisite) : Due registry times name := by
  obtain ⟨other, target, path, found, stale⟩ := due
  exact ⟨other, target, path.head needs, found, stale⟩

/-- A target is due if the files say so, or if it needs something that is due. -/
theorem not_due_iff {name : String} (found : registry.get? name = some target) :
    ¬ Due registry times name ↔
      Fresh registry times target ∧
        ∀ prerequisite ∈ target.prerequisites, ¬ Due registry times prerequisite := by
  constructor
  · intro settled
    refine ⟨?_, fun prerequisite needed due => settled (due.of_needs ⟨target, found, needed⟩)⟩
    by_contra stale
    exact settled ⟨name, target, .refl, found, stale⟩
  · rintro ⟨fresh, settled⟩ ⟨other, source, path, known, stale⟩
    rcases Relation.ReflTransGen.cases_head path with rfl | ⟨prerequisite, needs, rest⟩
    · obtain rfl := Option.some.inj (known.symm.trans found)
      exact stale fresh
    · obtain ⟨same, again, needed⟩ := needs
      obtain rfl := Option.some.inj (again.symm.trans found)
      exact settled prerequisite needed ⟨other, source, rest, known, stale⟩

end Staleness
end TaskRunner
