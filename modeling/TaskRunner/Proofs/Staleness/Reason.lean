import TaskRunner.Proofs.Staleness
/- # TaskRunner.Proofs.Staleness.Reason -- which reason is given

A target may be due for several reasons, and `Staleness.check` gives one of them.
`Staleness.Judged` says which: being phony comes before a missing output of the target, and that
before all that prerequisites give; of these, and of the outputs of each, the first that gives a
reason at all is named (`Staleness.Blamed`).  The cases of these relations do not follow the steps
of the check.  Each divides a list at the entry that it is about and says of those before it what
keeps them from giving a reason.

Times are compared with that of the oldest output of the target, which is also the one that the
reason names (`Staleness.Oldest`). -/

namespace TaskRunner
set_option autoImplicit false

namespace Staleness

variable {registry : Registry} {times : FileTimes} {rebuilt : List String} {target : Target}
  {output name : String} {made : FileTime} {reason : Staleness}

/-! ## The outputs of a prerequisite -/

/-- Whether a file is there and was not changed after a time. -/
def Older (times : FileTimes) (made : FileTime) (input : String) : Prop :=
  ∃ changed, times input = some changed ∧ ¬ made < changed

/-- The reason that one file gives against an output made at a time. -/
inductive Spoiled (times : FileTimes) (output : String) (made : FileTime) (input : String) :
    Staleness → Prop where
  | missing (absent : times input = none) : Spoiled times output made input (.missingOutput input)
  | newer {changed : FileTime} (found : times input = some changed) (newer : made < changed) :
      Spoiled times output made input (.outdated output input)

/-- The reason that one file gives, if it gives any. -/
def ofInput (times : FileTimes) (output : String) (made : FileTime) (input : String) :
    Option Staleness :=
  match times input with
  | none => some (.missingOutput input)
  | some changed => if made < changed then some (.outdated output input) else none

theorem ofInputs_eq_findSome? (times : FileTimes) (output : String) (made : FileTime)
    (paths : List String) :
    ofInputs times output made paths = paths.findSome? (ofInput times output made) := by
  induction paths with
  | nil => rfl
  | cons path rest ih =>
    rw [ofInputs, List.findSome?_cons, ofInput]
    cases found : times path with
    | none => rfl
    | some changed =>
      dsimp only
      split
      · rfl
      · exact ih

theorem ofInput_eq_none_iff {input : String} :
    ofInput times output made input = none ↔ Older times made input := by
  unfold ofInput Older
  cases found : times input with
  | none => simp
  | some changed => simp

theorem ofInput_eq_some_iff {input : String} :
    ofInput times output made input = some reason ↔ Spoiled times output made input reason := by
  unfold ofInput
  constructor
  · intro given
    split at given
    · next absent =>
      cases given
      exact .missing absent
    · next changed found =>
      split at given
      · next newer =>
        cases given
        exact .newer found newer
      · cases given
  · rintro (absent | ⟨found, newer⟩)
    · simp [absent]
    · simp [found, newer]

/-! ## Prerequisites -/

/-- Whether a prerequisite gives no reason against outputs of which the oldest was made at a time. -/
structure Cleared (registry : Registry) (times : FileTimes) (rebuilt : List String)
    (made : FileTime) (name : String) : Prop where
  kept : name ∉ rebuilt
  judged : ∀ prerequisite, registry.get? name = some prerequisite →
    prerequisite.phony = false ∧ prerequisite.outputs ≠ []
  older : ∀ prerequisite, registry.get? name = some prerequisite →
    ∀ input ∈ prerequisite.outputs, Older times made input

/-- The reason that one prerequisite gives: that it was rebuilt, else that it is always due, else
what the first of its outputs says that says anything. -/
inductive Blamed (registry : Registry) (times : FileTimes) (rebuilt : List String)
    (output : String) (made : FileTime) (name : String) : Staleness → Prop where
  | rebuilt (again : name ∈ rebuilt) :
      Blamed registry times rebuilt output made name (.prerequisiteRebuilt name)
  | phony {prerequisite : Target} (kept : name ∉ rebuilt)
      (found : registry.get? name = some prerequisite)
      (always : prerequisite.phony = true ∨ prerequisite.outputs = []) :
      Blamed registry times rebuilt output made name (.phonyPrerequisite name)
  | input {prerequisite : Target} {before after : List String} {input : String}
      {reason : Staleness} (kept : name ∉ rebuilt)
      (found : registry.get? name = some prerequisite) (judged : prerequisite.phony = false)
      (split : prerequisite.outputs = before ++ input :: after)
      (older : ∀ path ∈ before, Older times made path)
      (spoiled : Spoiled times output made input reason) :
      Blamed registry times rebuilt output made name reason

theorem ofPrerequisite_eq_none_iff_cleared :
    ofPrerequisite registry times rebuilt output made name = none ↔
      Cleared registry times rebuilt made name := by
  rw [ofPrerequisite_eq_none_iff]
  constructor
  · rintro ⟨kept, settled⟩
    refine ⟨kept, fun prerequisite found => ?_, fun prerequisite found input member => ?_⟩
    · exact prerequisite.alwaysDue_eq_false_iff.1 (settled prerequisite found).1
    · obtain ⟨changed, there, le⟩ := (settled prerequisite found).2 input member
      exact ⟨changed, there, Int.not_lt.2 le⟩
  · rintro ⟨kept, judged, older⟩
    refine ⟨kept, fun prerequisite found => ⟨?_, fun input member => ?_⟩⟩
    · exact prerequisite.alwaysDue_eq_false_iff.2 (judged prerequisite found)
    · obtain ⟨changed, there, le⟩ := older prerequisite found input member
      exact ⟨changed, there, Int.not_lt.1 le⟩

theorem ofPrerequisite_eq_some_iff :
    ofPrerequisite registry times rebuilt output made name = some reason ↔
      Blamed registry times rebuilt output made name reason := by
  unfold ofPrerequisite
  constructor
  · intro given
    split at given
    · next again =>
      cases given
      exact .rebuilt again
    · next kept =>
      split at given
      · cases given
      · next prerequisite found =>
        split at given
        · next always =>
          cases given
          exact .phony kept found (prerequisite.alwaysDue_iff.1 always)
        · next judged =>
          rw [ofInputs_eq_findSome?, List.findSome?_eq_some_iff] at given
          obtain ⟨before, input, after, split, given, silent⟩ := given
          have judged := prerequisite.alwaysDue_eq_false_iff.1 (by simpa using judged)
          exact .input kept found judged.1 split
            (fun path member => ofInput_eq_none_iff.1 (silent path member))
            (ofInput_eq_some_iff.1 given)
  · rintro (again | ⟨kept, found, always⟩ | ⟨kept, found, judged, split, older, spoiled⟩)
    · rw [if_pos again]
    · rw [if_neg kept, found]
      exact if_pos (Target.alwaysDue_iff _ |>.2 always)
    · have judged := (Target.alwaysDue_eq_false_iff _).2 ⟨judged, by simp [split]⟩
      rw [if_neg kept, found]
      dsimp only
      rw [if_neg (by simp [judged]), ofInputs_eq_findSome?, List.findSome?_eq_some_iff]
      exact ⟨_, _, _, split, ofInput_eq_some_iff.2 spoiled,
        fun path member => ofInput_eq_none_iff.2 (older path member)⟩

/-! ## The verdict -/

/-- The verdict on a target. -/
inductive Judged (registry : Registry) (times : FileTimes) (rebuilt : List String)
    (target : Target) : Staleness → Prop where
  | phony (always : target.phony = true ∨ target.outputs = []) :
      Judged registry times rebuilt target .phony
  | missing {before after : List String} {path : String} (judged : target.phony = false)
      (split : target.outputs = before ++ path :: after)
      (present : ∀ other ∈ before, ∃ time, times other = some time)
      (absent : times path = none) :
      Judged registry times rebuilt target (.missingOutput path)
  | prerequisite {before after : List String} {output name : String} {made : FileTime}
      {reason : Staleness} (judged : target.phony = false)
      (oldest : Oldest times target.outputs output made)
      (split : target.prerequisites = before ++ name :: after)
      (cleared : ∀ other ∈ before, Cleared registry times rebuilt made other)
      (blamed : Blamed registry times rebuilt output made name reason) :
      Judged registry times rebuilt target reason
  | upToDate {output : String} {made : FileTime} (judged : target.phony = false)
      (oldest : Oldest times target.outputs output made)
      (cleared : ∀ name ∈ target.prerequisites, Cleared registry times rebuilt made name) :
      Judged registry times rebuilt target .upToDate

theorem judged_check (registry : Registry) (times : FileTimes) (rebuilt : List String)
    (target : Target) : Judged registry times rebuilt target (check registry times rebuilt target) := by
  unfold check
  split
  · next always => exact .phony (target.alwaysDue_iff.1 always)
  · next judged =>
    have judged := (target.alwaysDue_eq_false_iff.1 (by simpa using judged)).1
    split
    · next empty => exact .phony (.inr empty)
    · next first rest outputs =>
      split
      · next absent =>
        have front : target.outputs = [] ++ first :: rest := outputs
        exact .missing judged front (by simp) absent
      · next time found =>
        split
        · next path error =>
          obtain ⟨absent, before, after, split, present⟩ :=
            List.find?_eq_some_iff_append.1 (oldest_eq_error_iff.1 error)
          have behind : target.outputs = (first :: before) ++ path :: after := by
            rw [outputs, split, List.cons_append]
          refine .missing judged behind (List.forall_mem_cons.2 ⟨⟨time, found⟩,
            fun other member => ?_⟩) (by simpa using absent)
          exact Option.ne_none_iff_exists'.1 (by simpa using present other member)
        · next made output ok =>
          have oldest : Oldest times target.outputs output made := outputs ▸ oldest_of_ok found ok
          split
          · next reason given =>
            obtain ⟨before, name, after, split, given, silent⟩ :=
              List.findSome?_eq_some_iff.1 given
            exact .prerequisite judged oldest split
              (fun other member => ofPrerequisite_eq_none_iff_cleared.1 (silent other member))
              (ofPrerequisite_eq_some_iff.1 given)
          · next silent =>
            exact .upToDate judged oldest fun name needed =>
              ofPrerequisite_eq_none_iff_cleared.1 (List.findSome?_eq_none_iff.1 silent name needed)

/-- Once the oldest output is known, the prerequisites settle the verdict. -/
theorem check_of_oldest (judged : target.phony = false)
    (found : Oldest times target.outputs output made) :
    check registry times rebuilt target =
      (target.prerequisites.findSome? (ofPrerequisite registry times rebuilt output made)).getD
        .upToDate := by
  unfold check
  cases outputs : target.outputs with
  | nil => simpa [outputs] using found.mem
  | cons first rest =>
    rw [outputs] at found
    obtain ⟨time, there⟩ := found.present first List.mem_cons_self
    rw [if_neg (by simp [Target.alwaysDue, judged, outputs])]
    simp only [there, (oldest_eq_ok_iff there).2 found]
    split
    · next given => rw [given]; rfl
    · next silent => rw [silent]; rfl

theorem check_of_judged {verdict : Staleness}
    (judged : Judged registry times rebuilt target verdict) :
    check registry times rebuilt target = verdict := by
  cases judged with
  | phony always =>
    unfold check
    rw [if_pos (target.alwaysDue_iff.2 always)]
  | @missing before after path judged split present absent =>
    unfold check
    rw [if_neg (by simp [Target.alwaysDue, judged, split]), split]
    cases before with
    | nil => simp [absent]
    | cons first before =>
      obtain ⟨⟨time, found⟩, present⟩ := List.forall_mem_cons.1 present
      have error : oldest times time first (before ++ path :: after) = .error path := by
        rw [oldest_eq_error_iff, List.find?_eq_some_iff_append]
        refine ⟨by simpa using absent, before, after, rfl, fun other member => ?_⟩
        obtain ⟨made, there⟩ := present other member
        simp [there]
      simp [found, error]
  | @prerequisite before after output name made reason judged oldest split cleared blamed =>
    have given : target.prerequisites.findSome?
        (ofPrerequisite registry times rebuilt output made) = some verdict :=
      List.findSome?_eq_some_iff.2 ⟨before, name, after, split,
        ofPrerequisite_eq_some_iff.2 blamed,
        fun other member => ofPrerequisite_eq_none_iff_cleared.2 (cleared other member)⟩
    rw [check_of_oldest judged oldest, given]
    rfl
  | @upToDate output made judged oldest cleared =>
    have silent : target.prerequisites.findSome?
        (ofPrerequisite registry times rebuilt output made) = none :=
      List.findSome?_eq_none_iff.2 fun name needed =>
        ofPrerequisite_eq_none_iff_cleared.2 (cleared name needed)
    rw [check_of_oldest judged oldest, silent]
    rfl

/-- A reason that was given makes the target due. -/
theorem Blamed.ne_upToDate (blamed : Blamed registry times rebuilt output made name reason) :
    reason ≠ .upToDate := by
  cases blamed with
  | rebuilt | phony => simp
  | input _ _ _ _ _ spoiled => cases spoiled <;> simp

/-- **The verdict on a target is exact.**  It is up to date just if it is not phony, has outputs,
all of them are there and no prerequisite gives a reason against the oldest of them; else the reason
is the first one that applies. -/
theorem check_eq_iff (registry : Registry) (times : FileTimes) (rebuilt : List String)
    (target : Target) :
    (check registry times rebuilt target = .upToDate ↔
      target.phony = false ∧ target.outputs ≠ [] ∧
        (∀ output ∈ target.outputs, ∃ time, times output = some time) ∧
          ∃ output made, Oldest times target.outputs output made ∧
            ∀ name ∈ target.prerequisites, name ∉ rebuilt ∧
              ∀ prerequisite, registry.get? name = some prerequisite →
                prerequisite.phony = false ∧ prerequisite.outputs ≠ [] ∧
                  ∀ input ∈ prerequisite.outputs,
                    ∃ changed, times input = some changed ∧ ¬ made < changed) ∧
      ∀ verdict, check registry times rebuilt target = verdict ↔
        Judged registry times rebuilt target verdict := by
  refine ⟨⟨fun fresh => ?_, ?_⟩, fun verdict => ⟨?_, check_of_judged⟩⟩
  · have judged := judged_check registry times rebuilt target
    rw [fresh] at judged
    cases judged with
    | prerequisite _ _ _ _ blamed => exact absurd rfl blamed.ne_upToDate
    | @upToDate output made judged oldest cleared =>
      refine ⟨judged, List.ne_nil_of_mem oldest.mem, oldest.present, output, made, oldest,
        fun name needed => ⟨(cleared name needed).kept, fun prerequisite found => ?_⟩⟩
      obtain ⟨judged, outputs⟩ := (cleared name needed).judged prerequisite found
      exact ⟨judged, outputs, (cleared name needed).older prerequisite found⟩
  · rintro ⟨judged, -, -, output, made, oldest, settled⟩
    refine check_of_judged (.upToDate judged oldest fun name needed => ?_)
    obtain ⟨kept, settled⟩ := settled name needed
    exact ⟨kept, fun prerequisite found => ⟨(settled prerequisite found).1,
      (settled prerequisite found).2.1⟩, fun prerequisite found => (settled prerequisite found).2.2⟩
  · rintro rfl
    exact judged_check registry times rebuilt target

end Staleness
end TaskRunner
