import Mathlib.Data.List.Induction
import Mathlib.Data.List.Nodup
import TaskRunner.Registry
/- # TaskRunner.Proofs.Registry -- which targets a registry comes to hold

Targets are offered to a draft one by one, and one that is refused leaves it as it was
(`Draft.offerAll`).  What the draft holds then needs no account of the index: it is the targets whose
names no earlier one has, in order (`firsts`).  The index sends just their names to their positions,
so a target is refused exactly if its name is among them.

Whether the draft becomes a registry is settled by the targets alone too.  A mistake in a list of
them is a name used twice, `Repeats`, or an unknown prerequisite, `Lacks`; each says which one is
reported. -/

namespace TaskRunner
set_option autoImplicit false

namespace Registry

/-! ## Lookups -/

/-- What is declared is found. -/
theorem get?_of_contains {draft : Draft} {name : String} (declared : draft.contains name = true) :
    ∃ target, draft.get? name = some target := by
  rw [Draft.contains, Std.HashMap.contains_eq_isSome_getElem?] at declared
  obtain ⟨i, indexed⟩ := Option.isSome_iff_exists.1 declared
  obtain ⟨inside, named⟩ := (draft.index_eq_some_iff name i).1 indexed
  refine ⟨draft.targets[i], (draft.get?_eq_some_iff name _).2 ⟨?_, named⟩⟩
  exact Array.getElem_mem inside

namespace Draft

variable {draft next : Draft} {target : Target}

/-- A draft knows just the names of its targets. -/
theorem contains_iff {name : String} :
    draft.contains name = true ↔ name ∈ draft.targets.toList.map (·.name) := by
  rw [List.mem_map]
  constructor
  · intro held
    obtain ⟨target, found⟩ := Registry.get?_of_contains held
    obtain ⟨member, named⟩ := (draft.get?_eq_some_iff name target).1 found
    exact ⟨target, Array.mem_def.1 member, named⟩
  · rintro ⟨target, member, named⟩
    obtain ⟨i, inside, rfl⟩ := Array.mem_iff_getElem.1 (Array.mem_def.2 member)
    have indexed := (draft.index_eq_some_iff name i).2 ⟨inside, named⟩
    rw [Registry.Draft.contains, Std.HashMap.contains_eq_isSome_getElem?, indexed]
    rfl

/-! ## One target -/

theorem register_of_taken (taken : draft.contains target.name = true) :
    draft.register target = .error (.duplicateTarget target.name) := by
  obtain ⟨targets, index, tied⟩ := draft
  exact dif_pos taken

theorem register_of_free (free : draft.contains target.name = false) :
    ∃ next, draft.register target = .ok next := by
  obtain ⟨targets, index, tied⟩ := draft
  refine ⟨_, dif_neg ?_⟩
  simpa [contains] using free

theorem targets_of_register
    (registered : draft.register target = .ok next) : next.targets = draft.targets.push target := by
  obtain ⟨targets, index, tied⟩ := draft
  simp only [register] at registered
  split at registered
  · cases registered
  · cases registered
    rfl

theorem toDraft_of_finalize {registry : Registry}
    (finalized : draft.finalize = .ok registry) : registry.toDraft = draft := by
  unfold finalize at finalized
  split at finalized
  · cases finalized
  · cases finalized
    rfl

/-- The draft after a target was offered to it: one that is refused changes nothing. -/
def offer (draft : Draft) (target : Target) : Draft :=
  match draft.register target with
  | .ok next => next
  | .error _ => draft

/-- The draft after targets were offered to an empty one, in order. -/
def offerAll (targets : List Target) : Draft := targets.foldl offer empty

theorem offer_of_taken (taken : draft.contains target.name = true) : draft.offer target = draft := by
  rw [offer, register_of_taken taken]

theorem targets_offer_of_free (free : draft.contains target.name = false) :
    (draft.offer target).targets = draft.targets.push target := by
  obtain ⟨next, registered⟩ := register_of_free free
  rw [offer, registered]
  exact targets_of_register registered

theorem offerAll_append (targets : List Target) (target : Target) :
    offerAll (targets ++ [target]) = (offerAll targets).offer target := by
  rw [offerAll, List.foldl_append]
  rfl

end Draft

/-! ## What is accepted -/

/-- The targets whose names no earlier one has, in order. -/
def firsts : List Target → List Target
  | [] => []
  | target :: rest => target :: (firsts rest).filter (·.name ≠ target.name)

theorem mem_names_firsts {targets : List Target} {name : String} :
    name ∈ (firsts targets).map (·.name) ↔ name ∈ targets.map (·.name) := by
  induction targets with
  | nil => rfl
  | cons target rest ih =>
    rw [firsts, List.map_cons, List.mem_cons, List.map_cons, List.mem_cons, ← ih]
    by_cases same : name = target.name
    · simp [same]
    · simp only [same, false_or, List.mem_map, List.mem_filter, decide_eq_true_eq]
      constructor
      · rintro ⟨other, ⟨member, -⟩, named⟩
        exact ⟨other, member, named⟩
      · rintro ⟨other, member, rfl⟩
        exact ⟨other, ⟨member, same⟩, rfl⟩

/-- A target at the end counts if its name is new. -/
theorem firsts_append (targets : List Target) (target : Target) :
    firsts (targets ++ [target]) =
      if target.name ∈ targets.map (·.name) then firsts targets else firsts targets ++ [target] := by
  induction targets with
  | nil => rfl
  | cons first rest ih =>
    rw [List.cons_append, firsts, ih, firsts, List.map_cons]
    by_cases old : target.name ∈ rest.map (·.name)
    · rw [if_pos old, if_pos (List.mem_cons_of_mem _ old)]
    · rw [if_neg old, List.filter_append]
      by_cases same : target.name = first.name
      · simp [same]
      · have fresh : target.name ∉ first.name :: rest.map (·.name) := by
          rw [List.mem_cons, not_or]
          exact ⟨same, old⟩
        rw [if_neg fresh]
        simp [same]

theorem firsts_of_nodup {targets : List Target} (distinct : (targets.map (·.name)).Nodup) :
    firsts targets = targets := by
  induction targets with
  | nil => rfl
  | cons target rest ih =>
    rw [List.map_cons, List.nodup_cons] at distinct
    rw [firsts, ih distinct.2, List.filter_eq_self.2]
    intro other member
    have different : other.name ≠ target.name := fun same =>
      distinct.1 (same ▸ List.mem_map_of_mem member)
    simpa using different

theorem Draft.toList_offerAll (targets : List Target) :
    (offerAll targets).targets.toList = firsts targets := by
  induction targets using List.reverseRecOn with
  | nil => rfl
  | append_singleton targets target ih =>
    have known : (offerAll targets).contains target.name = true ↔
        target.name ∈ targets.map (·.name) := by
      rw [contains_iff, ih, mem_names_firsts]
    rw [offerAll_append, firsts_append]
    by_cases old : target.name ∈ targets.map (·.name)
    · rw [if_pos old, offer_of_taken (known.2 old), ih]
    · have free : (offerAll targets).contains target.name = false := by
        simpa using mt known.1 old
      rw [if_neg old, targets_offer_of_free free, Array.toList_push, ih]

/-! ## Mistakes -/

/-- The mistake of using a name twice: the first target is reported whose name an earlier one
has. -/
inductive Repeats (targets : List Target) : ConfigError → Prop where
  | intro {early late : List Target} {target : Target} (split : targets = early ++ target :: late)
      (distinct : (early.map (·.name)).Nodup) (taken : target.name ∈ early.map (·.name)) :
      Repeats targets (.duplicateTarget target.name)

/-- Whether every prerequisite of a target is one of some names. -/
def Supplied (names : List String) (target : Target) : Prop :=
  ∀ prerequisite ∈ target.prerequisites, prerequisite ∈ names

/-- The mistake of needing what is not there: the first target is reported that does, with the first
prerequisite that is not. -/
inductive Lacks (targets : List Target) : ConfigError → Prop where
  | intro {early late : List Target} {target : Target} {known rest : List String} {missing : String}
      (split : targets = early ++ target :: late)
      (supplied : ∀ other ∈ early, Supplied (targets.map (·.name)) other)
      (needs : target.prerequisites = known ++ missing :: rest)
      (declared : ∀ name ∈ known, name ∈ targets.map (·.name))
      (undeclared : missing ∉ targets.map (·.name)) :
      Lacks targets (.unknownPrerequisite target.name missing)

/-- Names are distinct, or one is used twice. -/
theorem nodup_or_repeats (targets : List Target) :
    (targets.map (·.name)).Nodup ∨ ∃ e, Repeats targets e := by
  induction targets using List.reverseRecOn with
  | nil => exact .inl .nil
  | append_singleton targets target ih =>
    rcases ih with distinct | ⟨e, @⟨early, late, other, split, distinct, taken⟩⟩
    · by_cases old : target.name ∈ targets.map (·.name)
      · exact .inr ⟨_, .intro rfl distinct old⟩
      · left
        rw [List.map_append, List.map_singleton, List.nodup_append]
        refine ⟨distinct, List.nodup_singleton _, fun name member last final same => old ?_⟩
        rwa [← List.mem_singleton.1 final, ← same]
    · have split : targets ++ [target] = early ++ other :: (late ++ [target]) := by simp [split]
      exact .inr ⟨_, .intro split distinct taken⟩

namespace Draft

variable {draft : Draft} {targets : List Target}

theorem contains_eq_false_iff (held : draft.targets.toList = targets) {name : String} :
    draft.contains name = false ↔ name ∉ targets.map (·.name) := by
  rw [← held, ← contains_iff, Bool.not_eq_true]

/-- What a draft is found to lack is what its targets lack. -/
theorem missing?_eq_some_iff (held : draft.targets.toList = targets) {name missing : String} :
    draft.missing? = some (name, missing) ↔
      Lacks targets (.unknownPrerequisite name missing) := by
  rw [missing?, held, List.findSome?_eq_some_iff]
  constructor
  · rintro ⟨early, target, late, split, here, before⟩
    obtain ⟨first, unknown, same⟩ := Option.map_eq_some_iff.1 here
    obtain ⟨rfl, rfl⟩ := Prod.mk.inj same
    obtain ⟨absent, known, rest, needs, present⟩ := List.find?_eq_some_iff_append.1 unknown
    refine .intro split (fun other member prerequisite needed => ?_) needs
      (fun name member => ?_) ?_
    · have none := before other member
      rw [Option.map_eq_none_iff, List.find?_eq_none] at none
      by_contra undeclared
      exact none prerequisite needed (by simp [(contains_eq_false_iff held).2 undeclared])
    · by_contra undeclared
      have declared := present name member
      simp [(contains_eq_false_iff held).2 undeclared] at declared
    · exact (contains_eq_false_iff held).1 (by simpa using absent)
  · intro lacks
    cases lacks with
    | @intro early late target known rest missing split supplied needs declared undeclared =>
      have holds : ∀ {name : String}, name ∈ targets.map (·.name) → draft.contains name = true :=
        fun member => contains_iff.2 (held.symm ▸ member)
      refine ⟨early, target, late, split, ?_, fun other member => ?_⟩
      · rw [Option.map_eq_some_iff]
        refine ⟨missing, List.find?_eq_some_iff_append.2 ⟨?_, known, rest, needs, ?_⟩, rfl⟩
        · simp [(contains_eq_false_iff held).2 undeclared]
        · intro name member
          simp [holds (declared name member)]
      · rw [Option.map_eq_none_iff, List.find?_eq_none]
        intro name needed
        simp [holds (supplied other member name needed)]

theorem finalize_eq_error_iff (held : draft.targets.toList = targets) {e : ConfigError} :
    draft.finalize = .error e ↔ Lacks targets e := by
  have reported : draft.finalize = .error e ↔
      ∃ name missing, draft.missing? = some (name, missing) ∧
        .unknownPrerequisite name missing = e := by
    unfold finalize
    split
    · next name missing found => simp [found]
    · next none => simp [none]
  rw [reported]
  constructor
  · rintro ⟨name, missing, found, rfl⟩
    exact (missing?_eq_some_iff held).1 found
  · intro lacks
    cases lacks with
    | intro split supplied needs declared undeclared =>
      exact ⟨_, _, (missing?_eq_some_iff held).2 (.intro split supplied needs declared undeclared),
        rfl⟩

theorem finalize_eq_ok_iff (held : draft.targets.toList = targets) :
    (∃ registry, draft.finalize = .ok registry) ↔
      ∀ target ∈ targets, Supplied (targets.map (·.name)) target := by
  constructor
  · rintro ⟨registry, finalized⟩ target member name needed
    obtain rfl := toDraft_of_finalize finalized
    rw [← held] at member ⊢
    exact contains_iff.1 (registry.closed target (Array.mem_def.2 member) name needed)
  · intro supplied
    cases result : draft.finalize with
    | ok registry => exact ⟨registry, rfl⟩
    | error e =>
      cases (finalize_eq_error_iff held).1 result with
      | @intro early late target known rest missing split _ needs _ undeclared =>
        exact absurd (supplied target (by simp [split]) missing (by simp [needs])) undeclared

end Draft

/-! ## Many targets at once -/

/-- Targets under distinct names that are not taken are all accepted. -/
theorem Draft.foldlM_register {targets : List Target} {draft : Draft}
    (distinct : (targets.map (·.name)).Nodup)
    (free : ∀ target ∈ targets, draft.contains target.name = false) :
    targets.foldlM register draft = .ok (targets.foldl offer draft) := by
  induction targets generalizing draft with
  | nil => rfl
  | cons target rest ih =>
    rw [List.map_cons, List.nodup_cons] at distinct
    obtain ⟨next, registered⟩ := register_of_free (free target List.mem_cons_self)
    have offered : draft.offer target = next := by rw [offer, registered]
    have later : ∀ other ∈ rest, next.contains other.name = false := by
      intro other member
      have before := free other (List.mem_cons_of_mem _ member)
      rw [← Bool.not_eq_true, contains_iff] at before ⊢
      rw [targets_of_register registered, Array.toList_push, List.map_append, List.mem_append,
        List.map_singleton, List.mem_singleton]
      rintro (held | same)
      · exact before held
      · exact distinct.1 (same ▸ List.mem_map_of_mem member)
    rw [List.foldlM_cons, List.foldl_cons, registered, offered]
    exact ih distinct.2 later

theorem contains_empty (name : String) : Draft.empty.contains name = false := by
  simp [Draft.contains, Draft.empty]

theorem ofTargets_of_nodup {targets : List Target} (distinct : (targets.map (·.name)).Nodup) :
    ofTargets targets = (Draft.offerAll targets).finalize := by
  rw [ofTargets, Draft.foldlM_register distinct fun target _ => contains_empty target.name]
  rfl

theorem ofTargets_of_repeats {targets : List Target} {e : ConfigError}
    (repeats : Repeats targets e) : ofTargets targets = .error e := by
  cases repeats with
  | @intro early late target split distinct taken =>
    have held : (Draft.offerAll early).contains target.name = true := by
      rw [Draft.contains_iff, Draft.toList_offerAll, mem_names_firsts]
      exact taken
    rw [ofTargets, split, List.foldlM_append,
      Draft.foldlM_register distinct fun target _ => contains_empty target.name]
    show (do let draft ← (target :: late).foldlM Draft.register (Draft.offerAll early)
             draft.finalize) = _
    rw [List.foldlM_cons, Draft.register_of_taken held]
    rfl

/-- What a registry gives back of the targets that it was made from. -/
structure Holds (registry : Registry) (targets : List Target) : Prop where
  toList : registry.toList = targets
  get?_iff : ∀ name target,
    registry.get? name = some target ↔ target ∈ targets ∧ target.name = name
  isSome_iff : ∀ name, (registry.get? name).isSome = true ↔ name ∈ targets.map (·.name)
  within : ∀ (name : String) (i : Nat), registry.index[name]? = some i → i < registry.size

theorem holds_of_finalize {draft : Draft} {targets : List Target} {registry : Registry}
    (held : draft.targets.toList = targets) (finalized : draft.finalize = .ok registry) :
    registry.Holds targets := by
  have same : registry.toList = targets := by
    rw [toList, Draft.toDraft_of_finalize finalized, held]
  have found : ∀ name target,
      registry.get? name = some target ↔ target ∈ targets ∧ target.name = name := by
    intro name target
    rw [registry.get?_eq_some_iff, Array.mem_def, ← same]
    rfl
  refine ⟨same, found, fun name => ?_, fun name i indexed => ?_⟩
  · rw [Option.isSome_iff_exists, List.mem_map]
    simp only [found]
  · obtain ⟨inside, -⟩ := (registry.index_eq_some_iff name i).1 indexed
    exact inside

theorem ofTargets_eq_error_iff {targets : List Target} {e : ConfigError} :
    ofTargets targets = .error e ↔
      Repeats targets e ∨ (targets.map (·.name)).Nodup ∧ Lacks targets e := by
  have lacking : (targets.map (·.name)).Nodup →
      (ofTargets targets = .error e ↔ Lacks targets e) := by
    intro distinct
    have held : (Draft.offerAll targets).targets.toList = targets := by
      rw [Draft.toList_offerAll, firsts_of_nodup distinct]
    rw [ofTargets_of_nodup distinct, Draft.finalize_eq_error_iff held]
  constructor
  · intro refused
    rcases nodup_or_repeats targets with distinct | ⟨other, repeats⟩
    · exact .inr ⟨distinct, (lacking distinct).1 refused⟩
    · rw [ofTargets_of_repeats repeats] at refused
      cases refused
      exact .inl repeats
  · rintro (repeats | ⟨distinct, lacks⟩)
    · exact ofTargets_of_repeats repeats
    · exact (lacking distinct).2 lacks

/-- **A registry holds just what was accepted for it.**  After any targets were offered a further one
is refused exactly if its name was accepted, and then nothing changes; the draft holds the targets
of new names in order, and its index has their positions.  It becomes a registry if and only if it
lacks no prerequisite, and the registry gives back what was accepted.  Of a list of targets a
repeated name is reported before a missing prerequisite. -/
theorem construction_exact (targets : List Target) :
    (∀ target, (Draft.offerAll targets).register target = .error (.duplicateTarget target.name) ↔
      target.name ∈ (firsts targets).map (·.name)) ∧
    (∀ target e, (Draft.offerAll targets).register target = .error e →
      e = .duplicateTarget target.name ∧
        Draft.offerAll (targets ++ [target]) = Draft.offerAll targets) ∧
    (Draft.offerAll targets).targets.toList = firsts targets ∧
    (∀ (name : String) (i : Nat), (Draft.offerAll targets).index[name]? = some i ↔
      ∃ target, (firsts targets)[i]? = some target ∧ target.name = name) ∧
    ((∃ registry, (Draft.offerAll targets).finalize = .ok registry) ↔
      ∀ target ∈ firsts targets, Supplied ((firsts targets).map (·.name)) target) ∧
    (∀ e, (Draft.offerAll targets).finalize = .error e ↔ Lacks (firsts targets) e) ∧
    (∀ registry, (Draft.offerAll targets).finalize = .ok registry →
      registry.Holds (firsts targets)) ∧
    ∀ e, ofTargets targets = .error e ↔
      Repeats targets e ∨ (targets.map (·.name)).Nodup ∧ Lacks targets e := by
  have held := Draft.toList_offerAll targets
  have known : ∀ target : Target, (Draft.offerAll targets).contains target.name = true ↔
      target.name ∈ (firsts targets).map (·.name) := by
    intro target
    rw [Draft.contains_iff, held]
  have refused : ∀ target e, (Draft.offerAll targets).register target = .error e →
      (Draft.offerAll targets).contains target.name = true := by
    intro target e failed
    by_contra free
    obtain ⟨next, registered⟩ := Draft.register_of_free (by simpa using free)
    rw [registered] at failed
    cases failed
  refine ⟨fun target => ?_, fun target e failed => ?_, held, fun name i => ?_,
    Draft.finalize_eq_ok_iff held, fun e => Draft.finalize_eq_error_iff held,
    fun registry => holds_of_finalize held, fun e => ofTargets_eq_error_iff⟩
  · rw [← known]
    exact ⟨refused target _, Draft.register_of_taken⟩
  · have taken := refused target e failed
    rw [Draft.register_of_taken taken] at failed
    cases failed
    exact ⟨rfl, by rw [Draft.offerAll_append, Draft.offer_of_taken taken]⟩
  · rw [(Draft.offerAll targets).index_eq_some_iff, ← held]
    simp only [Array.getElem?_toList, Array.getElem?_eq_some_iff]
    constructor
    · rintro ⟨inside, named⟩
      exact ⟨_, ⟨inside, rfl⟩, named⟩
    · rintro ⟨target, ⟨inside, rfl⟩, named⟩
      exact ⟨inside, named⟩

/-- Targets of which one needs what is not there, and two share a name. -/
def clashing : List Target := [
  { name := "all", prerequisites := ["lib", "gen"] },
  { name := "lib", recipe := ["cc lib.c"] },
  { name := "lib", outputs := ["lib.o"] }]

/-- The second `lib` is refused, and comes before the lack of `gen` where all are taken at once. -/
theorem construction_clashing :
    (Draft.offerAll clashing).targets.toList = clashing.take 2 ∧
      (Draft.offerAll clashing).finalize = .error (.unknownPrerequisite "all" "gen") ∧
      ofTargets clashing = .error (.duplicateTarget "lib") := by
  obtain ⟨-, -, held, -, -, finalized, -, all⟩ := construction_exact clashing
  have accepted : firsts clashing = clashing.take 2 := by decide
  rw [accepted] at held finalized
  have early : clashing.take 2 = [] ++ { name := "all", prerequisites := ["lib", "gen"] } ::
      [{ name := "lib", recipe := ["cc lib.c"] }] := rfl
  have late : clashing = clashing.take 2 ++ { name := "lib", outputs := ["lib.o"] } :: [] := rfl
  have needs : ["lib", "gen"] = ["lib"] ++ "gen" :: [] := rfl
  refine ⟨held, (finalized _).2 ?_, (all _).2 (.inl ?_)⟩
  · exact .intro early (by simp) needs (by decide) (by decide)
  · exact .intro late (by decide) (by decide)

end Registry
end TaskRunner
