import TaskRunner.Proofs.Keyed
import TaskRunner.Proofs.Variable.Substitution
/- # TaskRunner.Proofs.Variable.Locality -- what a substitution depends on

A substitution looks up the names that its text reaches through references, and no others; of each
it uses the text that its value renders to.  So two tables that agree on those names, in what they
render to or in being undefined, give one result, be it a text or a failure.

What a name that is out of reach is defined as does not matter, nor does the order in which distinct
names were defined, nor whether a value is a list or its items in one text. -/

namespace TaskRunner.Variable
set_option autoImplicit false

namespace Table

/-- Whether a name stands on a chain of references from a text. -/
def Reachable (table : Table) (text name : String) : Prop :=
  ∃ names, table.Chain text names ∧ name ∈ names

/-- The text that stands for the value of a name, if it has one. -/
def rendered? (table : Table) (name : String) : Option String :=
  (table.get? name).map Value.render

/-- The table without a definition of a name. -/
def without (table : Table) (name : String) : Table := ⟨table.values.erase name⟩

/-- Makes definitions one after the other. -/
def defineAll (table : Table) (definitions : List (String × Value)) : Table :=
  definitions.foldl (fun table definition => table.define definition.1 definition.2) table

variable {table other : Table} {text name : String}

theorem get?_without (table : Table) (name other : String) :
    (table.without name).get? other = if name = other then none else table.get? other := by
  simp [without, get?, Std.TreeMap.getElem?_erase]

/-- Distinct names can be defined in any order. -/
theorem get?_defineAll_of_perm {definitions reordered : List (String × Value)}
    (distinct : (definitions.map Prod.fst).Nodup) (perm : definitions.Perm reordered)
    (name : String) :
    (table.defineAll definitions).get? name = (table.defineAll reordered).get? name := by
  have backwards : (definitions.reverse.map Prod.fst).Nodup := by
    rwa [List.map_reverse, List.nodup_reverse]
  have permuted : definitions.reverse.Perm reordered.reverse :=
    (List.reverse_perm _).trans (perm.trans (List.reverse_perm _).symm)
  have same : definitions.reverse.find? (fun definition => definition.1 = name) =
      reordered.reverse.find? fun definition => definition.1 = name :=
    Keyed.find?_eq_of_perm Prod.fst backwards name permuted
  rw [defineAll, defineAll, get?_foldl_define, get?_foldl_define, same]

/-- Two tables that render alike what a text reaches substitute it alike. -/
theorem substitute_congr
    (agree : ∀ name, table.Reachable text name → other.rendered? name = table.rendered? name) :
    other.substitute text = table.substitute text :=
  expand_congr_of_render (fun names chain name member => agree name ⟨names, chain, member⟩) []
    maxDepth

/-- What a text does not reach can be anything. -/
theorem substitute_of_out_of_reach (beyond : ¬ table.Reachable text name)
    (elsewhere : ∀ others, others ≠ name → other.get? others = table.get? others) :
    other.substitute text = table.substitute text := by
  refine substitute_congr fun reached reaches => ?_
  have different : reached ≠ name := fun same => beyond (same ▸ reaches)
  rw [rendered?, rendered?, elsewhere reached different]

/-- **A substitution depends on what its text reaches, and on nothing else.**  Tables that agree on
that give the same text or the same failure.  So a name out of reach can be defined, defined anew or
removed, distinct names can be defined in any order, and a list can be replaced by its items joined
with spaces. -/
theorem substitute_local (table : Table) (text : String) :
    (∀ other : Table,
        (∀ name, table.Reachable text name → other.rendered? name = table.rendered? name) →
          other.substitute text = table.substitute text) ∧
      (∀ name, ¬ table.Reachable text name →
        (∀ value, (table.define name value).substitute text = table.substitute text) ∧
          (table.without name).substitute text = table.substitute text) ∧
      (∀ definitions reordered : List (String × Value), (definitions.map Prod.fst).Nodup →
        definitions.Perm reordered →
          (table.defineAll definitions).substitute text =
            (table.defineAll reordered).substitute text) ∧
      ∀ name items, table.get? name = some (.list items) →
        (table.define name (.scalar (" ".intercalate items))).substitute text =
          table.substitute text := by
  refine ⟨fun other agree => substitute_congr agree, fun name beyond => ⟨fun value => ?_, ?_⟩,
    fun definitions reordered distinct perm => ?_, fun name items held => ?_⟩
  · refine substitute_of_out_of_reach beyond fun others different => ?_
    rw [get?_define, if_neg (Ne.symm different)]
  · refine substitute_of_out_of_reach beyond fun others different => ?_
    rw [get?_without, if_neg (Ne.symm different)]
  · refine substitute_congr fun reached _ => ?_
    rw [rendered?, rendered?, get?_defineAll_of_perm distinct perm]
  · refine substitute_congr fun reached _ => ?_
    rw [rendered?, rendered?, get?_define]
    split
    · next same =>
      rw [← same, held]
      rfl
    · rfl

/-- What a text refers to, and the values of what it refers to, reaches no further than names that
refer to one another alone. -/
theorem mem_of_reachable {names : List String} (refers : ∀ name ∈ references text, name ∈ names)
    (closed : ∀ name ∈ names, ∀ value, table.get? name = some value →
      ∀ next ∈ references value.render, next ∈ names)
    (reaches : table.Reachable text name) : name ∈ names := by
  obtain ⟨chained, chain, member⟩ := reaches
  induction chain with
  | single refersTo =>
    obtain rfl := List.mem_singleton.1 member
    exact refers _ refersTo
  | cons refersTo found _ ih =>
    have inside := refers _ refersTo
    rcases List.mem_cons.1 member with rfl | later
    · exact inside
    · exact ih (closed _ inside _ found) later

theorem get?_nested_dirs : nested.get? "DIRS" = some (.list ["a", "b"]) := by
  decide +kernel

theorem not_reachable_loop : ¬ nested.Reachable "$(DIRS)" "LOOP" := by
  intro reaches
  have member : "LOOP" ∈ ["DIRS"] := by
    refine mem_of_reachable (by decide +kernel) (fun name member value found => ?_) reaches
    obtain rfl := List.mem_singleton.1 member
    obtain rfl := Option.some.inj (get?_nested_dirs.symm.trans found)
    decide +kernel
  simp at member

/-- A value that ends in a loop keeps its loop, and its list can become a text; a text that does not
reach the loop does without it. -/
theorem substitute_local_nested :
    (∀ name, nested.Reachable "${OUT}" name →
        (nested.define "DIRS" (.scalar "a b")).rendered? name = nested.rendered? name) ∧
      (nested.define "DIRS" (.scalar "a b")).substitute "${OUT}" =
        .error (.substitutionCycle ["OUT", "LOOP", "OUT"]) ∧
      ¬ nested.Reachable "$(DIRS)" "LOOP" ∧
      (nested.without "LOOP").substitute "$(DIRS)" = nested.substitute "$(DIRS)" ∧
      ([("A", Value.scalar "$(B)"), ("B", .scalar "b")].map Prod.fst).Nodup ∧
      [("A", Value.scalar "$(B)"), ("B", .scalar "b")].Perm
        [("B", .scalar "b"), ("A", .scalar "$(B)")] ∧
      (nested.defineAll [("A", .scalar "$(B)"), ("B", .scalar "b")]).substitute "$(A)" =
        (nested.defineAll [("B", .scalar "b"), ("A", .scalar "$(B)")]).substitute "$(A)" ∧
      nested.get? "DIRS" = some (.list ["a", "b"]) ∧
      (nested.define "DIRS" (.scalar (" ".intercalate ["a", "b"]))).substitute "$(DIRS)" =
        nested.substitute "$(DIRS)" := by
  have agree : ∀ name, nested.Reachable "${OUT}" name →
      (nested.define "DIRS" (.scalar "a b")).rendered? name = nested.rendered? name := by
    intro name _
    rw [rendered?, rendered?, get?_define]
    split
    · next same =>
      rw [← same, get?_nested_dirs]
      decide +kernel
    · rfl
  have distinct : ([("A", Value.scalar "$(B)"), ("B", .scalar "b")].map Prod.fst).Nodup := by
    decide
  obtain ⟨agreeing, -, -, -⟩ := substitute_local nested "${OUT}"
  obtain ⟨-, beyond, -, list⟩ := substitute_local nested "$(DIRS)"
  obtain ⟨-, -, reordered, -⟩ := substitute_local nested "$(A)"
  refine ⟨agree, (agreeing _ agree).trans substitute_nested_loop, not_reachable_loop,
    (beyond _ not_reachable_loop).2, distinct, .swap .., reordered _ _ distinct (.swap ..),
    get?_nested_dirs, list _ _ get?_nested_dirs⟩

end Table
end TaskRunner.Variable
