import Mathlib.Data.List.Basic
import Mathlib.Data.List.Induction
import TaskRunner.Proofs.Variable.Scan
import TaskRunner.Variable.Substitution
/- # TaskRunner.Proofs.Variable.Substitution -- what an expansion comes to

The names that a text refers to, the names that their values refer to, and so on, make chains of
references (`Table.Chain`).  Looked at one after the other, depth first and from the left
(`Table.trails`), each chain shows what its last name adds: a name that comes back or is one too
many, a name without a value, or no fault (`Table.fault?`).

An expansion makes just this tour and stops at the first fault (`Table.refusal?_expand`).  So it
succeeds if and only if every chain is sound, however long (`Table.ok_iff_forall_chain`), and then
its result is the one text that `Table.Expands` allows (`Table.expands_of_expand`). -/

namespace TaskRunner.Variable
set_option autoImplicit false

/-- The name that a token refers to. -/
def Token.name? : Token → Option String
  | reference _ name => some name
  | _ => none

/-- The names that a text refers to, from the left. -/
def references (text : String) : List String := (Token.scan text.toList).filterMap Token.name?

/-- The error of a result. -/
def refusal? {α : Type} : Except ConfigError α → Option ConfigError
  | .ok _ => none
  | .error e => some e

@[simp] theorem refusal?_ok {α : Type} (value : α) : refusal? (.ok value) = none := rfl

@[simp] theorem refusal?_error {α : Type} (e : ConfigError) :
    refusal? (.error e : Except ConfigError α) = some e := rfl

theorem refusal?_eq_some_iff {α : Type} {result : Except ConfigError α} {e : ConfigError} :
    refusal? result = some e ↔ result = .error e := by
  cases result <;> simp

theorem refusal?_eq_none_iff {α : Type} {result : Except ConfigError α} :
    refusal? result = none ↔ ∃ value, result = .ok value := by
  cases result <;> simp

namespace Table

variable {table : Table} {text : String}

/-- Names of which the first is referred to in a text, and each other in the value of the one before
it. -/
inductive Chain (table : Table) : String → List String → Prop where
  | single {text name : String} (refers : name ∈ references text) : Chain table text [name]
  | cons {text name : String} {value : Value} {names : List String}
      (refers : name ∈ references text) (found : table.get? name = some value)
      (chain : Chain table value.render names) : Chain table text (name :: names)

/-- The chains of at most so many names, depth first and from the left. -/
def trails (table : Table) : Nat → String → List (List String)
  | 0, _ => []
  | limit + 1, text =>
    (references text).flatMap fun name =>
      [name] ::
        match table.get? name with
        | none => []
        | some value => (table.trails limit value.render).map (name :: ·)

/-- What the last name of a chain does wrong. -/
def fault? (table : Table) (names : List String) : Option ConfigError :=
  match names.getLast? with
  | none => none
  | some name =>
    if name ∈ names.dropLast ∨ maxDepth < names.length then some (.substitutionCycle names)
    else if table.get? name = none then some (.undefinedVariable name)
    else none

/-- Whether a chain has no fault. -/
structure Sound (table : Table) (names : List String) : Prop where
  defined : ∀ name ∈ names, (table.get? name).isSome
  fresh : names.Nodup
  short : names.length ≤ maxDepth

/-- The text that tokens come to: an escape is a dollar sign, a reference is what the value of its
name comes to, and all else stands. -/
inductive Expands (table : Table) : List Token → List Char → Prop where
  | nil : Expands table [] []
  | char {c : Char} {tokens : List Token} {rest : List Char} (expands : Expands table tokens rest) :
      Expands table (.char c :: tokens) (c :: rest)
  | dollar {tokens : List Token} {rest : List Char} (expands : Expands table tokens rest) :
      Expands table (.dollar :: tokens) ('$' :: rest)
  | reference {bracket : Bracket} {name : String} {value : Value} {tokens : List Token}
      {inner rest : List Char} (found : table.get? name = some value)
      (inside : Expands table (Token.scan value.render.toList) inner)
      (expands : Expands table tokens rest) :
      Expands table (.reference bracket name :: tokens) (inner ++ rest)

/-! ## Chains -/

/-- What a chain begins with is a chain. -/
theorem Chain.of_append {front back : List String} (chain : table.Chain text (front ++ back))
    (nonempty : front ≠ []) : table.Chain text front := by
  induction front generalizing text with
  | nil => exact absurd rfl nonempty
  | cons name front ih =>
    cases front with
    | nil =>
      cases chain with
      | single refers => exact .single refers
      | cons refers _ _ => exact .single refers
    | cons next front =>
      cases chain with
      | cons refers found chain => exact .cons refers found (ih chain (by simp))

/-- The tour meets just the chains that are no longer than its limit. -/
theorem mem_trails_iff {limit : Nat} {names : List String} :
    names ∈ table.trails limit text ↔ table.Chain text names ∧ names.length ≤ limit := by
  induction limit generalizing text names with
  | zero =>
    simp only [trails, List.not_mem_nil, Nat.le_zero, List.length_eq_zero_iff, false_iff, not_and]
    rintro chain rfl
    cases chain
  | succ limit ih =>
    simp only [trails, List.mem_flatMap, List.mem_cons]
    constructor
    · rintro ⟨name, refers, rfl | later⟩
      · exact ⟨.single refers, by simp⟩
      · split at later
        · cases later
        · next value found =>
          obtain ⟨names, mem, rfl⟩ := List.mem_map.1 later
          obtain ⟨chain, short⟩ := ih.1 mem
          exact ⟨.cons refers found chain, by simpa using short⟩
    · rintro ⟨chain, short⟩
      cases chain with
      | single refers => exact ⟨_, refers, .inl rfl⟩
      | cons refers found chain =>
        refine ⟨_, refers, .inr ?_⟩
        rw [found]
        exact List.mem_map_of_mem (ih.2 ⟨chain, by simpa using short⟩)

theorem fault?_append_singleton (names : List String) (name : String) :
    table.fault? (names ++ [name]) =
      if name ∈ names ∨ maxDepth < names.length + 1 then
        some (.substitutionCycle (names ++ [name]))
      else if table.get? name = none then some (.undefinedVariable name)
      else none := by
  simp [fault?]

/-- A sound chain has no fault. -/
theorem Sound.fault?_eq_none {names : List String} (sound : table.Sound names) :
    table.fault? names = none := by
  cases names using List.reverseRecOn with
  | nil => rfl
  | append_singleton names name =>
    have fresh : name ∉ names := by
      have apart := (List.nodup_append.1 sound.fresh).2.2
      exact fun mem => apart name mem name (by simp) rfl
    have short : names.length + 1 ≤ maxDepth := by simpa using sound.short
    have defined : table.get? name ≠ none :=
      Option.isSome_iff_ne_none.1 (sound.defined name (by simp))
    rw [fault?_append_singleton, if_neg (not_or.2 ⟨fresh, by omega⟩), if_neg defined]

/-- If the chains one name longer than allowed have no fault, then all chains are sound, and so are
never that long. -/
theorem Chain.sound {names : List String} (chain : table.Chain text names)
    (faultless : ∀ names ∈ table.trails (maxDepth + 1) text, table.fault? names = none) :
    table.Sound names := by
  induction names using List.reverseRecOn with
  | nil => exact ⟨by simp, .nil, Nat.zero_le _⟩
  | append_singleton names name ih =>
    have before : table.Sound names := by
      by_cases nonempty : names = []
      · subst nonempty
        exact ⟨by simp, .nil, Nat.zero_le _⟩
      · exact ih (chain.of_append nonempty)
    have short : (names ++ [name]).length ≤ maxDepth + 1 := by simpa using before.short
    have fine := faultless _ (mem_trails_iff.2 ⟨chain, short⟩)
    rw [fault?_append_singleton] at fine
    split at fine
    · cases fine
    · next none_wrong =>
      split at fine
      · cases fine
      · next defined =>
        obtain ⟨fresh, small⟩ := not_or.1 none_wrong
        refine ⟨?_, ?_, by simpa using Nat.le_of_not_lt small⟩
        · simp only [List.mem_append, List.mem_singleton]
          rintro other (mem | rfl)
          · exact before.defined other mem
          · exact Option.isSome_iff_ne_none.2 defined
        · refine List.nodup_append.2 ⟨before.fresh, List.pairwise_singleton _ name, ?_⟩
          rintro other mem last single rfl
          exact fresh (List.mem_singleton.1 single ▸ mem)

/-! ## The tour of an expansion -/

theorem findSome?_flatMap {α β γ : Type} (f : β → Option γ) (g : α → List β) (items : List α) :
    (items.flatMap g).findSome? f = items.findSome? fun item => (g item).findSome? f := by
  induction items with
  | nil => rfl
  | cons item items ih =>
    rw [List.flatMap_cons, List.findSome?_append, ih, List.findSome?_cons]
    cases (g item).findSome? f <;> rfl

end Table

/-- Of tokens that are expanded from the left, the first reference without a value decides. -/
theorem Token.refusal?_expandAll (value : String → Except ConfigError String)
    (tokens : List Token) : refusal? (expandAll value tokens) =
      (tokens.filterMap name?).findSome? fun name => refusal? (value name) := by
  have from_text : ∀ text : String, refusal? (tokens.foldlM (appendExpansion value) text) =
      (tokens.filterMap name?).findSome? fun name => refusal? (value name) := by
    induction tokens with
    | nil => exact fun _ => rfl
    | cons token tokens ih =>
      intro text
      cases token with
      | char c => exact ih _
      | dollar => exact ih _
      | reference bracket name =>
        have names : (reference bracket name :: tokens).filterMap name? =
            name :: tokens.filterMap name? := rfl
        rw [List.foldlM_cons, names, List.findSome?_cons]
        cases outcome : value name with
        | error e =>
          rw [appendExpansion, outcome]
          rfl
        | ok expanded =>
          rw [appendExpansion, outcome]
          exact ih _
  exact from_text ""

namespace Table

variable {table : Table} {text : String}

/-- **An expansion stops at the first fault of its tour.** -/
theorem refusal?_expand {chain : List String} {budget : Nat}
    (spent : chain.length + budget = maxDepth) :
    refusal? (table.expand budget chain text) =
      (table.trails (budget + 1) text).findSome? fun names => table.fault? (chain ++ names) := by
  induction budget generalizing chain text with
  | zero =>
    rw [expand, Token.refusal?_expandAll, trails, findSome?_flatMap]
    refine congrArg (List.findSome? · (references text)) (funext fun name => ?_)
    have full : name ∈ chain ∨ maxDepth < chain.length + 1 := .inr (by omega)
    rw [List.findSome?_cons, fault?_append_singleton, if_pos full]
    split <;> rfl
  | succ budget ih =>
    rw [expand, Token.refusal?_expandAll, trails, findSome?_flatMap]
    refine congrArg (List.findSome? · (references text)) (funext fun name => ?_)
    rw [List.findSome?_cons, fault?_append_singleton]
    by_cases known : name ∈ chain
    · rw [if_pos known, if_pos (.inl known)]
      rfl
    · have room : ¬ (name ∈ chain ∨ maxDepth < chain.length + 1) :=
        not_or.2 ⟨known, by omega⟩
      rw [if_neg known, if_neg room]
      cases found : table.get? name with
      | none => simp [resolve, found]
      | some value =>
        have longer : (chain ++ [name]).length + budget = maxDepth := by
          rw [List.length_append, List.length_singleton]
          omega
        simp only [resolve, found, ih longer, List.findSome?_map, reduceCtorEq, if_false]
        simp [Function.comp_def]

/-! ## What an expansion comes to -/

/-- A text can be expanded if and only if every chain of references from it is sound. -/
theorem ok_iff_forall_chain : (∃ result, table.substitute text = .ok result) ↔
    ∀ names, table.Chain text names → table.Sound names := by
  have tour := @refusal?_expand table text [] maxDepth (by simp)
  simp only [List.nil_append] at tour
  rw [← refusal?_eq_none_iff, substitute, tour, List.findSome?_eq_none_iff]
  constructor
  · exact fun faultless names chain => chain.sound faultless
  · exact fun sound names mem => (sound names (mem_trails_iff.1 mem).1).fault?_eq_none

/-- An expansion ends with the first fault of its tour. -/
theorem error_iff_findSome? {e : ConfigError} : table.substitute text = .error e ↔
    (table.trails (maxDepth + 1) text).findSome? table.fault? = some e := by
  have tour := @refusal?_expand table text [] maxDepth (by simp)
  simp only [List.nil_append] at tour
  rw [← refusal?_eq_some_iff, substitute, tour]

/-- What the error of an expansion says of the chain it was found on. -/
theorem blame_of_error {e : ConfigError} (refused : table.substitute text = .error e) :
    ∃ names name, table.Chain text (names ++ [name]) ∧
      (e = .undefinedVariable name ∧ table.get? name = none ∨
        e = .substitutionCycle (names ++ [name]) ∧ (name ∈ names ∨ names.length = maxDepth)) := by
  obtain ⟨names, mem, fault⟩ := List.exists_of_findSome?_eq_some (error_iff_findSome?.1 refused)
  obtain ⟨chain, short⟩ := mem_trails_iff.1 mem
  cases names using List.reverseRecOn with
  | nil => cases fault
  | append_singleton names name =>
    refine ⟨names, name, chain, ?_⟩
    rw [fault?_append_singleton] at fault
    split at fault
    · next wrong =>
      cases fault
      refine .inr ⟨rfl, wrong.imp_right fun long => ?_⟩
      simp only [List.length_append, List.length_singleton] at short
      omega
    · split at fault
      · next undefined =>
        cases fault
        exact .inl ⟨rfl, undefined⟩
      · cases fault

/-- Tokens come to one text. -/
theorem Expands.unique {tokens : List Token} {one other : List Char}
    (expands : table.Expands tokens one) (again : table.Expands tokens other) : one = other := by
  induction expands generalizing other with
  | nil =>
    cases again
    rfl
  | char _ ih =>
    cases again with
    | char again => rw [ih again]
  | dollar _ ih =>
    cases again with
    | dollar again => rw [ih again]
  | reference found _ _ ihInside ih =>
    cases again with
    | reference foundAgain inside again =>
      cases found.symm.trans foundAgain
      rw [ihInside inside, ih again]

/-- Tokens that are expanded from the left come to the text put together, if the values of their
references are what these come to. -/
theorem expands_of_expandAll {value : String → Except ConfigError String} {tokens : List Token}
    (values : ∀ name expanded, value name = .ok expanded → ∃ held, table.get? name = some held ∧
      table.Expands (Token.scan held.render.toList) expanded.toList)
    {result : String} (done : Token.expandAll value tokens = .ok result) :
    table.Expands tokens result.toList := by
  have from_text : ∀ text : String, tokens.foldlM (Token.appendExpansion value) text = .ok result →
      ∃ rest, result.toList = text.toList ++ rest ∧ table.Expands tokens rest := by
    clear done
    induction tokens with
    | nil =>
      intro text done
      cases done
      exact ⟨[], by simp, .nil⟩
    | cons token tokens ih =>
      intro text done
      rw [List.foldlM_cons] at done
      cases token with
      | char c =>
        obtain ⟨rest, same, expands⟩ := ih _ done
        exact ⟨c :: rest, by simp [same], .char expands⟩
      | dollar =>
        obtain ⟨rest, same, expands⟩ := ih _ done
        exact ⟨'$' :: rest, by simp [same], .dollar expands⟩
      | reference bracket name =>
        rw [Token.appendExpansion] at done
        cases outcome : value name with
        | error e =>
          rw [outcome] at done
          cases done
        | ok expanded =>
          rw [outcome] at done
          obtain ⟨rest, same, expands⟩ := ih _ done
          obtain ⟨held, found, inside⟩ := values name expanded outcome
          exact ⟨expanded.toList ++ rest, by simp [same], .reference found inside expands⟩
  obtain ⟨rest, same, expands⟩ := from_text "" done
  rw [same]
  exact expands

theorem expands_of_expand {chain : List String} {budget : Nat} {result : String}
    (done : table.expand budget chain text = .ok result) :
    table.Expands (Token.scan text.toList) result.toList := by
  induction budget generalizing chain text result with
  | zero =>
    rw [expand] at done
    refine expands_of_expandAll (fun name expanded ok => ?_) done
    split at ok <;> cases ok
  | succ budget ih =>
    rw [expand] at done
    refine expands_of_expandAll (fun name expanded ok => ?_) done
    split at ok
    · cases ok
    · rw [resolve] at ok
      cases found : table.get? name with
      | none =>
        rw [found] at ok
        cases ok
      | some held =>
        rw [found] at ok
        exact ⟨held, rfl, ih ok⟩

/-! ## What an expansion looks up -/

theorem expandAll_congr {value other : String → Except ConfigError String} {tokens : List Token}
    (same : ∀ name ∈ tokens.filterMap Token.name?, value name = other name) :
    Token.expandAll value tokens = Token.expandAll other tokens := by
  have from_text : ∀ text : String, tokens.foldlM (Token.appendExpansion value) text =
      tokens.foldlM (Token.appendExpansion other) text := by
    induction tokens with
    | nil => exact fun _ => rfl
    | cons token tokens ih =>
      intro text
      have later := ih fun name refers => same name <| by
        obtain ⟨holder, mem, named⟩ := List.mem_filterMap.1 refers
        exact List.mem_filterMap.2 ⟨holder, List.mem_cons_of_mem token mem, named⟩
      have here : Token.appendExpansion value text token =
          Token.appendExpansion other text token := by
        cases token with
        | char c => rfl
        | dollar => rfl
        | reference bracket name =>
          have agrees : value name = other name :=
            same name (List.mem_filterMap.2 ⟨_, List.mem_cons_self, rfl⟩)
          rw [Token.appendExpansion, Token.appendExpansion, agrees]
      rw [List.foldlM_cons, List.foldlM_cons, here]
      exact congrArg _ (funext later)
  exact from_text ""

/-- Two tables that render the names of all chains from a text alike expand it alike. -/
theorem expand_congr_of_render {other : Table}
    (agree : ∀ names, table.Chain text names → ∀ name ∈ names,
      (other.get? name).map Value.render = (table.get? name).map Value.render)
    (chain : List String) (budget : Nat) :
    other.expand budget chain text = table.expand budget chain text := by
  induction budget generalizing text chain with
  | zero =>
    rw [expand, expand]
  | succ budget ih =>
    rw [expand, expand]
    refine expandAll_congr fun name refers => ?_
    have here : (other.get? name).map Value.render = (table.get? name).map Value.render :=
      agree [name] (.single refers) name (List.mem_singleton.2 rfl)
    cases found : table.get? name with
    | none =>
      rw [found, Option.map_none, Option.map_eq_none_iff] at here
      simp only [resolve, here, found]
    | some value =>
      rw [found, Option.map_some, Option.map_eq_some_iff] at here
      obtain ⟨held, foundToo, rendered⟩ := here
      have inside := ih (fun names deeper later mem =>
        agree _ (.cons refers found deeper) later (List.mem_cons_of_mem name mem)) (chain ++ [name])
      simp only [resolve, foundToo, found, rendered, inside]

/-- Two tables that agree on the names of all chains from a text expand it alike. -/
theorem expand_congr {other : Table}
    (agree : ∀ names, table.Chain text names → ∀ name ∈ names, other.get? name = table.get? name)
    (chain : List String) (budget : Nat) :
    other.expand budget chain text = table.expand budget chain text :=
  expand_congr_of_render (fun names deep name mem => by rw [agree names deep name mem]) chain budget

/-- **The meaning of a substitution.**  It succeeds if and only if every chain of references from
the text is sound; the result is then the one text that the tokens come to.  Otherwise the error is
the first fault of the tour that goes depth first and from the left through all chains of up to one
name more than allowed, and it shows what the chain with the fault ends in.  No name that is not on
a chain is looked up, and the tokens are those of the one reading of the text from the left. -/
theorem substitute_meaning (table : Table) (text : String) :
    ((∃ result, table.substitute text = .ok result) ↔
        ∀ names, table.Chain text names → table.Sound names) ∧
      (∀ result, table.substitute text = .ok result →
        ∀ out, table.Expands (Token.scan text.toList) out ↔ out = result.toList) ∧
      (∀ e, table.substitute text = .error e ↔
        (table.trails (maxDepth + 1) text).findSome? table.fault? = some e) ∧
      (∀ names, names ∈ table.trails (maxDepth + 1) text ↔
        table.Chain text names ∧ names.length ≤ maxDepth + 1) ∧
      (∀ e, table.substitute text = .error e →
        ∃ names name, table.Chain text (names ++ [name]) ∧
          (e = .undefinedVariable name ∧ table.get? name = none ∨
            e = .substitutionCycle (names ++ [name]) ∧
              e.message =
                "recursive variable reference: " ++ " -> ".intercalate (names ++ [name]) ∧
              (name ∈ names ∨ names.length = maxDepth))) ∧
      (∀ other : Table,
        (∀ names, table.Chain text names → ∀ name ∈ names, other.get? name = table.get? name) →
          other.substitute text = table.substitute text) ∧
      ∀ tokens, Token.Scans text.toList tokens ↔ tokens = Token.scan text.toList := by
  refine ⟨ok_iff_forall_chain, ?_, fun _ => error_iff_findSome?, fun _ => mem_trails_iff, ?_, ?_,
    fun _ => Token.scans_iff⟩
  · intro result done out
    have expands := expands_of_expand done
    exact ⟨fun again => again.unique expands, fun same => same ▸ expands⟩
  · intro e refused
    obtain ⟨names, name, chain, undefined | ⟨rfl, wrong⟩⟩ := blame_of_error refused
    · exact ⟨names, name, chain, .inl undefined⟩
    · exact ⟨names, name, chain, .inr ⟨rfl, rfl, wrong⟩⟩
  · exact fun other agree => expand_congr agree [] maxDepth

/-- A list inside a text, an escape, and a name that comes back below another. -/
def nested : Table :=
  ((empty.define "DIRS" (.list ["a", "b"])).define "OUT" (.scalar "$(DIRS)/${LOOP}")).define
    "LOOP" (.scalar "$(OUT)")

theorem substitute_nested : nested.substitute "$(DIRS)$$(x)" = .ok "a b$(x)" := by
  decide +kernel

theorem substitute_nested_loop : nested.substitute "${OUT}" =
    .error (.substitutionCycle ["OUT", "LOOP", "OUT"]) := by
  decide +kernel

/-- Values without a fault come to a text; a name that comes back is shown with its chain. -/
theorem substitute_meaning_nested :
    nested.substitute "$(DIRS)$$(x)" = .ok "a b$(x)" ∧
      nested.substitute "${OUT}" = .error (.substitutionCycle ["OUT", "LOOP", "OUT"]) ∧
      (∀ out, nested.Expands (Token.scan "$(DIRS)$$(x)".toList) out ↔ out = "a b$(x)".toList) ∧
      (∀ names, nested.Chain "$(DIRS)$$(x)" names → nested.Sound names) ∧
      (nested.trails (maxDepth + 1) "${OUT}").findSome? nested.fault? =
        some (.substitutionCycle ["OUT", "LOOP", "OUT"]) ∧
      ∃ names name, nested.Chain "${OUT}" (names ++ [name]) ∧ name ∈ names := by
  obtain ⟨succeeds, comes, -⟩ := substitute_meaning nested "$(DIRS)$$(x)"
  obtain ⟨-, -, first, -, blame, -⟩ := substitute_meaning nested "${OUT}"
  refine ⟨substitute_nested, substitute_nested_loop, comes _ substitute_nested,
    succeeds.1 ⟨_, substitute_nested⟩, (first _).1 substitute_nested_loop, ?_⟩
  obtain ⟨names, name, chain, ⟨undefined, -⟩ | ⟨cycle, -, back | long⟩⟩ :=
    blame _ substitute_nested_loop
  · cases undefined
  · exact ⟨names, name, chain, back⟩
  · have shown : names.length + 1 = 3 := by
      have same := congrArg List.length (ConfigError.substitutionCycle.inj cycle)
      simpa using same.symm
    rw [long] at shown
    cases shown

end Table
end TaskRunner.Variable
