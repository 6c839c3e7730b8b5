import TaskRunner.Variable.Token
/- # TaskRunner.Proofs.Variable.Scan -- a scan takes the leftmost marks

A mark is what stands out in a text: an escape, or a reference to a name.  `Token.Scans` says what
it is to read a text from the left without saying how: a mark is taken whole where it begins, so
marks do not overlap, and only a character at which no mark begins stands for itself.

At most one mark begins at a place, since a name ends where its bracket closes.  So a text has one
reading, and `Token.scan` finds it (`scans_iff`). -/

namespace TaskRunner.Variable
set_option autoImplicit false

namespace Token

/-- Whether a token is an escape, or a reference to what is a name. -/
def IsMark : Token → Prop
  | char _ => False
  | dollar => True
  | reference _ name => isName name.toList = true

/-- The tokens of a text that is read from the left. -/
inductive Scans : List Char → List Token → Prop where
  | nil : Scans [] []
  | mark {token : Token} {rest : List Char} {tokens : List Token} (mark : token.IsMark)
      (scans : Scans rest tokens) : Scans (token.lexeme ++ rest) (token :: tokens)
  | char {c : Char} {rest : List Char} {tokens : List Token}
      (plain : ∀ token : Token, token.IsMark → ¬ token.lexeme <+: c :: rest)
      (scans : Scans rest tokens) : Scans (c :: rest) (.char c :: tokens)

/-! ## Names in brackets -/

theorem isNameChar_closing (bracket : Bracket) : isNameChar bracket.closing = false := by
  cases bracket <;> decide

/-- A name that a bracket closes is found. -/
theorem closedName?_append {bracket : Bracket} {name : String}
    (named : isName name.toList = true) (rest : List Char) :
    closedName? bracket (name.toList ++ bracket.closing :: rest) = some (name, rest) := by
  have inside : ∀ c ∈ name.toList, isNameChar c = true :=
    List.all_eq_true.1 (all_isNameChar_of_isName named)
  have ends : ¬ isNameChar bracket.closing = true := by simp [isNameChar_closing]
  simp [closedName?, List.takeWhile_append_of_pos inside, List.dropWhile_append_of_pos inside,
    List.takeWhile_cons_of_neg ends, List.dropWhile_cons_of_neg ends, named]

theorem isName_of_closedName? {bracket : Bracket} {text rest : List Char} {name : String}
    (h : closedName? bracket text = some (name, rest)) : isName name.toList = true := by
  unfold closedName? at h
  split at h
  · cases h
  · simp only [Option.ite_none_right_eq_some, Option.some.injEq, Prod.mk.injEq] at h
    obtain ⟨⟨-, named⟩, rfl, -⟩ := h
    rwa [String.toList_ofList]

/-! ## One step of a scan -/

/-- A mark in front is taken whole. -/
theorem scan_lexeme_append {token : Token} (mark : token.IsMark) (rest : List Char) :
    scan (token.lexeme ++ rest) = token :: scan rest := by
  cases token with
  | char c => cases mark
  | dollar => simp [lexeme, scan]
  | reference bracket name =>
    have closed :
        closedName? bracket (name.toList ++ bracket.closing :: rest) = some (name, rest) :=
      closedName?_append mark rest
    cases bracket <;>
      simp only [lexeme, Bracket.opening, Bracket.closing, List.cons_append, List.append_assoc,
        List.nil_append] at closed ⊢ <;>
      rw [scan] <;>
      split <;>
      simp_all

/-- A character at which no mark begins stands for itself. -/
theorem scan_of_plain {c : Char} {rest : List Char}
    (plain : ∀ token : Token, token.IsMark → ¬ token.lexeme <+: c :: rest) :
    scan (c :: rest) = char c :: scan rest := by
  have marked : ∀ {bracket : Bracket} {name : String} {text after : List Char},
      closedName? bracket text = some (name, after) →
        c :: rest ≠ '$' :: bracket.opening :: text := by
    intro bracket name text after found same
    refine plain (.reference bracket name) (isName_of_closedName? found) ⟨after, ?_⟩
    simp [same, eq_of_closedName? found, lexeme]
  rw [scan.eq_def]
  split
  · next nothing => cases nothing
  · next after same => exact absurd ⟨after, same.symm⟩ (plain .dollar trivial)
  · next after same =>
    split
    · next found => exact absurd same (marked found)
    · cases same
      rfl
  · next after same =>
    split
    · next found => exact absurd same (marked found)
    · cases same
      rfl
  · next same =>
    cases same
    rfl

/-! ## The reading of a text -/

theorem lexeme_ne_nil (token : Token) : token.lexeme ≠ [] := by
  cases token <;> simp [lexeme]

theorem scans_scan (text : List Char) : Scans text (scan text) := by
  match text with
  | [] =>
    rw [scan]
    exact .nil
  | c :: rest =>
    by_cases begins : ∃ token : Token, token.IsMark ∧ token.lexeme <+: c :: rest
    · obtain ⟨token, mark, after, split⟩ := begins
      have shorter : after.length < (c :: rest).length := by
        have := List.length_pos_iff.2 token.lexeme_ne_nil
        rw [← split, List.length_append]
        omega
      rw [← split, scan_lexeme_append mark]
      exact .mark mark (scans_scan after)
    · have plain : ∀ token : Token, token.IsMark → ¬ token.lexeme <+: c :: rest :=
        fun token mark begins' => begins ⟨token, mark, begins'⟩
      rw [scan_of_plain plain]
      exact .char plain (scans_scan rest)
termination_by text.length
decreasing_by
  · exact shorter
  · exact Nat.lt_succ_self rest.length

/-- **A text has one reading from the left**, and a scan finds it. -/
theorem scans_iff {text : List Char} {tokens : List Token} :
    Scans text tokens ↔ tokens = scan text := by
  constructor
  · intro scans
    induction scans with
    | nil => rw [scan]
    | mark mark _ ih => rw [scan_lexeme_append mark, ih]
    | char plain _ ih => rw [scan_of_plain plain, ih]
  · rintro rfl
    exact scans_scan text

end Token
end TaskRunner.Variable
