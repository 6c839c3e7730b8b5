import Mathlib.Data.List.Basic
import TaskRunner.Proofs.Variable.Substitution
/- # TaskRunner.Proofs.Variable.Concatenation -- a text is substituted piece by piece

Two texts that stand one after the other are read one after the other, unless a token begins in the
first and ends in the second (`Token.scan_append_iff`).  Where none does, the pieces are expanded
each for itself and put together (`Table.expand_append`).

What a reference is replaced by plays no part in that.  The tokens are those of the text as it is
written, and a mark at the end of the first text closes it against all that comes: a token that
began before the mark and ended behind it would have the dollar sign of the mark inside its name
(`Token.scan_append_of_mark`). -/

namespace TaskRunner.Variable
set_option autoImplicit false

namespace Token

/-- Whether one of several tokens begins before a place of the text that they spell, and ends behind
it. -/
def Straddled (place : Nat) (tokens : List Token) : Prop :=
  ∃ before token after, tokens = before ++ token :: after ∧
    (before.flatMap lexeme).length < place ∧
      place < ((before ++ [token]).flatMap lexeme).length

variable {tokens first second : List Token} {text front back : List Char}

/-! ## Two texts, one reading -/

/-- A place that no token straddles lies between two tokens. -/
theorem split_of_not_straddled (spelt : tokens.flatMap lexeme = front ++ back)
    (apart : ¬ Straddled front.length tokens) :
    ∃ first second, tokens = first ++ second ∧ first.flatMap lexeme = front := by
  induction tokens generalizing front with
  | nil =>
    have empty : front = [] := (List.append_eq_nil_iff.1 spelt.symm).1
    exact ⟨[], [], rfl, empty.symm⟩
  | cons token tokens ih =>
    by_cases none : front = []
    · exact ⟨[], token :: tokens, rfl, none.symm⟩
    rw [List.flatMap_cons] at spelt
    rcases List.append_eq_append_iff.1 spelt with ⟨rest, rfl, later⟩ | ⟨rest, whole, -⟩
    · have apart : ¬ Straddled rest.length tokens := by
        rintro ⟨before, next, after, rfl, begins, ends⟩
        refine apart ⟨token :: before, next, after, rfl, ?_, ?_⟩ <;>
          simp only [List.cons_append, List.flatMap_cons, List.length_append] at ends ⊢ <;> omega
      obtain ⟨first, second, rfl, same⟩ := ih later apart
      exact ⟨token :: first, second, rfl, by rw [List.flatMap_cons, same]⟩
    · cases rest with
      | nil => exact ⟨[token], tokens, rfl, by simpa using whole⟩
      | cons c rest =>
        have begins := List.length_pos_iff.2 none
        exact absurd ⟨[], token, tokens, rfl, begins, by simp [whole]⟩ apart

/-- A reading that is split between two tokens reads both parts of its text. -/
theorem Scans.of_append {tokens : List Token} (scans : Scans text tokens)
    (spelt : text = first.flatMap lexeme ++ back) (split : tokens = first ++ second) :
    Scans (first.flatMap lexeme) first ∧ Scans back second := by
  induction scans generalizing first with
  | nil =>
    obtain ⟨rfl, rfl⟩ := List.append_eq_nil_iff.1 split.symm
    obtain rfl : back = [] := by simpa using spelt.symm
    exact ⟨.nil, .nil⟩
  | @mark token rest tokens mark scans ih =>
    cases first with
    | nil =>
      obtain rfl : token.lexeme ++ rest = back := spelt
      obtain rfl : token :: tokens = second := split
      exact ⟨.nil, .mark mark scans⟩
    | cons same first =>
      obtain ⟨rfl, later⟩ := List.cons_eq_cons.1 split
      rw [List.flatMap_cons, List.append_assoc, List.append_cancel_left_eq] at spelt
      obtain ⟨scansFirst, scansSecond⟩ := ih spelt later
      exact ⟨.mark mark scansFirst, scansSecond⟩
  | @char c rest tokens plain scans ih =>
    cases first with
    | nil =>
      obtain rfl : c :: rest = back := spelt
      obtain rfl : .char c :: tokens = second := split
      exact ⟨.nil, .char plain scans⟩
    | cons same first =>
      obtain ⟨rfl, later⟩ := List.cons_eq_cons.1 split
      obtain ⟨-, rest⟩ := List.cons_eq_cons.1 spelt
      obtain ⟨scansFirst, scansSecond⟩ := ih rest later
      refine ⟨.char (fun token mark begins => plain token mark ?_) scansFirst, scansSecond⟩
      rw [rest]
      exact begins.trans (List.prefix_append (c :: first.flatMap lexeme) back)

/-- **Two texts are read one after the other**, exactly if no token straddles the boundary. -/
theorem scan_append_iff :
    scan (front ++ back) = scan front ++ scan back ↔
      ¬ Straddled front.length (scan (front ++ back)) := by
  constructor
  · rintro apart ⟨before, token, after, split, begins, ends⟩
    have spelt : front.length = ((scan front).flatMap lexeme).length := by
      rw [flatMap_lexeme_scan]
    rcases List.append_eq_append_iff.1 (apart.symm.trans split) with
      ⟨middle, rfl, -⟩ | ⟨middle, within, rest⟩
    · simp only [List.flatMap_append, List.length_append] at begins
      omega
    · rw [within] at spelt
      cases middle with
      | nil =>
        rw [List.append_nil] at spelt
        omega
      | cons next middle =>
        obtain ⟨rfl, -⟩ := List.cons_eq_cons.1 rest
        simp only [List.flatMap_append, List.flatMap_cons, List.flatMap_nil, List.length_append,
          List.length_nil] at spelt ends
        omega
  · intro apart
    obtain ⟨first, second, split, rfl⟩ :=
      split_of_not_straddled (flatMap_lexeme_scan _) apart
    obtain ⟨scansFirst, scansSecond⟩ := (scans_scan _).of_append rfl split
    rw [split, ← scans_iff.1 scansFirst, ← scans_iff.1 scansSecond]

/-! ## Behind a mark -/

/-- Only marks and single characters are read. -/
theorem Scans.mark_or_char (scans : Scans text tokens) {token : Token} (member : token ∈ tokens) :
    token.IsMark ∨ ∃ c, token = .char c := by
  induction scans with
  | nil => cases member
  | mark mark _ ih =>
    rcases List.mem_cons.1 member with rfl | later
    · exact .inl mark
    · exact ih later
  | @char c _ _ _ _ ih =>
    rcases List.mem_cons.1 member with rfl | later
    · exact .inr ⟨c, rfl⟩
    · exact ih later

/-- A mark has no other mark behind its first character. -/
theorem not_prefix_of_behind {token other : Token} (mark : token.IsMark) (marked : other.IsMark)
    {c : Char} {rest before : List Char} (spelt : rest = before ++ token.lexeme) :
    ¬ c :: rest <+: other.lexeme := by
  have dollar : '$' ∈ rest := by
    rw [spelt]
    cases token <;> simp [IsMark, lexeme] at mark ⊢
  have long : 2 ≤ rest.length := by
    rw [spelt]
    cases token <;> simp [IsMark, lexeme] at mark ⊢
    omega
  intro begins
  cases other with
  | char _ => cases marked
  | dollar =>
    have short := begins.length_le
    simp only [lexeme, List.length_cons, List.length_nil] at short
    omega
  | reference bracket name =>
    obtain ⟨-, inside⟩ := List.cons_prefix_cons.1 begins
    have named : ∀ c ∈ name.toList, isNameChar c = true :=
      List.all_eq_true.1 (all_isNameChar_of_isName marked)
    rcases List.mem_cons.1 (inside.subset dollar) with opens | later
    · cases bracket <;> cases opens
    · rcases List.mem_append.1 later with letter | closes
      · cases named _ letter
      · cases bracket <;> simp [Bracket.closing] at closes

/-- Behind a mark a reading starts anew, whatever text comes. -/
theorem Scans.append {before : List Token} {token : Token} (scans : Scans text tokens)
    (split : tokens = before ++ [token]) (mark : token.IsMark) :
    Scans (text ++ back) (tokens ++ scan back) := by
  induction scans generalizing before with
  | nil => simp at split
  | @mark next rest tokens marked scans ih =>
    rw [List.append_assoc]
    refine .mark marked ?_
    cases before with
    | nil =>
      obtain ⟨-, rfl⟩ := List.cons_eq_cons.1 split
      cases scans
      exact scans_scan back
    | cons _ before => exact ih (List.cons_eq_cons.1 split).2
  | @char c rest tokens plain scans ih =>
    cases before with
    | nil =>
      obtain ⟨rfl, -⟩ := List.cons_eq_cons.1 split
      cases mark
    | cons _ before =>
      obtain ⟨-, later⟩ := List.cons_eq_cons.1 split
      refine .char (fun other marked begins => ?_) (ih later)
      have spelt : rest = before.flatMap lexeme ++ token.lexeme := by
        rw [← flatMap_lexeme_scan rest, ← scans_iff.1 scans, later]
        simp
      rcases List.prefix_or_prefix_of_prefix begins (List.prefix_append (c :: rest) back) with
        inside | beyond
      · exact plain other marked inside
      · exact not_prefix_of_behind mark marked spelt beyond

/-- **A mark closes a text**: with whatever comes behind it, it makes no token. -/
theorem scan_append_of_mark {before : List Token} {token : Token}
    (ends : scan front = before ++ [token]) (mark : token.IsMark) :
    scan (front ++ back) = scan front ++ scan back :=
  (scans_iff.1 ((scans_scan front).append ends mark)).symm

/-! ## The expansion of the pieces -/

/-- What a token adds does not depend on the text that it is added to. -/
theorem appendExpansion_append (value : String → Except ConfigError String) (text more : String)
    (token : Token) : appendExpansion value (text ++ more) token =
      (appendExpansion value more token).map (text ++ ·) := by
  have push : ∀ c : Char, (text ++ more).push c = text ++ more.push c := fun c =>
    String.toList_inj.1 (by simp)
  cases token with
  | char c => exact congrArg Except.ok (push c)
  | dollar => exact congrArg Except.ok (push '$')
  | reference bracket name =>
    rw [appendExpansion, appendExpansion]
    cases value name with
    | error e => rfl
    | ok expanded => exact congrArg Except.ok String.append_assoc

theorem foldlM_appendExpansion (value : String → Except ConfigError String)
    (tokens : List Token) (text more : String) :
    tokens.foldlM (appendExpansion value) (text ++ more) =
      (tokens.foldlM (appendExpansion value) more).map (text ++ ·) := by
  induction tokens generalizing more with
  | nil => rfl
  | cons token tokens ih =>
    rw [List.foldlM_cons, List.foldlM_cons, appendExpansion_append]
    cases appendExpansion value more token with
    | error e => rfl
    | ok longer => exact ih longer

/-- **Tokens are expanded one after the other**, and the first refusal counts. -/
theorem expandAll_append (value : String → Except ConfigError String)
    (first second : List Token) :
    expandAll value (first ++ second) = do
      return (← expandAll value first) ++ (← expandAll value second) := by
  rw [expandAll, List.foldlM_append]
  change expandAll value first >>= _ = _
  refine congrArg (expandAll value first >>= ·) (funext fun text => ?_)
  have later := foldlM_appendExpansion value second text ""
  rw [String.append_empty] at later
  rw [later]
  change (expandAll value second).map _ = _
  cases expandAll value second <;> rfl

end Token

namespace Table

/-- A text that is put together of two, with no token across, expands piece by piece. -/
theorem expand_append (table : Table) (chain : List String) (budget : Nat) {front back : String}
    (apart : Token.scan (front ++ back).toList =
      Token.scan front.toList ++ Token.scan back.toList) :
    table.expand budget chain (front ++ back) = do
      return (← table.expand budget chain front) ++ (← table.expand budget chain back) := by
  cases budget <;> rw [expand, expand, expand, apart, Token.expandAll_append]

/-- **A substitution goes piece by piece.**  Where no token of two texts together straddles their
boundary, they are substituted one after the other, and the first failure counts.  Behind a
reference none ever does: whatever the reference is replaced by, and whatever text comes next, the
two make no token together. -/
theorem substitute_append (table : Table) (front back : String) :
    (¬ Token.Straddled front.toList.length (Token.scan (front ++ back).toList) →
        table.substitute (front ++ back) = do
          return (← table.substitute front) ++ (← table.substitute back)) ∧
      ∀ before bracket name, Token.scan front.toList = before ++ [.reference bracket name] →
        Token.scan (front ++ back).toList = Token.scan front.toList ++ Token.scan back.toList ∧
          table.substitute (front ++ back) = do
            return (← table.substitute front) ++ (← table.substitute back) := by
  rw [String.toList_append]
  refine ⟨fun apart => ?_, fun before bracket name ends => ?_⟩
  · refine table.expand_append [] maxDepth ?_
    rw [String.toList_append]
    exact Token.scan_append_iff.2 apart
  · have marked : (Token.reference bracket name).IsMark := by
      have member : Token.reference bracket name ∈ Token.scan front.toList := by simp [ends]
      exact ((Token.scans_scan _).mark_or_char member).resolve_right (by simp)
    have apart : Token.scan (front.toList ++ back.toList) =
        Token.scan front.toList ++ Token.scan back.toList :=
      Token.scan_append_of_mark ends marked
    exact ⟨apart, table.expand_append [] maxDepth (by rw [String.toList_append, apart])⟩

/-- A variable whose value comes to a dollar sign, beside one that a careless reader would find. -/
def dollars : Table := (empty.define "D" (.scalar "$$")).define "X" (.scalar "lost")

/-- A dollar sign that comes out of a reference, in front of a name in brackets; and two texts that
meet in the middle of a word. -/
theorem substitute_append_dollars :
    (¬ Token.Straddled "$(D)".toList.length (Token.scan ("$(D)" ++ "(X)").toList) ∧
        dollars.substitute ("$(D)" ++ "(X)") = .ok "$(X)") ∧
      Token.scan "a$(D)".toList = [.char 'a'] ++ [.reference .round "D"] ∧
        dollars.substitute ("a$(D)" ++ "$(Y)") = .error (.undefinedVariable "Y") := by
  have apart : ¬ Token.Straddled "$(D)".toList.length (Token.scan ("$(D)" ++ "(X)").toList) := by
    rw [String.toList_append]
    exact Token.scan_append_iff.1 (by decide +kernel)
  have ends : Token.scan "a$(D)".toList = [.char 'a'] ++ [.reference .round "D"] := by
    decide +kernel
  have first : dollars.substitute "$(D)" = .ok "$" := by decide +kernel
  have plain : dollars.substitute "(X)" = .ok "(X)" := by decide +kernel
  have opens : dollars.substitute "a$(D)" = .ok "a$" := by decide +kernel
  have unknown : dollars.substitute "$(Y)" = .error (.undefinedVariable "Y") := by decide +kernel
  refine ⟨⟨apart, ?_⟩, ends, ?_⟩
  · rw [(substitute_append dollars "$(D)" "(X)").1 apart, first, plain]
    rfl
  · rw [((substitute_append dollars "a$(D)" "$(Y)").2 _ _ _ ends).2, opens, unknown]
    rfl

end Table
end TaskRunner.Variable
