import Mathlib.Data.List.TakeWhile
import Mathlib.Tactic.TFAE
import TaskRunner.Override
import TaskRunner.Proofs.Variable.Scan
/- # TaskRunner.Proofs.Override -- what can be overridden can be referenced

Overrides test a name character by character, and a scan finds one between brackets.  Both are
compared with the grammar of names, `Variable.Named`, which lists the characters by their ranges:
`Override.isKey_iff` and `Variable.isName_iff`.

An argument is an override exactly if it is a name, an equals sign and a value
(`Override.parse_eq_ok_iff`), and a bracketed name is one token exactly if it is a name
(`Token.scan_lexeme_iff`). -/

namespace TaskRunner
set_option autoImplicit false

namespace Variable

/-- The characters that a name may begin with. -/
def IsInitial (c : Char) : Prop :=
  ('A' ≤ c ∧ c ≤ 'Z') ∨ ('a' ≤ c ∧ c ≤ 'z') ∨ c = '_'

/-- The texts that are names. -/
inductive Named : List Char → Prop where
  | intro {c : Char} {rest : List Char} (initial : IsInitial c)
      (others : ∀ other ∈ rest, IsInitial other ∨ ('0' ≤ other ∧ other ≤ '9')) : Named (c :: rest)

theorem isAlpha_or_underscore_iff (c : Char) :
    (c.isAlpha || c == '_') = true ↔ IsInitial c := by
  have upper : c.isUpper = true ↔ 'A' ≤ c ∧ c ≤ 'Z' := decide_eq_true_iff
  have lower : c.isLower = true ↔ 'a' ≤ c ∧ c ≤ 'z' := by
    show (decide ('a' ≤ c) && decide (c ≤ 'z')) = true ↔ _
    rw [Bool.and_eq_true, decide_eq_true_iff, decide_eq_true_iff]
  show ((c.isUpper || c.isLower) || c == '_') = true ↔ _
  rw [Bool.or_eq_true, Bool.or_eq_true, upper, lower, beq_iff_eq, or_assoc]
  rfl

theorem isAlphanum_or_underscore_iff (c : Char) :
    (c.isAlphanum || c == '_') = true ↔ IsInitial c ∨ ('0' ≤ c ∧ c ≤ '9') := by
  have digit : c.isDigit = true ↔ '0' ≤ c ∧ c ≤ '9' := by
    show (decide ('0' ≤ c) && decide (c ≤ '9')) = true ↔ _
    rw [Bool.and_eq_true, decide_eq_true_iff, decide_eq_true_iff]
  show ((c.isAlpha || c.isDigit) || c == '_') = true ↔ _
  rw [← isAlpha_or_underscore_iff, ← digit]
  simp only [Bool.or_eq_true]
  exact or_right_comm

theorem Named.equals_not_mem {text : List Char} (named : Named text) : '=' ∉ text := by
  have initial : ¬ IsInitial '=' := by
    rw [← isAlpha_or_underscore_iff]
    decide
  cases named with
  | @intro c rest first others =>
    rintro (_ | ⟨_, member⟩)
    · exact initial first
    · exact (others '=' member).elim initial (by decide)

/-- The names of references are those of the grammar. -/
theorem isName_iff {text : List Char} : isName text = true ↔ Named text := by
  cases text with
  | nil => exact iff_of_false Bool.false_ne_true (fun named => nomatch named)
  | cons c rest =>
    rw [isName, Bool.and_eq_true, List.all_eq_true, isNameStart, isAlpha_or_underscore_iff]
    simp only [isNameChar, isAlphanum_or_underscore_iff]
    constructor
    · rintro ⟨initial, others⟩
      exact .intro initial others
    · rintro ⟨initial, others⟩
      exact ⟨initial, others⟩

namespace Token

/-- A bracketed text is one token exactly if it is a name. -/
theorem scan_lexeme_iff {bracket : Bracket} {name : String} :
    scan (reference bracket name).lexeme = [reference bracket name] ↔ Named name.toList := by
  rw [← isName_iff]
  constructor
  · intro alone
    have scans := scans_scan (reference bracket name).lexeme
    rw [alone] at scans
    generalize (reference bracket name).lexeme = text at scans
    cases scans with
    | mark mark => exact mark
  · intro named
    have mark : (reference bracket name).IsMark := named
    have front := scan_lexeme_append mark []
    rwa [List.append_nil, scan] at front

/-- What a text refers to are names. -/
theorem named_of_mem_scan {text : List Char} {bracket : Bracket} {name : String}
    (member : reference bracket name ∈ scan text) : Named name.toList := by
  have scans := scans_scan text
  generalize scan text = tokens at member scans
  induction scans with
  | nil => cases member
  | mark mark _ ih =>
    rcases List.mem_cons.1 member with rfl | later
    · exact isName_iff.1 mark
    · exact ih later
  | char _ _ ih =>
    rcases List.mem_cons.1 member with same | later
    · cases same
    · exact ih later

end Token
end Variable

namespace Override

open Variable (Bracket Named Token)

/-- The names of overrides are those of the grammar. -/
theorem isKey_iff {text : List Char} : isKey text = true ↔ Named text := by
  cases text with
  | nil => exact iff_of_false Bool.false_ne_true (fun named => nomatch named)
  | cons c rest =>
    rw [isKey, Bool.and_eq_true, List.all_eq_true, List.head?_cons, Option.any_some]
    simp only [Variable.isAlphanum_or_underscore_iff, Variable.isAlpha_or_underscore_iff]
    constructor
    · rintro ⟨initial, all⟩
      exact .intro initial fun other member => all other (List.mem_cons_of_mem _ member)
    · rintro ⟨initial, others⟩
      refine ⟨initial, fun other member => ?_⟩
      rcases List.mem_cons.1 member with rfl | later
      · exact .inl initial
      · exact others other later

/-- An argument that gives a name a value, with the first equals sign between the two. -/
def Assigns (argument name value : String) : Prop :=
  argument = name ++ "=" ++ value ∧ '=' ∉ name.toList

theorem Assigns.parts {argument name value : String} (assigns : Assigns argument name value) :
    argument.toList.takeWhile (· != '=') = name.toList ∧
      argument.toList.dropWhile (· != '=') = '=' :: value.toList := by
  obtain ⟨rfl, free⟩ := assigns
  have spelt : (name ++ "=" ++ value).toList = name.toList ++ '=' :: value.toList := by simp
  have before : ∀ c ∈ name.toList, (c != '=') = true := by
    intro c member
    simpa using fun same : c = '=' => free (same ▸ member)
  rw [spelt, List.takeWhile_append_of_pos before, List.dropWhile_append_of_pos before]
  simp

theorem Assigns.mem {argument name value : String} (assigns : Assigns argument name value) :
    '=' ∈ argument.toList := by
  obtain ⟨rfl, -⟩ := assigns
  simp

/-- An argument gives one name one value. -/
theorem Assigns.unique {argument name value other text : String}
    (one : Assigns argument name value) (two : Assigns argument other text) :
    name = other ∧ value = text := by
  obtain ⟨front, back⟩ := one.parts
  obtain ⟨frontToo, backToo⟩ := two.parts
  refine ⟨String.toList_inj.1 (front.symm.trans frontToo), String.toList_inj.1 ?_⟩
  exact (List.cons_eq_cons.1 (back.symm.trans backToo)).2

/-- An argument with an equals sign has a first one, and gives what stands before it a value. -/
theorem exists_assigns {argument : String} (held : '=' ∈ argument.toList) :
    ∃ name value, Assigns argument name value := by
  obtain ⟨name, value, spelt, free⟩ := List.eq_append_cons_of_mem held
  refine ⟨String.ofList name, String.ofList value, String.toList_inj.1 ?_, ?_⟩
  · simp [spelt]
  · rwa [String.toList_ofList]

theorem parse_of_assigns {argument name value : String} (assigns : Assigns argument name value) :
    parse argument =
      if isKey name.toList then .ok ⟨name, value⟩ else .error (.invalidOverride argument) := by
  obtain ⟨front, back⟩ := assigns.parts
  unfold parse
  dsimp only
  rw [front, back]
  simp

theorem parse_of_free {argument : String} (free : '=' ∉ argument.toList) :
    parse argument = .error (.invalidOverride argument) := by
  have none : argument.toList.dropWhile (· != '=') = [] := by
    rw [List.dropWhile_eq_nil_iff]
    intro c member
    simpa using fun same : c = '=' => free (same ▸ member)
  unfold parse
  dsimp only
  rw [none]

/-- An argument is an override exactly if it gives a name a value. -/
theorem parse_eq_ok_iff {argument : String} {override : Override} :
    parse argument = .ok override ↔
      Assigns argument override.name override.value ∧ Named override.name.toList := by
  rw [← isKey_iff]
  constructor
  · intro parsed
    by_cases held : '=' ∈ argument.toList
    · obtain ⟨name, value, assigns⟩ := exists_assigns held
      rw [parse_of_assigns assigns] at parsed
      split at parsed
      · next key =>
        cases parsed
        exact ⟨assigns, key⟩
      · cases parsed
    · rw [parse_of_free held] at parsed
      cases parsed
  · rintro ⟨assigns, key⟩
    rw [parse_of_assigns assigns, if_pos key]

/-- **What can be overridden is what can be referenced.**  An argument is accepted if and only if the
text before its first equals sign is a name, and is its name, that sign and its value.  A text is
accepted as the name of an override if and only if it is one reference between round brackets, or
between curly ones; and whatever a text refers to can be overridden. -/
theorem parse_agrees_with_scan :
    (∀ argument, (∃ override, parse argument = .ok override) ↔
      ∃ name value, argument.toList = name ++ '=' :: value ∧ '=' ∉ name ∧ Named name) ∧
    (∀ argument override, parse argument = .ok override →
      override.name ++ "=" ++ override.value = argument ∧ '=' ∉ override.name.toList) ∧
    (∀ name value : String, '=' ∉ name.toList →
      [∃ override, parse (name ++ "=" ++ value) = .ok override,
        parse (name ++ "=" ++ value) = .ok ⟨name, value⟩,
        Token.scan ("$(" ++ name ++ ")").toList = [.reference .round name],
        Token.scan ("$\x7b" ++ name ++ "\x7d").toList = [.reference .curly name]].TFAE) ∧
    ∀ text bracket name, Token.reference bracket name ∈ Token.scan text →
      ∀ value, parse (name ++ "=" ++ value) = .ok ⟨name, value⟩ := by
  have accepted : ∀ {name : String} (value : String), Named name.toList →
      parse (name ++ "=" ++ value) = .ok ⟨name, value⟩ := fun value named =>
    parse_eq_ok_iff.2 ⟨⟨rfl, named.equals_not_mem⟩, named⟩
  refine ⟨fun argument => ?_, fun argument override parsed => ?_, fun name value free => ?_,
    fun text bracket name member value => accepted value (Token.named_of_mem_scan member)⟩
  · constructor
    · rintro ⟨override, parsed⟩
      obtain ⟨⟨same, free⟩, named⟩ := parse_eq_ok_iff.1 parsed
      exact ⟨_, override.value.toList, by simp [same], free, named⟩
    · rintro ⟨name, value, spelt, free, named⟩
      refine ⟨⟨String.ofList name, String.ofList value⟩, parse_eq_ok_iff.2 ⟨⟨?_, ?_⟩, ?_⟩⟩
      · exact String.toList_inj.1 (by simp [spelt])
      · simpa using free
      · simpa using named
  · obtain ⟨⟨same, free⟩, -⟩ := parse_eq_ok_iff.1 parsed
    exact ⟨same.symm, free⟩
  · have round : ("$(" ++ name ++ ")").toList = (Token.reference .round name).lexeme := by
      simp [Token.lexeme, Bracket.opening, Bracket.closing]
    have curly : ("$\x7b" ++ name ++ "\x7d").toList = (Token.reference .curly name).lexeme := by
      simp [Token.lexeme, Bracket.opening, Bracket.closing]
    rw [round, curly, Token.scan_lexeme_iff, Token.scan_lexeme_iff]
    tfae_have 1 → 3 := by
      rintro ⟨override, parsed⟩
      obtain ⟨assigns, named⟩ := parse_eq_ok_iff.1 parsed
      have own : Assigns (name ++ "=" ++ value) name value := ⟨rfl, free⟩
      rwa [(own.unique assigns).1]
    tfae_have 3 → 2 := accepted value
    tfae_have 2 → 1 := fun parsed => ⟨_, parsed⟩
    tfae_have 3 ↔ 4 := Iff.rfl
    tfae_finish

end Override
end TaskRunner
