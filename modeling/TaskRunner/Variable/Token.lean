import TaskRunner.Variable.Name
/- # TaskRunner.Variable.Token -- the references in a text

A text is read from the left into tokens: `$$`, which stands for a dollar sign, a reference
`$(NAME)` or `$` with the name in curly brackets, and single characters for all else.  The leftmost
token is taken each time and tokens do not overlap, so a dollar sign that starts neither an escape
nor a reference is an ordinary character.

`lexeme` gives a token its spelling back, and `flatMap_lexeme_scan` says that the spellings of the
tokens of a text, one after the other, are the text. -/

namespace TaskRunner.Variable
set_option autoImplicit false

/-- The two ways to bracket a referenced name. -/
inductive Bracket where
  | round
  | curly
  deriving DecidableEq, Repr

namespace Bracket

def opening : Bracket → Char
  | round => '('
  | curly => '{'

def closing : Bracket → Char
  | round => ')'
  | curly => '}'

end Bracket

/-- One piece of a text that may hold references. -/
inductive Token where
  | char (c : Char)
  /-- The escape `$$`. -/
  | dollar
  | reference (bracket : Bracket) (name : String)
  deriving DecidableEq, Repr

namespace Token

/-- How a token is spelt. -/
def lexeme : Token → List Char
  | char c => [c]
  | dollar => ['$', '$']
  | reference bracket name => '$' :: bracket.opening :: (name.toList ++ [bracket.closing])

/-- The name that `text` starts with and what follows its closing bracket; nothing if `text` does
not start with a name that this bracket closes. -/
def closedName? (bracket : Bracket) (text : List Char) : Option (String × List Char) :=
  match text.dropWhile isNameChar with
  | [] => none
  | c :: rest =>
    let name := text.takeWhile isNameChar
    if c = bracket.closing ∧ isName name = true then some (String.ofList name, rest) else none

theorem eq_of_closedName? {bracket : Bracket} {text rest : List Char} {name : String}
    (h : closedName? bracket text = some (name, rest)) :
    text = name.toList ++ bracket.closing :: rest := by
  unfold closedName? at h
  split at h
  · simp at h
  · next c tail eq =>
    simp only [Option.ite_none_right_eq_some, Option.some.injEq, Prod.mk.injEq] at h
    obtain ⟨⟨rfl, -⟩, rfl, rfl⟩ := h
    rw [String.toList_ofList, ← eq, List.takeWhile_append_dropWhile]

theorem length_of_closedName? {bracket : Bracket} {text rest : List Char} {name : String}
    (h : closedName? bracket text = some (name, rest)) : rest.length < text.length := by
  rw [eq_of_closedName? h]
  simp only [List.length_append, List.length_cons]
  omega

/-- The tokens of a text, from the left. -/
def scan : List Char → List Token
  | [] => []
  | '$' :: '$' :: rest => dollar :: scan rest
  | '$' :: '(' :: rest =>
    match _h : closedName? .round rest with
    | some (name, after) => reference .round name :: scan after
    | none => char '$' :: scan ('(' :: rest)
  | '$' :: '{' :: rest =>
    match _h : closedName? .curly rest with
    | some (name, after) => reference .curly name :: scan after
    | none => char '$' :: scan ('{' :: rest)
  | c :: rest => char c :: scan rest
termination_by text => text.length
decreasing_by
  all_goals simp only [List.length_cons]
  all_goals try have := length_of_closedName? _h
  all_goals omega

/-- Nothing of a text is lost: its tokens spell it. -/
theorem flatMap_lexeme_scan (text : List Char) : (scan text).flatMap lexeme = text := by
  fun_induction scan text with
  | case1 => rfl
  | case2 rest ih => simp [lexeme, ih]
  | case3 rest name after h ih =>
    simp [lexeme, ih, eq_of_closedName? h, Bracket.opening, Bracket.closing]
  | case4 rest h ih => simp [lexeme, ih]
  | case5 rest name after h ih =>
    simp [lexeme, ih, eq_of_closedName? h, Bracket.opening, Bracket.closing]
  | case6 rest h ih => simp [lexeme, ih]
  | case7 c rest _ _ _ ih => simp [lexeme, ih]

end Token
end TaskRunner.Variable
