/- # TaskRunner.Variable.Name -- which texts name a variable

A name is a letter or an underscore followed by letters, digits and underscores, all of them ASCII.
A reference that brackets anything else is not a reference. -/

namespace TaskRunner.Variable
set_option autoImplicit false

/-- A character that may start a name. -/
def isNameStart (c : Char) : Bool := c.isAlpha || c == '_'

/-- A character that may stand in a name after its first. -/
def isNameChar (c : Char) : Bool := c.isAlphanum || c == '_'

/-- Whether a text is a name. -/
def isName : List Char → Bool
  | [] => false
  | c :: rest => isNameStart c && rest.all isNameChar

theorem isNameChar_of_isNameStart {c : Char} (h : isNameStart c = true) : isNameChar c = true := by
  simp only [isNameStart, isNameChar, Char.isAlphanum, Bool.or_eq_true] at *
  rcases h with h | h <;> simp [h]

/-- Every character of a name is a name character. -/
theorem all_isNameChar_of_isName {text : List Char} (h : isName text = true) :
    text.all isNameChar = true := by
  cases text with
  | nil => simp [isName] at h
  | cons c rest =>
    simp only [isName, Bool.and_eq_true] at h
    simp [isNameChar_of_isNameStart h.1, h.2]

end TaskRunner.Variable
