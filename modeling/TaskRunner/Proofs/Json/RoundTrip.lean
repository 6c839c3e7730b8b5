import Mathlib.Data.List.Basic
import TaskRunner.Json.Parser
import TaskRunner.Json.Printer
/- # TaskRunner.Proofs.Json.RoundTrip -- what is written can be read

A value without numbers is read back from its lines (`parse?_pretty`), whatever its strings hold.

Reading is followed along the text that was written, with anything behind it: each piece of the
reader takes what the same piece of the writer wrote and leaves the rest (`ReadsBack`).  Indentation
plays no part, because the reader looks at a text only after it has passed over blanks.  Its fuel is
enough because a value has more characters than it has parts. -/

namespace TaskRunner.Json
set_option autoImplicit false

open TaskRunner.Json.Parser TaskRunner.Json.Printer

/-- A value that holds texts, and no number. -/
inductive Textual : Json → Prop where
  | null : Textual .null
  | bool (value : Bool) : Textual (.bool value)
  | string (text : String) : Textual (.string text)
  | array {items : List Json} (each : ∀ item ∈ items, Textual item) : Textual (.array items)
  | object {fields : List (String × Json)} (each : ∀ field ∈ fields, Textual field.2) :
    Textual (.object fields)

/-! ## Strings -/

attribute [local simp] stringBody

theorem hexDigit?_hexDigit {n : Nat} (small : n < 16) : hexDigit? (hexDigit n) = some n := by
  have all : ∀ n < 16, hexDigit? (hexDigit n) = some n := by decide
  exact all n small

/-- The escape of a character by its code is read as the character, whatever comes behind it. -/
theorem stringBody_code {a b c d char : Char} {code : Nat}
    (digits : hex4? a b c d = some code) (scalar : scalar? code = some char)
    (read : Option (List Char)) (rest : List Char) :
    stringBody read ('\\' :: 'u' :: a :: b :: c :: d :: rest) =
      stringBody (read.map (char :: ·)) rest := by
  by_cases pair : ∃ e f g h more, rest = '\\' :: 'u' :: e :: f :: g :: h :: more
  · obtain ⟨e, f, g, h, more, rfl⟩ := pair
    rw [stringBody]
    simp only [digits, scalar]
  · have alone : ∀ e f g h more, rest = '\\' :: 'u' :: e :: f :: g :: h :: more → False :=
      fun e f g h more same => pair ⟨e, f, g, h, more, same⟩
    rw [stringBody.eq_3 _ _ _ _ _ _ alone]
    simp only [digits, scalar]

theorem scalar?_toNat (c : Char) : scalar? c.toNat = some c := by
  have valid : c.toNat.isValidChar := c.valid
  rw [scalar?, dif_pos valid]
  rfl

theorem hex4?_control {n : Nat} (control : n < 0x20) :
    hex4? '0' '0' (hexDigit (n / 16)) (hexDigit (n % 16)) = some n := by
  have zero : hexDigit? '0' = some 0 := by decide
  simp only [hex4?, zero, hexDigit?_hexDigit (show n / 16 < 16 by omega),
    hexDigit?_hexDigit (Nat.mod_lt n (by decide : 0 < 16)), Option.bind_eq_bind, Option.bind_some,
    Option.pure_def, Option.some.injEq]
  omega

theorem stringBody_escape (c : Char) (read : Option (List Char)) (rest : List Char) :
    stringBody read (escape c ++ rest) = stringBody (read.map (c :: ·)) rest := by
  unfold escape
  split
  case h_8 quoted slashed _ _ _ _ _ =>
    split
    · next control => exact stringBody_code (hex4?_control control) (scalar?_toNat c) read rest
    · next plain =>
      have unslashed : c ≠ '\\' := slashed
      rw [List.singleton_append, stringBody.eq_5 _ _ _ quoted] <;> simp [unslashed, plain]
  all_goals simp [escape?]

/-- A string is read up to the quote that ends it. -/
theorem stringBody_text (text read rest : List Char) :
    stringBody (some read) (text.flatMap escape ++ '"' :: rest) =
      some (some (String.ofList (read.reverse ++ text)), rest) := by
  induction text generalizing read with
  | nil => simp
  | cons c text ih =>
    rw [List.flatMap_cons, List.append_assoc, stringBody_escape, Option.map_some, ih]
    simp

/-- The characters of a string as it is written, but for the quote that it begins with. -/
theorem toList_quote (text : String) (rest : List Char) :
    (quote text).toList ++ rest = '"' :: (text.toList.flatMap escape ++ '"' :: rest) := by
  simp [quote]

theorem stringBody_quote (text : String) (rest : List Char) :
    stringBody (some []) (text.toList.flatMap escape ++ '"' :: rest) = some (some text, rest) := by
  simp [stringBody_text]

/-! ## Blanks -/

theorem skipBlanks_cons {c : Char} (solid : isBlank c = false) (rest : List Char) :
    skipBlanks (c :: rest) = c :: rest := by
  simp [skipBlanks, solid]

theorem skipBlanks_newline (depth : Nat) (rest : List Char) :
    skipBlanks ((newline depth).toList ++ rest) = skipBlanks rest := by
  have blanks : ∀ c ∈ (newline depth).toList, isBlank c = true := by
    simp only [newline, String.toList_ofList, List.mem_cons, List.mem_replicate]
    rintro c (rfl | ⟨-, rfl⟩) <;> decide
  rw [skipBlanks, List.dropWhile_append_of_pos blanks]
  rfl

/-! ## The lines of a value -/

attribute [local simp] Printer.pretty prettyItems prettyFields

theorem toList_pretty_null (depth : Nat) :
    (Printer.pretty depth .null).toList = ['n', 'u', 'l', 'l'] := by
  rw [Printer.pretty]
  rfl

theorem toList_pretty_bool (depth : Nat) (value : Bool) :
    (Printer.pretty depth (.bool value)).toList =
      if value then ['t', 'r', 'u', 'e'] else ['f', 'a', 'l', 's', 'e'] := by
  rw [Printer.pretty]
  cases value <;> rfl

theorem toList_pretty_nil (depth : Nat) :
    (Printer.pretty depth (.array [])).toList = ['[', ']'] := by
  rw [Printer.pretty]
  rfl

theorem toList_pretty_array (depth : Nat) (item : Json) (items : List Json) :
    (Printer.pretty depth (.array (item :: items))).toList =
      '[' :: ((newline (depth + 1)).toList ++ ((Printer.pretty (depth + 1) item).toList ++
        ((prettyItems (depth + 1) items).toList ++ ((newline depth).toList ++ [']'])))) := by
  simp

theorem toList_prettyItems_cons (depth : Nat) (item : Json) (items : List Json) :
    (prettyItems depth (item :: items)).toList =
      ',' :: ((newline depth).toList ++ ((Printer.pretty depth item).toList ++
        (prettyItems depth items).toList)) := by
  simp

theorem toList_pretty_blank (depth : Nat) :
    (Printer.pretty depth (.object [])).toList = ['{', '}'] := by
  rw [Printer.pretty]
  rfl

theorem toList_pretty_object (depth : Nat) (name : String) (content : Json)
    (fields : List (String × Json)) :
    (Printer.pretty depth (.object ((name, content) :: fields))).toList =
      '{' :: ((newline (depth + 1)).toList ++ ((quote name).toList ++
        (':' :: ' ' :: ((Printer.pretty (depth + 1) content).toList ++
          ((prettyFields (depth + 1) fields).toList ++ ((newline depth).toList ++ ['}'])))))) := by
  simp

theorem toList_prettyFields_cons (depth : Nat) (name : String) (content : Json)
    (fields : List (String × Json)) :
    (prettyFields depth ((name, content) :: fields)).toList =
      ',' :: ((newline depth).toList ++ ((quote name).toList ++
        (':' :: ' ' :: ((Printer.pretty depth content).toList ++
          (prettyFields depth fields).toList)))) := by
  simp

/-- A value begins with a character that is no blank and closes nothing. -/
theorem pretty_begins (depth : Nat) {content : Json} (textual : content.Textual) :
    ∃ c rest, (Printer.pretty depth content).toList = c :: rest ∧ isBlank c = false ∧ c ≠ ']' := by
  cases textual with
  | null => exact ⟨_, _, toList_pretty_null depth, by decide, by decide⟩
  | bool value =>
    rw [toList_pretty_bool]
    cases value <;> exact ⟨_, _, rfl, by decide, by decide⟩
  | string text =>
    rw [Printer.pretty]
    exact ⟨'"', _, by simpa using toList_quote text [], by decide, by decide⟩
  | @array items each =>
    cases items with
    | nil => exact ⟨_, _, toList_pretty_nil depth, by decide, by decide⟩
    | cons item items => exact ⟨_, _, toList_pretty_array depth item items, by decide, by decide⟩
  | @object fields each =>
    cases fields with
    | nil => exact ⟨_, _, toList_pretty_blank depth, by decide, by decide⟩
    | cons field fields =>
      exact ⟨_, _, toList_pretty_object depth field.1 field.2 fields, by decide, by decide⟩

/-! ## Reading back -/

/-- Whether a value is read from its lines, with any text behind them. -/
def ReadsBack (content : Json) : Prop :=
  ∀ depth fuel rest, (Printer.pretty depth content).length < fuel →
    value fuel ((Printer.pretty depth content).toList ++ rest) = some (content, rest)

theorem skipBlanks_pretty (depth : Nat) {content : Json} (textual : content.Textual)
    (rest : List Char) : skipBlanks ((Printer.pretty depth content).toList ++ rest) =
      (Printer.pretty depth content).toList ++ rest := by
  obtain ⟨c, more, begins, solid, -⟩ := pretty_begins depth textual
  rw [begins, List.cons_append, skipBlanks_cons solid]

theorem value_array (fuel : Nat) {text more : List Char} {c : Char}
    (inside : skipBlanks text = c :: more) (opens : c ≠ ']') :
    value (fuel + 1) ('[' :: text) = items fuel [] (c :: more) := by
  rw [Parser.value, inside]
  split
  · next same =>
    cases same
    exact absurd rfl opens
  · rfl

theorem value_object (fuel : Nat) {text more : List Char} {c : Char}
    (inside : skipBlanks text = c :: more) (opens : c ≠ '}') :
    value (fuel + 1) ('{' :: text) = fields fuel [] (c :: more) := by
  rw [Parser.value, inside]
  split
  · next same =>
    cases same
    exact absurd rfl opens
  · rfl

/-- The items of an array are read from one of them on, where each of them can be. -/
theorem items_prettyItems (depth outer : Nat) (rest : List Char) {item : Json}
    {others read : List Json} {fuel : Nat} {text : List Char}
    (each : ∀ member ∈ item :: others, member.ReadsBack)
    (start : skipBlanks text = (Printer.pretty depth item).toList ++
      ((prettyItems depth others).toList ++ ((newline outer).toList ++ ']' :: rest)))
    (enough : (Printer.pretty depth item).length + (prettyItems depth others).length + 1 < fuel)
    (textual : ∀ member ∈ others, member.Textual) :
    items fuel read text = some (.array (read.reverse ++ item :: others), rest) := by
  induction others generalizing item read fuel text with
  | nil =>
    obtain ⟨fuel, rfl⟩ := Nat.exists_eq_add_one_of_ne_zero (by omega : fuel ≠ 0)
    rw [items, start, each item List.mem_cons_self depth fuel _ (by omega)]
    have close : skipBlanks ((prettyItems depth []).toList ++ ((newline outer).toList ++
        ']' :: rest)) = ']' :: rest := by
      rw [prettyItems, String.toList_empty, List.nil_append, skipBlanks_newline]
      exact skipBlanks_cons (by decide) rest
    simp only [close, List.reverse_cons]
  | cons next others ih =>
    obtain ⟨fuel, rfl⟩ := Nat.exists_eq_add_one_of_ne_zero (by omega : fuel ≠ 0)
    have length_next := congrArg List.length (toList_prettyItems_cons depth next others)
    simp only [List.length_cons, List.length_append, String.length_toList] at length_next
    rw [items, start, each item List.mem_cons_self depth fuel _ (by omega),
      toList_prettyItems_cons]
    simp only [List.cons_append, skipBlanks_cons (by decide : isBlank ',' = false)]
    rw [ih (fun member mem => each member (List.mem_cons_of_mem _ mem)) _ (by omega)
      fun member mem => textual member (List.mem_cons_of_mem _ mem)]
    · simp
    · rw [List.append_assoc, List.append_assoc, skipBlanks_newline,
        skipBlanks_pretty depth (textual next List.mem_cons_self)]

/-- A field as it is kept while the fields of an object are read. -/
def ofField (field : String × Json) : Option String × Json := (some field.1, field.2)

theorem ofFields_map (read : List (String × Json)) :
    ofFields (read.map ofField).reverse = .object read := by
  have all : (read.map ofField).mapM
      (fun (pair : Option String × Json) => pair.1.map fun name => (name, pair.2)) = some read := by
    induction read with
    | nil => rfl
    | cons field read ih => simp [List.mapM_cons, ofField, ih]
  rw [ofFields, List.reverse_reverse, all]

/-- The first field of those that are left is read, and then the character behind it decides. -/
theorem fields_first (depth : Nat) (name : String) {content : Json} (textual : content.Textual)
    (reads : content.ReadsBack) (read : List (Option String × Json)) (fuel : Nat)
    {text rest : List Char}
    (start : skipBlanks text = (quote name).toList ++
      (':' :: ' ' :: ((Printer.pretty depth content).toList ++ rest)))
    (enough : (Printer.pretty depth content).length < fuel) :
    (∀ more, skipBlanks rest = ',' :: more →
      fields (fuel + 1) read text = fields fuel ((some name, content) :: read) more) ∧
    (∀ more, skipBlanks rest = '}' :: more →
      fields (fuel + 1) read text = some (ofFields ((some name, content) :: read), more)) := by
  have blank : ∀ more, skipBlanks (' ' :: more) = skipBlanks more := fun _ => rfl
  rw [toList_quote] at start
  rw [fields, start]
  constructor <;> intro more behind <;>
    simp only [stringBody_quote, skipBlanks_cons (by decide : isBlank ':' = false), blank,
      skipBlanks_pretty depth textual, reads depth fuel rest enough, behind]

/-- The fields of an object are read from one of them on, where the value of each can be. -/
theorem fields_prettyFields (depth outer : Nat) (rest : List Char) (read : List (String × Json))
    {name : String} {content : Json} {others : List (String × Json)} {fuel : Nat}
    {text : List Char}
    (each : ∀ field ∈ (name, content) :: others, field.2.Textual ∧ field.2.ReadsBack)
    (start : skipBlanks text = (quote name).toList ++
      (':' :: ' ' :: ((Printer.pretty depth content).toList ++
        ((prettyFields depth others).toList ++ ((newline outer).toList ++ '}' :: rest)))))
    (enough : (Printer.pretty depth content).length + (prettyFields depth others).length + 1 <
      fuel) :
    fields fuel (read.map ofField).reverse text =
      some (.object (read ++ (name, content) :: others), rest) := by
  have one_more : ∀ field : String × Json, (some field.1, field.2) :: (read.map ofField).reverse =
      ((read ++ [field]).map ofField).reverse := by
    simp [ofField]
  induction others generalizing name content read fuel text with
  | nil =>
    obtain ⟨fuel, rfl⟩ := Nat.exists_eq_add_one_of_ne_zero (by omega : fuel ≠ 0)
    obtain ⟨textual, reads⟩ : content.Textual ∧ content.ReadsBack :=
      each (name, content) List.mem_cons_self
    have close : skipBlanks ((prettyFields depth []).toList ++ ((newline outer).toList ++
        '}' :: rest)) = '}' :: rest := by
      rw [prettyFields, String.toList_empty, List.nil_append, skipBlanks_newline]
      exact skipBlanks_cons (by decide) rest
    rw [(fields_first depth name textual reads _ fuel start (by omega)).2 _ close,
      one_more (name, content), ofFields_map]
  | cons next others ih =>
    obtain ⟨fuel, rfl⟩ := Nat.exists_eq_add_one_of_ne_zero (by omega : fuel ≠ 0)
    obtain ⟨textual, reads⟩ : content.Textual ∧ content.ReadsBack :=
      each (name, content) List.mem_cons_self
    obtain ⟨next, value⟩ := next
    have length_next := congrArg List.length (toList_prettyFields_cons depth next value others)
    simp only [List.length_cons, List.length_append, String.length_toList] at length_next
    have comma := skipBlanks_cons (by decide : isBlank ',' = false)
    rw [toList_prettyFields_cons, List.cons_append] at start
    rw [(fields_first depth name textual reads _ fuel start (by omega)).1 _ (comma _),
      one_more (name, content),
      ih _ (fun field member => each field (List.mem_cons_of_mem _ member)) _ (by omega)]
    · simp
    · simp [ofField]
    · simp only [List.append_assoc, List.cons_append]
      rw [skipBlanks_newline, toList_quote]
      exact skipBlanks_cons (by decide) _

/-- **A value without numbers is read back from its lines.** -/
theorem Textual.readsBack {content : Json} (textual : content.Textual) : content.ReadsBack := by
  induction textual with
  | null =>
    intro depth fuel rest enough
    obtain ⟨fuel, rfl⟩ := Nat.exists_eq_add_one_of_ne_zero (by omega : fuel ≠ 0)
    rw [toList_pretty_null]
    rfl
  | bool value =>
    intro depth fuel rest enough
    obtain ⟨fuel, rfl⟩ := Nat.exists_eq_add_one_of_ne_zero (by omega : fuel ≠ 0)
    rw [toList_pretty_bool]
    cases value <;> rfl
  | string text =>
    intro depth fuel rest enough
    obtain ⟨fuel, rfl⟩ := Nat.exists_eq_add_one_of_ne_zero (by omega : fuel ≠ 0)
    rw [Printer.pretty, toList_quote, Parser.value, stringBody_quote]
    rfl
  | @array items each ih =>
    intro depth fuel rest enough
    obtain ⟨fuel, rfl⟩ := Nat.exists_eq_add_one_of_ne_zero (by omega : fuel ≠ 0)
    cases items with
    | nil =>
      rw [toList_pretty_nil]
      rfl
    | cons item items =>
      obtain ⟨c, more, begins, solid, opens⟩ :=
        pretty_begins (depth + 1) (each item List.mem_cons_self)
      have length_all := congrArg List.length (toList_pretty_array depth item items)
      simp only [List.length_cons, List.length_append, String.length_toList] at length_all
      rw [toList_pretty_array]
      simp only [List.cons_append, List.append_assoc]
      rw [value_array fuel (by rw [skipBlanks_newline, begins, List.cons_append,
        skipBlanks_cons solid]) opens]
      refine items_prettyItems (depth + 1) depth rest ih ?_ (by omega)
        fun member mem => each member (List.mem_cons_of_mem _ mem)
      rw [skipBlanks_cons solid, begins]
      rfl
  | @object fields each ih =>
    intro depth fuel rest enough
    obtain ⟨fuel, rfl⟩ := Nat.exists_eq_add_one_of_ne_zero (by omega : fuel ≠ 0)
    cases fields with
    | nil =>
      rw [toList_pretty_blank]
      rfl
    | cons field fields =>
      obtain ⟨name, content⟩ := field
      have length_all := congrArg List.length (toList_pretty_object depth name content fields)
      simp only [List.length_cons, List.length_append, String.length_toList] at length_all
      rw [toList_pretty_object]
      simp only [List.cons_append, List.append_assoc]
      rw [value_object fuel (by rw [skipBlanks_newline, toList_quote,
        skipBlanks_cons (by decide : isBlank '"' = false)]) (by decide)]
      refine fields_prettyFields (depth + 1) depth rest [] ?_ ?_ (by omega)
      · exact fun field member => ⟨each field member, ih field member⟩
      · rw [skipBlanks_cons (by decide : isBlank '"' = false), toList_quote]
        rfl

/-- **What is written of a value is a text of that value.** -/
theorem parse?_pretty {content : Json} (textual : content.Textual) :
    parse? content.pretty = some content := by
  have read := textual.readsBack 0 (content.pretty.toList.length + 1) []
    (by rw [Json.pretty, String.length_toList]; omega)
  have start := skipBlanks_pretty 0 textual []
  rw [List.append_nil] at read start
  rw [parse?]
  simp only [Json.pretty] at read ⊢
  rw [start, read]
  rfl

end TaskRunner.Json
