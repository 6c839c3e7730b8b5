import Mathlib.Data.List.Forall2
import Mathlib.Data.List.Nodup
import TaskRunner.Runfile.Format
/- # TaskRunner.Proofs.Runfile.Fields -- what the fields of a record hold

Which values a field may hold, and what is meant by one, is said beside the reader: as a kind of
value (`IsText`, `IsListOf`, `MayBe`) and as a relation to what is read (`MeansText`, `MeansList`,
`ListGiven`).  A field is looked at through what is given for it, which is nothing where it is left
out.  Each way of reading then has one lemma for what it gives (`list?_eq_some_iff`), and there is
one for when something is meant (`exists_listGiven_iff`). -/

namespace TaskRunner.Runfile
set_option autoImplicit false

/-! ## Kinds of values -/

/-- The fields of an object, each known and there once. -/
structure Keyed (known : List String) (fields : List (String × Json)) : Prop where
  known : ∀ field ∈ fields, field.1 ∈ known
  once : (fields.map (·.1)).Nodup

section Kinds

variable (Kind : Json → Prop)

def IsText (content : Json) : Prop := ∃ text, content = .string text

def IsFlag (content : Json) : Prop := ∃ flag, content = .bool flag

def IsListOf (content : Json) : Prop := ∃ items, content = .array items ∧ ∀ item ∈ items, Kind item

def IsNullOr (content : Json) : Prop := content = .null ∨ Kind content

def IsObject (Fields : List (String × Json) → Prop) (content : Json) : Prop :=
  ∃ fields, content = .object fields ∧ Fields fields

/-- What is given for a field that must be there. -/
def MustBe (given : Option Json) : Prop := ∃ content, given = some content ∧ Kind content

/-- What is given for a field that may be left out. -/
def MayBe (given : Option Json) : Prop := ∀ content, given = some content → Kind content

end Kinds

/-! ## What is meant -/

section Meaning

variable {β : Type} (Means : Json → β → Prop)

def MeansText (content : Json) (text : String) : Prop := content = .string text

def MeansFlag (content : Json) (flag : Bool) : Prop := content = .bool flag

/-- A list holds what its items hold, in their order. -/
def MeansList (content : Json) (meant : List β) : Prop :=
  ∃ items, content = .array items ∧ List.Forall₂ Means items meant

/-- A list that is left out is empty. -/
inductive ListGiven : Option Json → List β → Prop where
  | absent : ListGiven none []
  | given {content : Json} {meant : List β} (list : MeansList Means content meant) :
    ListGiven (some content) meant

/-- Leaving a field out is the same as writing null. -/
inductive OptionGiven : Option Json → Option β → Prop where
  | absent : OptionGiven none none
  | null : OptionGiven (some .null) none
  | given {content : Json} {meant : β} (there : content ≠ .null) (one : Means content meant) :
    OptionGiven (some content) (some meant)

end Meaning

/-- An object declares what its fields declare. -/
def MeansObject {β : Type} (Means : List (String × Json) → β → Prop) (content : Json) (meant : β) :
    Prop :=
  ∃ fields, content = .object fields ∧ Means fields meant

/-! ## Lists and optional values -/

section Reading

variable {β : Type} {read : Json → Option β} {Means : Json → β → Prop} {Kind : Json → Prop}
  {fields : List (String × Json)} {key : String}

theorem mapM_eq_some_iff {α β : Type} {read : α → Option β} {Means : α → β → Prop}
    {items : List α} {meant : List β}
    (reads : ∀ item ∈ items, ∀ one, read item = some one ↔ Means item one) :
    items.mapM read = some meant ↔ List.Forall₂ Means items meant := by
  induction items generalizing meant with
  | nil => simp [eq_comm]
  | cons item rest ih =>
    have here := reads item List.mem_cons_self
    have later : ∀ more, rest.mapM read = some more ↔ List.Forall₂ Means rest more :=
      fun more => ih fun one member => reads one (List.mem_cons_of_mem item member)
    simp [List.mapM_cons, List.forall₂_cons_left_iff, Option.bind_eq_some_iff, here, later,
      @eq_comm _ meant]

theorem exists_forall₂_iff (told : ∀ content, (∃ one, Means content one) ↔ Kind content)
    {items : List Json} :
    (∃ meant, List.Forall₂ Means items meant) ↔ ∀ item ∈ items, Kind item := by
  induction items with
  | nil => simp
  | cons item rest ih =>
    rw [List.forall_mem_cons, ← ih, ← told]
    constructor
    · rintro ⟨_, _ | ⟨one, more⟩⟩
      exact ⟨⟨_, one⟩, _, more⟩
    · rintro ⟨⟨_, one⟩, _, more⟩
      exact ⟨_, .cons one more⟩

theorem exists_meansList_iff (told : ∀ content, (∃ one, Means content one) ↔ Kind content)
    (content : Json) : (∃ meant, MeansList Means content meant) ↔ IsListOf Kind content := by
  simp only [MeansList, IsListOf, ← exists_forall₂_iff told]
  exact ⟨fun ⟨meant, items, same, each⟩ => ⟨items, same, meant, each⟩,
    fun ⟨items, same, meant, each⟩ => ⟨meant, items, same, each⟩⟩

theorem items_eq_some_iff {content : Json} {meant : List β}
    (reads : ∀ items, content = .array items →
      ∀ item ∈ items, ∀ one, read item = some one ↔ Means item one) :
    (Json.array? content).bind (·.mapM read) = some meant ↔ MeansList Means content meant := by
  have array : ∀ items, Json.array? content = some items ↔ content = .array items := by
    cases content <;> simp [Json.array?]
  simp only [Option.bind_eq_some_iff, array]
  exact exists_congr fun items => and_congr_right fun same => mapM_eq_some_iff (reads items same)

theorem list?_eq_some_iff {meant : List β}
    (reads : ∀ items, fields.lookup key = some (.array items) →
      ∀ item ∈ items, ∀ one, read item = some one ↔ Means item one) :
    jsonFormat.list? read fields key = some meant ↔ ListGiven Means (fields.lookup key) meant := by
  unfold Format.list?
  cases given : fields.lookup key with
  | none =>
    simp only [Option.some.injEq]
    exact ⟨fun same => same ▸ .absent, fun | .absent => rfl⟩
  | some content =>
    have list : _ = some meant ↔ _ :=
      items_eq_some_iff fun items same => reads items (given.trans (same ▸ rfl))
    exact list.trans ⟨.given, fun | .given list => list⟩

theorem option?_eq_some_iff {meant : Option β}
    (reads : ∀ content one, read content = some one ↔ Means content one) :
    jsonFormat.option? read fields key = some meant ↔
      OptionGiven Means (fields.lookup key) meant := by
  unfold Format.option?
  cases fields.lookup key with
  | none => exact ⟨fun same => Option.some.inj same ▸ .absent, fun | .absent => rfl⟩
  | some content =>
    by_cases null : content = .null
    · subst null
      constructor
      · exact fun same => Option.some.inj same ▸ .null
      · rintro (_ | _ | ⟨there, -⟩)
        · rfl
        · exact absurd rfl there
    · have there : jsonFormat.optional? content = some (some content) := by
        cases content <;> first | rfl | exact absurd rfl null
      simp only [there, Option.map_eq_some_iff, reads]
      constructor
      · rintro ⟨one, means, rfl⟩
        exact .given null means
      · rintro (_ | _ | ⟨_, means⟩)
        · exact absurd rfl null
        · exact ⟨_, means, rfl⟩

theorem exists_listGiven_iff (told : ∀ content, (∃ one, Means content one) ↔ Kind content)
    (given : Option Json) :
    (∃ meant, ListGiven Means given meant) ↔ MayBe (IsListOf Kind) given := by
  cases given with
  | none => exact iff_of_true ⟨[], .absent⟩ nofun
  | some content =>
    simp only [MayBe, Option.some.injEq, forall_eq', ← exists_meansList_iff told]
    exact exists_congr fun _ => ⟨fun | .given list => list, .given⟩

theorem exists_optionGiven_iff (told : ∀ content, (∃ one, Means content one) ↔ Kind content)
    (given : Option Json) :
    (∃ meant, OptionGiven Means given meant) ↔ MayBe (IsNullOr Kind) given := by
  cases given with
  | none => exact iff_of_true ⟨none, .absent⟩ nofun
  | some content =>
    simp only [MayBe, Option.some.injEq, forall_eq', IsNullOr, ← told]
    constructor
    · rintro ⟨_, _ | _ | ⟨-, one⟩⟩
      · exact .inl rfl
      · exact .inr ⟨_, one⟩
    · rintro (rfl | ⟨one, means⟩)
      · exact ⟨none, .null⟩
      -- Null means nothing, even if the kind has it.
      · by_cases null : content = .null
        · exact ⟨none, null ▸ .null⟩
        · exact ⟨some one, .given null means⟩

/-- Of two fields of which one is left out, each is as it may be if the one that is there is. -/
theorem mayBe_or_iff {first second : Option Json} (one : first = none ∨ second = none) :
    MayBe Kind (first.or second) ↔ MayBe Kind first ∧ MayBe Kind second := by
  have absent : MayBe Kind none := nofun
  rcases one with rfl | rfl
  · simp [absent]
  · simp [absent]

end Reading

/-! ## Texts and flags -/

theorem text?_eq_some_iff {content : Json} {text : String} :
    jsonFormat.text? content = some text ↔ MeansText content text := by
  cases content <;> simp [jsonFormat, Json.string?, MeansText]

theorem bool?_eq_some_iff {content : Json} {flag : Bool} :
    jsonFormat.bool? content = some flag ↔ MeansFlag content flag := by
  cases content <;> simp [jsonFormat, Json.bool?, MeansFlag]

theorem texts?_eq_some_iff {content : Json} {texts : List String} :
    jsonFormat.texts? content = some texts ↔ MeansList MeansText content texts :=
  items_eq_some_iff fun _ _ _ _ _ => text?_eq_some_iff

theorem exists_meansText_iff (content : Json) : (∃ text, MeansText content text) ↔ IsText content :=
  Iff.rfl

theorem exists_meansFlag_iff (content : Json) : (∃ flag, MeansFlag content flag) ↔ IsFlag content :=
  Iff.rfl

/-! ## Records -/

section Fields

variable {record : Record} {known : List String} {meaning : String → String}
  {fields entries : List (String × Json)}

/-- The fields of a record are known, and no two of them mean the same. -/
theorem Record.ofEntries?_eq_some_iff
    (keys : ∀ key, record.key? key = if key ∈ known then some (meaning key) else none) :
    record.ofEntries? fields = some entries ↔
      (∀ field ∈ fields, field.1 ∈ known) ∧ (fields.map fun field => meaning field.1).Nodup ∧
        entries = fields.map fun field => (meaning field.1, field.2) := by
  -- Every key is looked up first; only then the meanings are compared.
  have each : ∀ field ∈ fields, ∀ entry,
      (record.key? field.1).map (·, field.2) = some entry ↔
        field.1 ∈ known ∧ (meaning field.1, field.2) = entry := by
    intro field _ entry
    rw [keys]
    split <;> simp [*]
  have all : ∀ renamed,
      fields.mapM (fun field => (record.key? field.1).map (·, field.2)) = some renamed ↔
        (∀ field ∈ fields, field.1 ∈ known) ∧
          fields.map (fun field => (meaning field.1, field.2)) = renamed := by
    intro renamed
    rw [mapM_eq_some_iff each, List.forall₂_and_left,
      ← List.forall₂_map_left_iff (R := Eq), List.forall₂_eq_eq_eq]
  have keep : ∀ renamed : List (String × Json),
      (if (renamed.map (·.1)).Nodup then some renamed else none) = some entries ↔
        (renamed.map (·.1)).Nodup ∧ renamed = entries := by
    intro renamed
    split <;> simp [*]
  have split : record.ofEntries? fields =
      (fields.mapM fun field => (record.key? field.1).map (·, field.2)).bind fun renamed =>
        if (renamed.map (·.1)).Nodup then some renamed else none := rfl
  simp only [split, Option.bind_eq_some_iff, all, keep]
  constructor
  · rintro ⟨_, ⟨known, rfl⟩, once, rfl⟩
    exact ⟨known, by rwa [List.map_map] at once, rfl⟩
  · rintro ⟨known, once, rfl⟩
    exact ⟨_, ⟨known, rfl⟩, by rwa [List.map_map], rfl⟩

/-- A record without second spellings is read as it is written. -/
theorem Record.ofEntries?_eq_some_iff_keyed
    (keys : ∀ key, record.key? key = if key ∈ known then some key else none) :
    record.ofEntries? fields = some entries ↔ Keyed known fields ∧ entries = fields := by
  rw [Record.ofEntries?_eq_some_iff keys]
  simp only [List.map_id']
  exact ⟨fun ⟨all, once, same⟩ => ⟨⟨all, once⟩, same⟩,
    fun ⟨⟨all, once⟩, same⟩ => ⟨all, once, same⟩⟩

end Fields

theorem Record.key?_nil {least : Nat} {key : String} : Record.key? ⟨[], least⟩ key = none := rfl

theorem Record.key?_cons {field : Field} {fields : List Field} {least : Nat} {key : String} :
    Record.key? ⟨field :: fields, least⟩ key =
      if field.name = key ∨ field.other = some key then some field.name
      else Record.key? ⟨fields, least⟩ key := by
  by_cases here : field.name = key ∨ field.other = some key <;> simp [Record.key?, here]

/-- Whether a record is written as an array, that is without the names of its fields. -/
def IsPositional (content : Json) : Prop := ∃ contents, content = .array contents

theorem record?_eq_some_iff {content : Json} {record : Record} {entries : List (String × Json)}
    (named : ¬ IsPositional content) : jsonFormat.record? record content = some entries ↔
      ∃ fields, content = .object fields ∧ record.ofEntries? fields = some entries := by
  cases content with
  | object fields => simp [Format.record?, jsonFormat, jsonEntries?]
  | array contents => exact absurd ⟨contents, rfl⟩ named
  | null | bool | number | string | unreadable =>
    simp [Format.record?, jsonFormat, jsonEntries?, Json.array?]

theorem exists_meansObject_iff {β : Type} {Means : List (String × Json) → β → Prop}
    {Fields : List (String × Json) → Prop}
    (told : ∀ fields, (∃ one, Means fields one) ↔ Fields fields) (content : Json) :
    (∃ one, MeansObject Means content one) ↔ IsObject Fields content := by
  simp only [MeansObject, IsObject, ← told]
  exact ⟨fun ⟨one, fields, same, means⟩ => ⟨fields, same, one, means⟩,
    fun ⟨fields, same, one, means⟩ => ⟨one, fields, same, means⟩⟩

end TaskRunner.Runfile
