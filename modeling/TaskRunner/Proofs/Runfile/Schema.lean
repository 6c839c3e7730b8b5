import TaskRunner.Proofs.Runfile.Fields
/- # TaskRunner.Proofs.Runfile.Schema -- what is accepted as a Runfile, and what it declares

The schema is written down twice beside the reader: which values have the shape of a Runfile
(`Shape`), and which Runfile a value declares (`Declares`).  Reading a value that writes its records
with names succeeds exactly on the shape and gives exactly what is declared (`ofJson?_exact`).

The prerequisites of a target have a second spelling.  A target is read after its keys have been
brought to the first one (`targetKey`), so what is given for the prerequisites is what is given
under either key (`lookup_prerequisites`), and bringing the keys to it before changes nothing
(`ofJson?_spelledOut`). -/

namespace TaskRunner.Runfile
set_option autoImplicit false

/-! ## The shape -/

def variableKeys : List String := ["name", "value"]

/-- The keys of a target, with both spellings of the prerequisites. -/
def targetKeys : List String :=
  ["name", "prerequisites", "deps", "recipe", "phony", "outputs", "description"]

def fileKeys : List String := ["default", "shell", "variables", "targets"]

structure VariableShape (fields : List (String × Json)) : Prop where
  keyed : Keyed variableKeys fields
  name : MustBe IsText (fields.lookup "name")
  value : MustBe (fun given => IsText given ∨ IsListOf IsText given) (fields.lookup "value")

structure TargetShape (fields : List (String × Json)) : Prop where
  keyed : Keyed targetKeys fields
  spelling : fields.lookup "prerequisites" = none ∨ fields.lookup "deps" = none
  name : MustBe IsText (fields.lookup "name")
  prerequisites : MayBe (IsListOf IsText) (fields.lookup "prerequisites")
  deps : MayBe (IsListOf IsText) (fields.lookup "deps")
  recipe : MayBe (IsListOf IsText) (fields.lookup "recipe")
  phony : MayBe (IsNullOr IsFlag) (fields.lookup "phony")
  outputs : MayBe (IsListOf IsText) (fields.lookup "outputs")
  description : MayBe (IsNullOr IsText) (fields.lookup "description")

structure FileShape (fields : List (String × Json)) : Prop where
  keyed : Keyed fileKeys fields
  default : MayBe (IsNullOr IsText) (fields.lookup "default")
  shell : MayBe (IsNullOr (IsListOf IsText)) (fields.lookup "shell")
  definitions : MayBe (IsListOf (IsObject VariableShape)) (fields.lookup "variables")
  targets : MayBe (IsListOf (IsObject TargetShape)) (fields.lookup "targets")

/-- Whether a value has the shape of a Runfile. -/
def Shape (content : Json) : Prop := IsObject FileShape content

/-! ## What is declared -/

/-- A variable holds the text or the texts that are given. -/
inductive MeansValue : Json → Variable.Value → Prop where
  | scalar (text : String) : MeansValue (.string text) (.scalar text)
  | list {content : Json} {texts : List String} (list : MeansList MeansText content texts) :
    MeansValue content (.list texts)

structure VariableMeans (fields : List (String × Json)) (decl : VariableDecl) : Prop where
  keyed : Keyed variableKeys fields
  name : fields.lookup "name" = some (.string decl.name)
  value : ∃ given, fields.lookup "value" = some given ∧ MeansValue given decl.value

/-- Only one of the two spellings of the prerequisites may be given. -/
structure TargetMeans (fields : List (String × Json)) (decl : TargetDecl) : Prop where
  keyed : Keyed targetKeys fields
  spelling : fields.lookup "prerequisites" = none ∨ fields.lookup "deps" = none
  name : fields.lookup "name" = some (.string decl.name)
  prerequisites : ListGiven MeansText
    ((fields.lookup "prerequisites").or (fields.lookup "deps")) decl.prerequisites
  recipe : ListGiven MeansText (fields.lookup "recipe") decl.recipe
  phony : OptionGiven MeansFlag (fields.lookup "phony") decl.phony
  outputs : ListGiven MeansText (fields.lookup "outputs") decl.outputs
  description : OptionGiven MeansText (fields.lookup "description") decl.description

structure FileMeans (fields : List (String × Json)) (runfile : Runfile) : Prop where
  keyed : Keyed fileKeys fields
  default : OptionGiven MeansText (fields.lookup "default") runfile.default
  shell : OptionGiven (MeansList MeansText) (fields.lookup "shell") runfile.shell
  definitions :
    ListGiven (MeansObject VariableMeans) (fields.lookup "variables") runfile.definitions
  targets : ListGiven (MeansObject TargetMeans) (fields.lookup "targets") runfile.targets

/-- The Runfile that a value declares. -/
def Declares (content : Json) (runfile : Runfile) : Prop := MeansObject FileMeans content runfile

/-! ## The keys of each record -/

theorem key?_variableRecord (key : String) :
    variableRecord.key? key = if key ∈ variableKeys then some key else none := by
  simp only [variableRecord, Record.key?_cons, Record.key?_nil, variableKeys]
  grind

/-- The field that a key of a target means. -/
def targetKey (key : String) : String := if key = "deps" then "prerequisites" else key

theorem key?_targetRecord (key : String) :
    targetRecord.key? key = if key ∈ targetKeys then some (targetKey key) else none := by
  simp only [targetRecord, Record.key?_cons, Record.key?_nil, targetKeys, targetKey]
  grind

theorem key?_fileRecord (key : String) :
    fileRecord.key? key = if key ∈ fileKeys then some key else none := by
  simp only [fileRecord, Record.key?_cons, Record.key?_nil, fileKeys]
  grind

/-! ## The two spellings of the prerequisites -/

section Spelling

variable {fields : List (String × Json)}

theorem lookup_eq_none_iff_notMem {key : String} :
    fields.lookup key = none ↔ key ∉ fields.map (·.1) := by
  rw [List.lookup_eq_none_iff]
  simp only [List.mem_map, not_exists, not_and, bne_iff_ne]
  exact forall₂_congr fun _ _ => ne_comm

/-- Fields of a target mean the same only if they are called the same or by the two spellings. -/
theorem nodup_map_targetKey_iff :
    (fields.map fun field => targetKey field.1).Nodup ↔ (fields.map (·.1)).Nodup ∧
      (fields.lookup "prerequisites" = none ∨ fields.lookup "deps" = none) := by
  have through : (fields.map fun field => targetKey field.1) =
      (fields.map (·.1)).map targetKey := by rw [List.map_map]; rfl
  rw [through, lookup_eq_none_iff_notMem, lookup_eq_none_iff_notMem]
  generalize fields.map (·.1) = keys
  constructor
  · intro once
    refine ⟨once.of_map _, or_iff_not_imp_left.2 fun first second => ?_⟩
    have same := List.inj_on_of_nodup_map once (not_not.1 first) second rfl
    exact absurd same (by decide)
  · rintro ⟨once, one⟩
    -- Two keys with one meaning are the same key, unless they are the two spellings.
    refine once.map_on fun key key_mem other other_mem same => ?_
    simp only [targetKey] at same
    split at same <;> split at same <;> grind

variable {key : String}

theorem lookup_map_targetKey (first : key ≠ "prerequisites") (second : key ≠ "deps") :
    (fields.map fun field => (targetKey field.1, field.2)).lookup key = fields.lookup key := by
  induction fields with
  | nil => rfl
  | cons field rest ih =>
    obtain ⟨written, content⟩ := field
    have same : (key == targetKey written) = (key == written) := by
      unfold targetKey
      split <;> simp [*]
    simp only [List.map_cons, List.lookup_cons, same, ih]

theorem lookup_prerequisites
    (spelling : fields.lookup "prerequisites" = none ∨ fields.lookup "deps" = none) :
    (fields.map fun field => (targetKey field.1, field.2)).lookup "prerequisites" =
      (fields.lookup "prerequisites").or (fields.lookup "deps") := by
  induction fields with
  | nil => rfl
  | cons field rest ih =>
    obtain ⟨written, content⟩ := field
    -- The entry in front settles it under either spelling, as the other one is not behind it.
    by_cases first : written = "prerequisites"
    · subst first
      rfl
    by_cases second : written = "deps"
    · subst second
      have none : rest.lookup "prerequisites" = none := by
        simpa [List.lookup_cons] using spelling
      simp [List.lookup_cons, targetKey, none]
    · have skip : targetKey written = written := if_neg second
      have apart : ("prerequisites" == written) = false ∧ ("deps" == written) = false := by
        simp [Ne.symm first, Ne.symm second]
      simp only [List.lookup_cons, apart] at spelling
      simp only [List.map_cons, List.lookup_cons, skip, apart, ih spelling]

end Spelling

/-! ## What is read -/

theorem assigned?_eq_some_iff {content : Json} {value : Variable.Value} :
    jsonFormat.assigned? content = some value ↔ MeansValue content value := by
  cases content with
  | string text =>
    constructor
    · rintro ⟨⟩
      exact .scalar text
    · rintro (_ | ⟨_, same, -⟩)
      · rfl
      · cases same
  | array items =>
    have list : ∀ texts, (Json.array? (.array items)).bind (·.mapM Json.string?) = some texts ↔
        MeansList MeansText (.array items) texts := fun _ =>
      items_eq_some_iff fun _ _ _ _ _ => text?_eq_some_iff
    simp only [Json.array?, Option.bind_some] at list
    simp only [jsonFormat, jsonVariable?, Option.map_eq_some_iff, list]
    constructor
    · rintro ⟨texts, list, rfl⟩
      exact .list list
    · rintro (_ | list)
      exact ⟨_, list, rfl⟩
  | null | bool | number | unreadable | object =>
    constructor
    · intro read
      cases read
    · rintro (_ | ⟨_, same, -⟩)
      cases same

section Objects

variable {content : Json}

theorem variableDecl?_eq_some_iff {decl : VariableDecl} (named : ¬ IsPositional content) :
    jsonFormat.variableDecl? content = some decl ↔ MeansObject VariableMeans content decl := by
  simp only [Format.variableDecl?, Option.bind_eq_bind, Option.bind_eq_some_iff,
    Option.pure_def, Option.some.injEq, record?_eq_some_iff named,
    Record.ofEntries?_eq_some_iff_keyed key?_variableRecord, text?_eq_some_iff,
    assigned?_eq_some_iff]
  constructor
  · rintro ⟨_, ⟨fields, rfl, keyed, rfl⟩, _, name, _, rfl, _, value, _, assigned, rfl⟩
    exact ⟨_, rfl, keyed, name, _, value, assigned⟩
  · rintro ⟨fields, rfl, keyed, name, _, value, assigned⟩
    exact ⟨_, ⟨_, rfl, keyed, rfl⟩, _, name, _, rfl, _, value, _, assigned, rfl⟩

theorem targetDecl?_eq_some_iff {decl : TargetDecl} (named : ¬ IsPositional content) :
    jsonFormat.targetDecl? content = some decl ↔ MeansObject TargetMeans content decl := by
  simp only [Format.targetDecl?, Option.bind_eq_bind, Option.bind_eq_some_iff,
    Option.pure_def, Option.some.injEq, record?_eq_some_iff named,
    Record.ofEntries?_eq_some_iff key?_targetRecord, nodup_map_targetKey_iff, text?_eq_some_iff,
    list?_eq_some_iff fun _ _ _ _ _ => text?_eq_some_iff,
    option?_eq_some_iff fun _ _ => text?_eq_some_iff,
    option?_eq_some_iff fun _ _ => bool?_eq_some_iff]
  constructor
  · rintro ⟨_, ⟨fields, rfl, known, ⟨once, spelling⟩, rfl⟩, given⟩
    simp (disch := decide) only [lookup_map_targetKey, lookup_prerequisites spelling] at given
    obtain ⟨_, name, _, rfl, _, prerequisites, _, recipe, _, phony, _, outputs, _, description,
      rfl⟩ := given
    exact ⟨fields, rfl, ⟨known, once⟩, spelling, name, prerequisites, recipe, phony, outputs,
      description⟩
  · rintro ⟨fields, rfl, ⟨known, once⟩, spelling, name, prerequisites, recipe, phony, outputs,
      description⟩
    refine ⟨_, ⟨fields, rfl, known, ⟨once, spelling⟩, rfl⟩, ?_⟩
    simp (disch := decide) only [lookup_map_targetKey, lookup_prerequisites spelling]
    exact ⟨_, name, _, rfl, _, prerequisites, _, recipe, _, phony, _, outputs, _, description,
      rfl⟩

end Objects

/-- A Runfile that writes all its records with the names of their fields. -/
structure Named (content : Json) : Prop where
  file : ¬ IsPositional content
  items : ∀ fields, content = .object fields → ∀ key ∈ ["variables", "targets"], ∀ items,
    fields.lookup key = some (.array items) → ∀ item ∈ items, ¬ IsPositional item

theorem ofJson?_eq_some_iff {content : Json} {runfile : Runfile} (named : Named content) :
    ofJson? content = some runfile ↔ Declares content runfile := by
  simp only [ofJson?, Format.runfile?, Option.bind_eq_bind, Option.bind_eq_some_iff,
    Option.pure_def, Option.some.injEq, record?_eq_some_iff named.file,
    Record.ofEntries?_eq_some_iff_keyed key?_fileRecord,
    option?_eq_some_iff fun _ _ => text?_eq_some_iff,
    option?_eq_some_iff fun _ _ => texts?_eq_some_iff]
  have definitions : ∀ fields, content = .object fields → ∀ decls,
      jsonFormat.list? jsonFormat.variableDecl? fields "variables" = some decls ↔
        ListGiven (MeansObject VariableMeans) (fields.lookup "variables") decls :=
    fun fields same _ => list?_eq_some_iff fun items given item member _ =>
      variableDecl?_eq_some_iff (named.items fields same _ (by simp) items given item member)
  have targets : ∀ fields, content = .object fields → ∀ decls,
      jsonFormat.list? jsonFormat.targetDecl? fields "targets" = some decls ↔
        ListGiven (MeansObject TargetMeans) (fields.lookup "targets") decls :=
    fun fields same _ => list?_eq_some_iff fun items given item member _ =>
      targetDecl?_eq_some_iff (named.items fields same _ (by simp) items given item member)
  constructor
  · rintro ⟨_, ⟨fields, same, keyed, rfl⟩, _, default, _, shell, _, declared, _, declares, rfl⟩
    exact ⟨_, same, keyed, default, shell, (definitions _ same _).1 declared,
      (targets _ same _).1 declares⟩
  · rintro ⟨fields, same, keyed, default, shell, declared, declares⟩
    exact ⟨_, ⟨_, same, keyed, rfl⟩, _, default, _, shell, _, (definitions _ same _).2 declared,
      _, (targets _ same _).2 declares, rfl⟩

/-! ## The shape is what declares something -/

theorem exists_meansValue_iff (content : Json) :
    (∃ value, MeansValue content value) ↔ IsText content ∨ IsListOf IsText content := by
  rw [← exists_meansList_iff exists_meansText_iff]
  constructor
  · rintro ⟨_, text | list⟩
    · exact .inl ⟨text, rfl⟩
    · exact .inr ⟨_, list⟩
  · rintro (⟨text, rfl⟩ | ⟨_, list⟩)
    · exact ⟨_, .scalar text⟩
    · exact ⟨_, .list list⟩

section Shapes

variable (fields : List (String × Json))

theorem exists_variableMeans_iff : (∃ decl, VariableMeans fields decl) ↔ VariableShape fields := by
  constructor
  · rintro ⟨decl, keyed, name, given, value, means⟩
    exact ⟨keyed, ⟨_, name, _, rfl⟩, given, value, (exists_meansValue_iff given).1 ⟨_, means⟩⟩
  · rintro ⟨keyed, ⟨_, name, text, rfl⟩, given, value, kind⟩
    obtain ⟨value', means⟩ := (exists_meansValue_iff given).2 kind
    exact ⟨⟨text, value'⟩, keyed, name, given, value, means⟩

theorem exists_targetMeans_iff : (∃ decl, TargetMeans fields decl) ↔ TargetShape fields := by
  have lists := exists_listGiven_iff exists_meansText_iff
  have texts := exists_optionGiven_iff exists_meansText_iff
  have flags := exists_optionGiven_iff exists_meansFlag_iff
  constructor
  · rintro ⟨decl, keyed, spelling, name, prerequisites, recipe, phony, outputs, description⟩
    have both := (mayBe_or_iff spelling).1 ((lists _).1 ⟨_, prerequisites⟩)
    exact ⟨keyed, spelling, ⟨_, name, _, rfl⟩, both.1, both.2, (lists _).1 ⟨_, recipe⟩,
      (flags _).1 ⟨_, phony⟩, (lists _).1 ⟨_, outputs⟩, (texts _).1 ⟨_, description⟩⟩
  · rintro ⟨keyed, spelling, ⟨_, name, text, rfl⟩, prerequisites, deps, recipe, phony, outputs,
      description⟩
    obtain ⟨_, prerequisites⟩ := (lists _).2 ((mayBe_or_iff spelling).2 ⟨prerequisites, deps⟩)
    obtain ⟨_, recipe⟩ := (lists _).2 recipe
    obtain ⟨_, phony⟩ := (flags _).2 phony
    obtain ⟨_, outputs⟩ := (lists _).2 outputs
    obtain ⟨_, description⟩ := (texts _).2 description
    exact ⟨⟨text, _, _, _, _, _⟩, keyed, spelling, name, prerequisites, recipe, phony, outputs,
      description⟩

theorem exists_fileMeans_iff : (∃ runfile, FileMeans fields runfile) ↔ FileShape fields := by
  have texts := exists_optionGiven_iff exists_meansText_iff
  have lists := exists_optionGiven_iff (exists_meansList_iff exists_meansText_iff)
  have defined := exists_listGiven_iff (exists_meansObject_iff exists_variableMeans_iff)
  have targets := exists_listGiven_iff (exists_meansObject_iff exists_targetMeans_iff)
  constructor
  · rintro ⟨_, keyed, default, shell, definitions, declares⟩
    exact ⟨keyed, (texts _).1 ⟨_, default⟩, (lists _).1 ⟨_, shell⟩,
      (defined _).1 ⟨_, definitions⟩, (targets _).1 ⟨_, declares⟩⟩
  · rintro ⟨keyed, default, shell, definitions, declares⟩
    obtain ⟨_, default⟩ := (texts _).2 default
    obtain ⟨_, shell⟩ := (lists _).2 shell
    obtain ⟨_, definitions⟩ := (defined _).2 definitions
    obtain ⟨_, declares⟩ := (targets _).2 declares
    exact ⟨⟨_, _, _, _⟩, keyed, default, shell, definitions, declares⟩

end Shapes

theorem exists_declares_iff (content : Json) :
    (∃ runfile, Declares content runfile) ↔ Shape content :=
  exists_meansObject_iff exists_fileMeans_iff content

/-! ## Either spelling -/

/-- A target with its prerequisites under their full name. -/
def spelledTarget : Json → Json
  | .object fields => .object (fields.map fun field => (targetKey field.1, field.2))
  | content => content

def spelledTargets : Json → Json
  | .array items => .array (items.map spelledTarget)
  | content => content

def spelledField (field : String × Json) : String × Json :=
  (field.1, if field.1 = "targets" then spelledTargets field.2 else field.2)

/-- A Runfile with the prerequisites of all its targets under their full name. -/
def spelledOut : Json → Json
  | .object fields => .object (fields.map spelledField)
  | content => content

theorem key?_targetKey (key : String) :
    targetRecord.key? (targetKey key) = targetRecord.key? key := by
  simp only [key?_targetRecord, targetKeys, targetKey]
  grind

theorem targetDecl?_spelledTarget (content : Json) :
    jsonFormat.targetDecl? (spelledTarget content) = jsonFormat.targetDecl? content := by
  have same : jsonFormat.record? targetRecord (spelledTarget content) =
      jsonFormat.record? targetRecord content := by
    cases content with
    | object fields =>
      simp only [spelledTarget, Format.record?, jsonFormat, jsonEntries?, Record.ofEntries?,
        List.mapM_map, Function.comp_def, key?_targetKey]
    | _ => rfl
  simp only [Format.targetDecl?, same]

section File

variable {fields : List (String × Json)} {key : String}

theorem lookup_map_spelledField : (fields.map spelledField).lookup key =
    (fields.lookup key).map fun content =>
      if key = "targets" then spelledTargets content else content := by
  induction fields with
  | nil => rfl
  | cons field rest ih =>
    obtain ⟨written, content⟩ := field
    simp only [List.map_cons, spelledField, List.lookup_cons, ih]
    cases here : key == written with
    | false => rfl
    | true => rw [beq_iff_eq.1 here, Option.map_some]

theorem lookup_of_ne (other : key ≠ "targets") :
    (fields.map spelledField).lookup key = fields.lookup key := by
  simp only [lookup_map_spelledField, if_neg other, Option.map_id']

theorem option?_spelledField {β : Type} {read : Json → Option β} (other : key ≠ "targets") :
    jsonFormat.option? read (fields.map spelledField) key = jsonFormat.option? read fields key := by
  rw [Format.option?, lookup_of_ne other, Format.option?]

theorem list?_spelledField {β : Type} {read : Json → Option β} (other : key ≠ "targets") :
    jsonFormat.list? read (fields.map spelledField) key = jsonFormat.list? read fields key := by
  rw [Format.list?, lookup_of_ne other, Format.list?]

theorem list?_targets : jsonFormat.list? jsonFormat.targetDecl? (fields.map spelledField)
    "targets" = jsonFormat.list? jsonFormat.targetDecl? fields "targets" := by
  unfold Format.list?
  rw [lookup_map_spelledField]
  cases fields.lookup "targets" with
  | none => rfl
  | some content =>
    cases content with
    | array items =>
      have each : jsonFormat.targetDecl? ∘ spelledTarget = jsonFormat.targetDecl? :=
        funext targetDecl?_spelledTarget
      simp only [Option.map_some, if_true, spelledTargets]
      change (items.map spelledTarget).mapM jsonFormat.targetDecl? =
        items.mapM jsonFormat.targetDecl?
      rw [List.mapM_map, each]
    | _ => rfl

theorem ofEntries?_spelledField : fileRecord.ofEntries? (fields.map spelledField) =
    (fileRecord.ofEntries? fields).map (List.map spelledField) := by
  have keyed (known : List String) :
      Keyed known (fields.map spelledField) ↔ Keyed known fields := by
    have keys : (fields.map spelledField).map (·.1) = fields.map (·.1) := by
      rw [List.map_map]
      rfl
    constructor
    · rintro ⟨known, once⟩
      exact ⟨fun field member => known (spelledField field) (List.mem_map_of_mem member),
        keys ▸ once⟩
    · rintro ⟨known, once⟩
      exact ⟨List.forall_mem_map.2 known, keys ▸ once⟩
  refine Option.ext fun entries => ?_
  simp only [Option.map_eq_some_iff, Record.ofEntries?_eq_some_iff_keyed key?_fileRecord, keyed]
  constructor
  · rintro ⟨keyed, rfl⟩
    exact ⟨_, ⟨keyed, rfl⟩, rfl⟩
  · rintro ⟨_, ⟨keyed, rfl⟩, rfl⟩
    exact ⟨keyed, rfl⟩

end File

theorem ofJson?_spelledOut (content : Json) : ofJson? (spelledOut content) = ofJson? content := by
  cases content with
  | object fields =>
    have entries : jsonFormat.record? fileRecord (spelledOut (.object fields)) =
        (jsonFormat.record? fileRecord (.object fields)).map (List.map spelledField) :=
      ofEntries?_spelledField
    simp only [ofJson?, Format.runfile?, entries, Option.bind_eq_bind, Option.bind_map]
    congr 1
    funext given
    simp (disch := decide) only [Function.comp, option?_spelledField, list?_spelledField,
      list?_targets]
  | _ => rfl

/-- A value whose records are written with names is read as a Runfile exactly if it has the shape of
one, what is read is what it declares, and how the prerequisites are spelt makes no difference. -/
theorem ofJson?_exact {content : Json} (named : Named content) :
    ((∃ runfile, ofJson? content = some runfile) ↔ Shape content) ∧
      (∀ runfile, ofJson? content = some runfile ↔ Declares content runfile) ∧
      ∀ other, spelledOut other = spelledOut content → ofJson? other = ofJson? content := by
  refine ⟨?_, fun runfile => ofJson?_eq_some_iff named, fun other same => ?_⟩
  · rw [← exists_declares_iff]
    exact exists_congr fun runfile => ofJson?_eq_some_iff named
  · rw [← ofJson?_spelledOut other, same, ofJson?_spelledOut content]

/-- A file with a variable and two targets, of which the second is spelt as given. -/
def sample (prerequisites : String) : Json :=
  .object [
    ("shell", .null),
    ("variables", .array [.object [("name", .string "CC"), ("value", .string "cc")]]),
    ("targets", .array [
      .object [("name", .string "objects"), ("outputs", .array [.string "main.o"])],
      .object [(prerequisites, .array [.string "objects"]), ("name", .string "all"),
        ("phony", .bool true)]])]

/-- What the file declares. -/
def sampleRunfile : Runfile where
  definitions := [{ name := "CC", value := .scalar "cc" }]
  targets := [
    { name := "objects", outputs := ["main.o"] },
    { name := "all", prerequisites := ["objects"], phony := some true }]

theorem ofJson?_exact_sample :
    Named (sample "prerequisites") ∧ Shape (sample "prerequisites") ∧
      Declares (sample "prerequisites") sampleRunfile ∧
      ofJson? (sample "deps") = some sampleRunfile := by
  have named : Named (sample "prerequisites") := by
    refine ⟨nofun, ?_⟩
    rintro _ ⟨⟩ key known items given item member
    rcases List.mem_pair.1 known with rfl | rfl <;> cases given <;>
      (simp only [List.mem_cons, List.not_mem_nil, or_false] at member)
    · subst member
      nofun
    · rcases member with rfl | rfl <;> nofun
  have read : ofJson? (sample "prerequisites") = some sampleRunfile := by rfl
  obtain ⟨accepted, declared, spelt⟩ := ofJson?_exact named
  exact ⟨named, accepted.1 ⟨_, read⟩, (declared _).1 read, (spelt (sample "deps") rfl).trans read⟩

end TaskRunner.Runfile