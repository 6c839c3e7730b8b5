import TaskRunner.FileSystem
import TaskRunner.Proofs.Plan.Order
/- # TaskRunner.Proofs.FileSystem -- what is written to a file is in it

After a file was written its path leads to a file with the bytes that were written
(`find_of_write`), whether it was there before or not, through links and dots alike.  The exception
is a device, which takes bytes without keeping them.

Writing does not move what paths lead to: every node stays a directory, a link or a file, though a
file may have the written bytes now (`Keeps`), and the walk along a path asks for no more
(`Keeps.walk`).  A new node does not show up elsewhere, since its number is above all others. -/

namespace TaskRunner.FileSystem
set_option autoImplicit false

/-- Whether a path leads to a device. -/
def isDevice (files : FileSystem) (directory : Location) (path : String) : Bool :=
  (files.find directory path).toOption.any (·.2.device?.isSome)

/-- Whether every node of a file system is still there, with its content or, in the place of that of
a file, with the given bytes. -/
def Keeps (bytes : ByteArray) (files after : FileSystem) : Prop :=
  ∀ place node, files.node? place = some node → ∃ later, after.node? place = some later ∧
    (later.content = node.content ∨ node.isFile = true ∧ later.content = .file bytes)

variable {files after : FileSystem} {place other : Location} {node : Node} {bytes : ByteArray}

/-! ## Single nodes -/

theorem node?_eq_some_iff : files.node? place = some node ↔
    ∃ number, files.number? place = some number ∧ files.nodes[number]? = some node := by
  rw [node?, Option.bind_eq_some_iff]

/-- A node that is replaced is at all locations of its number, and nothing else changes. -/
theorem node?_replace (files : FileSystem) (number : Nat) (node : Node) (other : Location) :
    (files.replace number node).node? other =
      if files.number? other = some number then some node else files.node? other := by
  have same : (files.replace number node).number? other = files.number? other := rfl
  unfold node?
  rw [same]
  cases files.number? other with
  | none => simp
  | some found => simp [replace, Std.HashMap.getElem?_insert, @eq_comm _ number found]

theorem put_of_held {number : Nat} (held : files.number? place = some number) (node : Node) :
    files.put place node = files.replace number node := by
  rw [put, held]

theorem number?_put_of_free (free : files.number? place = none) (node : Node) (other : Location) :
    (files.put place node).number? other =
      if other = place then some files.fresh else files.number? other := by
  rw [put, free]
  simp [number?, Std.HashMap.getElem?_insert, @eq_comm _ place other]

theorem nodes_put_of_free (free : files.number? place = none) (node : Node) (number : Nat) :
    (files.put place node).nodes[number]? =
      if number = files.fresh then some node else files.nodes[number]? := by
  rw [put, free]
  simp [Std.HashMap.getElem?_insert, @eq_comm _ files.fresh number]

theorem node?_put_self (files : FileSystem) (place : Location) (node : Node) :
    (files.put place node).node? place = some node := by
  cases held : files.number? place with
  | some number => rw [put_of_held held, node?_replace, if_pos held]
  | none =>
    refine node?_eq_some_iff.2 ⟨files.fresh, ?_, ?_⟩
    · rw [number?_put_of_free held, if_pos rfl]
    · rw [nodes_put_of_free held, if_pos rfl]

/-- A new node comes to no other location. -/
theorem node?_put_of_free (free : files.number? place = none)
    (node : Node) (apart : other ≠ place) :
    (files.put place node).node? other = files.node? other := by
  unfold node?
  rw [number?_put_of_free free, if_neg apart]
  cases held : files.number? other with
  | none => rfl
  | some number =>
    rw [Option.bind_some, Option.bind_some, nodes_put_of_free free,
      if_neg (Nat.ne_of_lt (files.bounded other number held))]

/-- New nodes at distinct locations are all there, and come to no other location. -/
theorem node?_foldl_put {entries : List (Location × Node)}
    (distinct : (entries.map Prod.fst).Nodup)
    (free : ∀ entry ∈ entries, files.number? entry.1 = none) (place : Location) :
    (entries.foldl (fun files entry => files.put entry.1 entry.2) files).node? place =
      (entries.lookup place).or (files.node? place) := by
  induction entries generalizing files with
  | nil => rfl
  | cons entry entries ih =>
    obtain ⟨first, node⟩ := entry
    rw [List.map_cons, List.nodup_cons] at distinct
    have here := free (first, node) List.mem_cons_self
    have apart : ∀ other ∈ entries, other.1 ≠ first := fun other member same =>
      distinct.1 (List.mem_map.2 ⟨other, member, same⟩)
    have later : ∀ other ∈ entries, (files.put first node).number? other.1 = none := by
      intro other member
      rw [number?_put_of_free here, if_neg (apart other member),
        free other (List.mem_cons_of_mem _ member)]
    rw [List.foldl_cons, ih distinct.2 later, List.lookup_cons]
    by_cases same : place = first
    · have alone : entries.lookup place = none :=
        List.lookup_eq_none_iff.2 fun other member => by
          rw [same, bne_iff_ne]
          exact (apart other member).symm
      rw [alone, same, node?_put_self, beq_self_eq_true]
      rfl
    · rw [node?_put_of_free here node same, beq_eq_false_iff_ne.2 same]

/-! ## What a change keeps -/

/-- A change keeps what a node is. -/
theorem Keeps.kind (keeps : Keeps bytes files after) (found : files.node? place = some node) :
    ∃ later, after.node? place = some later ∧ later.isDirectory = node.isDirectory ∧
      later.target? = node.target? := by
  obtain ⟨later, still, same | ⟨file, written⟩⟩ := keeps place node found
  · exact ⟨later, still, by simp only [Node.isDirectory, same], by simp only [Node.target?, same]⟩
  · obtain ⟨old, content⟩ := Option.isSome_iff_exists.1 file
    unfold Node.bytes? at content
    refine ⟨later, still, ?_⟩
    cases held : node.content with
    | file bytes => simp only [Node.isDirectory, Node.target?, held, written, and_self]
    | _ => rw [held] at content; cases content

/-- A change keeps where the links lead. -/
theorem Keeps.target (keeps : Keeps bytes files after) {target : Option String}
    (leads : (files.node? place).map Node.target? = some target) :
    (after.node? place).map Node.target? = some target := by
  obtain ⟨node, found, rfl⟩ := Option.map_eq_some_iff.1 leads
  obtain ⟨later, still, -, same⟩ := keeps.kind found
  rw [still, Option.map_some, same]

theorem Keeps.trans {last : FileSystem} (first : Keeps bytes files after)
    (second : Keeps bytes after last) : Keeps bytes files last := by
  intro place node found
  obtain ⟨later, still, kept⟩ := first place node found
  obtain ⟨latest, present, kept'⟩ := second place later still
  refine ⟨latest, present, ?_⟩
  rcases kept' with same | ⟨file, written⟩
  · rwa [same]
  · refine .inr ⟨?_, written⟩
    rcases kept with same | ⟨file', -⟩
    · simpa only [Node.isFile, Node.bytes?, same] using file
    · exact file'

theorem keeps_refl (bytes : ByteArray) (files : FileSystem) : Keeps bytes files files :=
  fun _ node found => ⟨node, found, .inl rfl⟩

/-- Putting a node keeps all, if one that was there gets its own content or is a file that gets the
bytes. -/
theorem keeps_put
    (fits : ∀ old, files.node? place = some old →
      node.content = old.content ∨ old.isFile = true ∧ node.content = .file bytes) :
    Keeps bytes files (files.put place node) := by
  intro other old found
  obtain ⟨number, held, stored⟩ := node?_eq_some_iff.1 found
  cases taken : files.number? place with
  | none =>
    have apart : other ≠ place := by
      rintro rfl
      rw [taken] at held
      cases held
    exact ⟨old, by rw [node?_put_of_free taken node apart, found], .inl rfl⟩
  | some replaced =>
    rw [put_of_held taken, node?_replace]
    by_cases same : files.number? other = some replaced
    · rw [if_pos same]
      refine ⟨node, rfl, fits old ?_⟩
      rw [← found, node?, node?, taken, same]
    · rw [if_neg same]
      exact ⟨old, found, .inl rfl⟩

theorem keeps_touched (bytes : ByteArray) (files : FileSystem) (place : Location) :
    Keeps bytes files (files.touched place) := by
  unfold touched
  split
  · next node found =>
    split
    · refine keeps_put fun old present => .inl ?_
      rw [found] at present
      cases present
      rfl
    · exact keeps_refl bytes files
  · exact keeps_refl bytes files

theorem keeps_create (free : files.node? place = none) :
    Keeps bytes files (files.create place node) := by
  refine (keeps_put fun old present => ?_).trans (keeps_touched bytes _ _)
  rw [free] at present
  cases present

/-- Stamping a directory leaves alone what is no directory. -/
theorem node?_touched (found : files.node? place = some node) (solid : node.isDirectory = false)
    (stamped : Location) : (files.touched stamped).node? place = some node := by
  unfold touched
  split
  · next stamp present =>
    split
    · next directory =>
      obtain ⟨number, held, stored⟩ := node?_eq_some_iff.1 present
      have apart : files.number? place ≠ some number := by
        intro same
        rw [node?, same, Option.bind_some, stored] at found
        cases found
        rw [directory] at solid
        cases solid
      rw [put_of_held held, node?_replace, if_neg apart, found]
    · exact found
  · exact found

/-- A walk comes to the same location after a change that keeps all nodes, where it came to one of
them, or to the location of a node that was made. -/
theorem Keeps.walk (keeps : Keeps bytes files after) {links : Nat} {here : Location}
    {pieces : List String} {found : Resolved}
    (walked : files.walk true links here pieces = .ok found)
    (present : (files.node? found.place).isSome ∨ found.slash = false)
    (made : ∃ node, after.node? found.place = some node ∧ node.target? = none) :
    after.walk true links here pieces = .ok found := by
  fun_induction FileSystem.walk files true links here pieces with
  | case1 => rw [FileSystem.walk, walked]
  | case4 links here piece rest node found_here directory dot ih =>
    obtain ⟨later, still, same, -⟩ := keeps.kind found_here
    rw [FileSystem.walk]
    simp only [still, same, directory, dot, if_true, if_false, Bool.false_eq_true]
    exact ih walked
  | case5 links here piece rest node found_here directory dot up ih =>
    obtain ⟨later, still, same, -⟩ := keeps.kind found_here
    rw [FileSystem.walk]
    simp only [still, same, directory, dot, up, if_true, if_false, Bool.false_eq_true]
    exact ih walked
  | case7 links here piece rest node found_here directory dot up short there missing blank =>
    obtain ⟨later, still, same, -⟩ := keeps.kind found_here
    cases walked
    have free : files.node? there = none := Option.map_eq_none_iff.1 missing
    have last : rest = [] := by
      rcases present with there_already | slash
      · rw [free] at there_already
        cases there_already
      · simpa using slash
    subst last
    obtain ⟨new, stands, solid⟩ := made
    have end_here : (after.node? (here ++ [piece])).map Node.target? = some none := by
      rw [stands, Option.map_some, solid]
    rw [FileSystem.walk]
    simp only [still, same, directory, dot, up, short, end_here, if_false, Bool.false_eq_true]
    rw [FileSystem.walk]
    rfl
  | case9 links here piece rest node found_here directory dot up short there target link ends =>
    exact absurd ends (by simp)
  | case11 here piece rest node found_here directory dot up short there target link go links ih =>
    obtain ⟨later, still, same, -⟩ := keeps.kind found_here
    have leads : (after.node? (here ++ [piece])).map Node.target? = some (some target) :=
      keeps.target link
    rw [FileSystem.walk]
    simp only [still, same, directory, dot, up, short, leads, go, if_false, Bool.false_eq_true]
    exact ih walked
  | case12 links here piece rest node found_here directory dot up short there through ih =>
    obtain ⟨later, still, same, -⟩ := keeps.kind found_here
    have passes : (after.node? (here ++ [piece])).map Node.target? = some none :=
      keeps.target through
    rw [FileSystem.walk]
    simp only [still, same, directory, dot, up, short, passes, if_false, Bool.false_eq_true]
    exact ih walked
  | _ => cases walked

/-- So a path leads to the same location. -/
theorem Keeps.resolve (keeps : Keeps bytes files after) {directory : Location} {path : String}
    {found : Resolved} (resolved : files.resolve directory path = .ok found)
    (present : (files.node? found.place).isSome ∨ found.slash = false)
    (made : ∃ node, after.node? found.place = some node ∧ node.target? = none) :
    after.resolve directory path = .ok found := by
  unfold FileSystem.resolve at resolved ⊢
  split at resolved
  · cases resolved
  split at resolved
  · cases resolved
  split at resolved
  · cases resolved
  · next nonempty plain short =>
    rw [if_neg nonempty, if_neg plain, if_neg short]
    exact keeps.walk resolved present made

theorem find_eq_ok_iff {directory : Location} {path : String} :
    files.find directory path = .ok (place, node) ↔
      ∃ found, files.resolve directory path = .ok found ∧ found.place = place ∧
        files.node? place = some node := by
  unfold find
  constructor
  · intro h
    obtain ⟨found, resolved, h⟩ := ok_of_bind h
    split at h
    · next present =>
      cases h
      exact ⟨found, resolved, rfl, present⟩
    · cases h
  · rintro ⟨found, resolved, rfl, present⟩
    rw [resolved]
    simp only [bind, Except.bind, present]
    rfl

/-- What a path leads to is still there, if it is no link. -/
theorem Keeps.find (keeps : Keeps bytes files after) {directory : Location} {path : String}
    (found : files.find directory path = .ok (place, node)) (solid : node.target? = none) :
    ∃ later, after.find directory path = .ok (place, later) ∧
      (later.content = node.content ∨ node.isFile = true ∧ later.content = .file bytes) := by
  obtain ⟨resolved, leads, rfl, present⟩ := find_eq_ok_iff.1 found
  obtain ⟨later, still, kept⟩ := keeps _ node present
  obtain ⟨later', still', -, same⟩ := keeps.kind present
  have solid_later : later.target? = none := by
    rw [still] at still'
    cases still'
    rw [same, solid]
  have leads_later := keeps.resolve leads (.inl (by rw [present]; rfl)) ⟨later, still, solid_later⟩
  exact ⟨later, find_eq_ok_iff.2 ⟨resolved, leads_later, rfl, still⟩, kept⟩

/-- A path to a file still leads to it. -/
theorem Keeps.find_file (keeps : Keeps bytes files after) {directory : Location} {path : String}
    {old : ByteArray} (found : files.find directory path = .ok (place, node))
    (content : node.content = .file old) :
    ∃ later new, after.find directory path = .ok (place, later) ∧ later.content = .file new := by
  obtain ⟨later, still, same | ⟨-, written⟩⟩ := keeps.find found (by simp [Node.target?, content])
  · exact ⟨later, old, still, same.trans content⟩
  · exact ⟨later, bytes, still, written⟩

/-- A path to a device still leads to it. -/
theorem Keeps.isDevice (keeps : Keeps bytes files after) {directory : Location} {path : String}
    (solid : after.isDevice directory path = false) : files.isDevice directory path = false := by
  rw [← Bool.not_eq_true] at solid ⊢
  intro leads
  refine solid ?_
  unfold FileSystem.isDevice at leads ⊢
  cases found : files.find directory path with
  | error e => rw [found] at leads; cases leads
  | ok pair =>
    obtain ⟨place, node⟩ := pair
    rw [found] at leads
    obtain ⟨device, is_device⟩ := Option.isSome_iff_exists.1 leads
    have content : node.content = .device device := by
      unfold Node.device? at is_device
      cases held : node.content with
      | device other => rw [held] at is_device; cases is_device; rfl
      | _ => rw [held] at is_device; cases is_device
    obtain ⟨later, still, same | ⟨file, -⟩⟩ := keeps.find found (by simp [Node.target?, content])
    · rw [still]
      simp [Except.toOption, Node.device?, same, content]
    · simp [Node.isFile, Node.bytes?, content] at file

/-! ## Writing -/

/-- Writing keeps all nodes. -/
theorem keeps_write {directory : Location} {path : String}
    (written : files.write directory path bytes = .ok after) : Keeps bytes files after := by
  obtain ⟨found, resolved, written⟩ := ok_of_bind written
  split at written
  · next free =>
    split at written
    · cases written
    · cases written
      exact keeps_create free
  · next node present =>
    split at written
    · next old content =>
      cases written
      refine keeps_put fun old' present' => .inr ⟨?_, rfl⟩
      rw [present] at present'
      cases present'
      simp [Node.isFile, Node.bytes?, content]
    · cases written
      exact keeps_refl bytes files
    · cases written

/-- **What is written to a file is in it**: the path leads to a file with the bytes. -/
theorem find_of_write {directory : Location} {path : String}
    (written : files.write directory path bytes = .ok after)
    (solid : after.isDevice directory path = false) :
    ∃ place node, after.find directory path = .ok (place, node) ∧ node.content = .file bytes := by
  have keeps := keeps_write written
  obtain ⟨found, resolved, written⟩ := ok_of_bind written
  split at written
  · next free =>
    split at written
    · cases written
    · next slash =>
      cases written
      have stands : (files.create found.place (.file bytes files.clock)).node? found.place =
          some (.file bytes files.clock) :=
        node?_touched (node?_put_self files _ _) rfl _
      have leads := keeps.resolve resolved (.inr (by simpa using slash))
        ⟨_, stands, rfl⟩
      exact ⟨_, _, find_eq_ok_iff.2 ⟨found, leads, rfl, stands⟩, rfl⟩
  · next node present =>
    split at written
    · cases written
      have stands := node?_put_self files found.place
        { node with content := .file bytes, modified := files.clock }
      have leads := keeps.resolve resolved (.inl (by rw [present]; rfl)) ⟨_, stands, rfl⟩
      exact ⟨_, _, find_eq_ok_iff.2 ⟨found, leads, rfl, stands⟩, rfl⟩
    · next device content =>
      cases written
      have leads : files.find directory path = .ok (found.place, node) :=
        find_eq_ok_iff.2 ⟨found, resolved, rfl, present⟩
      simp [isDevice, leads, Except.toOption, Node.device?, content] at solid
    · cases written

/-! ## Reading -/

theorem fromUTF8?_toUTF8 (text : String) : String.fromUTF8? text.toUTF8 = some text := by
  have valid : text.toUTF8.IsValidUTF8 := text.isValidUTF8
  rw [String.fromUTF8?, dif_pos valid]
  rfl

/-- A file with the bytes of a text is read as the text. -/
theorem readText_of_find {directory : Location} {path text : String}
    (found : files.find directory path = .ok (place, node))
    (content : node.content = .file text.toUTF8) :
    files.readText directory path = .ok text := by
  simp only [readText, readBytes, found, bind, Except.bind, content, pure, Except.pure,
    fromUTF8?_toUTF8]

theorem isDevice_of_file {directory : Location} {path : String}
    (found : files.find directory path = .ok (place, node)) (content : node.content = .file bytes) :
    files.isDevice directory path = false := by
  simp [isDevice, found, Except.toOption, Node.device?, content]

/-- A file that is there can be written. -/
theorem write_of_find {directory : Location} {path : String} {old : ByteArray}
    (found : files.find directory path = .ok (place, node)) (content : node.content = .file old)
    (bytes : ByteArray) : ∃ after, files.write directory path bytes = .ok after := by
  obtain ⟨resolved, leads, rfl, present⟩ := find_eq_ok_iff.1 found
  refine ⟨files.put resolved.place { node with content := .file bytes, modified := files.clock },
    ?_⟩
  simp only [write, update, leads, bind, Except.bind, present, content]
  rfl

/-- A directory that is there needs no making. -/
theorem makeDirectories_of_found {directory : Location} {path : String} {found : Resolved}
    (there : files.isDirectory directory path = true)
    (leads : files.resolve directory path false = .ok found)
    (present : files.node? found.place = some node) :
    files.makeDirectories directory path = .ok files := by
  have refused : files.makeDirectory directory path = .error .alreadyThere := by
    simp only [makeDirectory, leads, bind, Except.bind, present]
  rw [makeDirectories, missingPaths]
  split
  · rfl
  · rw [refused]
    simp only [List.reverse_cons, List.reverse_nil, List.nil_append, makeEach, refused, there,
      if_true]

/-! ## Plain paths -/

/-- A relative path that can be followed. -/
structure Plain (path : String) : Prop where
  nonempty : path.isEmpty = false
  relative : Path.isAbsolute path = false
  short : path.utf8ByteSize < maxPathSize
  clean : path.contains '\x00' = false

theorem Plain.resolve {path : String} (plain : Plain path) (files : FileSystem)
    (directory : Location) (follow : Bool) : files.resolve directory path follow =
      files.walk follow maxLinks directory (Path.pieces path) := by
  obtain ⟨nonempty, relative, short, clean⟩ := plain
  simp [FileSystem.resolve, nonempty, relative, clean, Nat.not_le_of_lt short]

/-- A dot at the beginning of a path leads nowhere. -/
theorem walk_dot (files : FileSystem) (follow : Bool) (links : Nat) (here : Location)
    (piece : String) (rest : List String) :
    files.walk follow links here ("." :: piece :: rest) =
      files.walk follow links here (piece :: rest) := by
  rw [walk]
  cases found : files.node? here with
  | none => rw [walk, found]
  | some node =>
    by_cases inside : node.isDirectory = true
    · simp [inside]
    · rw [walk, found]
      simp [inside]

/-- A name leads from a directory to what has the name there, if that is no link. -/
theorem walk_name {follow : Bool} {links : Nat} {here : Location} {piece : String}
    {rest : List String} (inside : (files.node? here).map Node.isDirectory = some true)
    (there : (files.node? (here ++ [piece])).map Node.target? = some none)
    (name : piece ≠ "" ∧ piece ≠ "." ∧ piece ≠ ".." ∧ piece.utf8ByteSize ≤ maxNameSize) :
    files.walk follow links here (piece :: rest) =
      files.walk follow links (here ++ [piece]) rest := by
  obtain ⟨node, found, directory⟩ := Option.map_eq_some_iff.1 inside
  obtain ⟨solid, undotted, down, short⟩ := name
  rw [walk]
  simp [found, directory, solid, undotted, down, Nat.not_lt_of_le short, there]

end TaskRunner.FileSystem
