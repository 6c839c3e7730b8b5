import TaskRunner.Proofs.Application
import TaskRunner.Proofs.FileSystem
import TaskRunner.Proofs.Project.Validation
import TaskRunner.Proofs.Session.Encoding
import TaskRunner.Session.Storage
/- # TaskRunner.Proofs.Session.Storage -- the session that was kept is the one that is shown

A session is kept below the root that loading gives a project, and the latest one is looked for below
a root that is found from the path alone.  The two are not the same text for a Runfile that is named
without a directory, but they lead to the same files (`find_latest_recordRoot`).

So after a session was kept, asking for the latest gives it back, with all that it says, whatever was
kept before; and its own file holds the same text (`loadLatest_of_save`).  Two things are asked for:
points in time of four-digit years, which the text of a session can say, and that neither path leads
to a device, which would take the text without keeping it. -/

namespace TaskRunner
set_option autoImplicit false

namespace Session

open CommandLine (recordRoot)
open FileSystem (Plain walk_dot)

variable {files after : FileSystem} {directory : Location}

/-- The path of the latest session of a project. -/
def latestPath (root : String) : String := Path.join (recordsOf root) latestName

/-! ## Two ways to the root -/

theorem latestPath_text : latestPath "." = "./.runfile/runs/latest.json" ∧
    latestPath "" = ".runfile/runs/latest.json" := by decide +kernel

theorem plain_dotted : Plain "./.runfile/runs/latest.json" :=
  ⟨by rfl, by simp [Path.isAbsolute], by decide, by simp⟩

theorem plain_bare : Plain ".runfile/runs/latest.json" :=
  ⟨by rfl, by simp [Path.isAbsolute], by decide, by simp⟩

theorem find_dot (files : FileSystem) (directory : Location) :
    files.find directory (latestPath ".") = files.find directory (latestPath "") := by
  have dotted : Path.pieces "./.runfile/runs/latest.json" =
      [".", ".runfile", "runs", "latest.json"] := by rfl
  have bare : Path.pieces ".runfile/runs/latest.json" = [".runfile", "runs", "latest.json"] := by
    rfl
  rw [latestPath_text.1, latestPath_text.2, FileSystem.find, FileSystem.find,
    plain_dotted.resolve, plain_bare.resolve, dotted, bare, walk_dot]

/-- The latest session of a project is where it is looked for. -/
theorem find_latest_recordRoot (files : FileSystem) (directory : Location) (path : String) :
    files.find directory (latestPath (recordRoot path)) =
      files.find directory (latestPath (Path.directory path)) := by
  unfold recordRoot Path.directory
  cases Path.parent? path with
  | none => rfl
  | some parent =>
    dsimp only [Option.getD_some]
    split
    · next bare =>
      rw [String.isEmpty_iff.1 bare, find_dot]
    · rfl

/-! ## Keeping a session -/

/-- What is done where a session is kept. -/
theorem writes_of_save {session : Session} {root written : String}
    (saved : session.save files directory root = (.ok written, after)) :
    written = Path.join (recordsOf root) (session.id ++ ".json") ∧
      ∃ made first, files.makeDirectories directory (recordsOf root) = .ok made ∧
        made.writeText directory written session.encode = .ok first ∧
        first.writeText directory (latestPath root) session.encode = .ok after := by
  unfold save at saved
  dsimp only at saved
  split at saved
  · cases saved
  next made directories =>
  split at saved
  · cases saved
  next first own =>
  split at saved
  · cases saved
  next last latest =>
  cases saved
  exact ⟨rfl, made, first, directories, own, latest⟩

/-- Once a text is written to two paths, both lead to a file with the text. -/
theorem find_of_writes {first : FileSystem} {own latest text : String}
    (written : files.writeText directory own text = .ok first)
    (again : first.writeText directory latest text = .ok after)
    (solid : ∀ path ∈ [own, latest], after.isDevice directory path = false) :
    ∀ path ∈ [own, latest], ∃ place node, after.find directory path = .ok (place, node) ∧
      node.content = .file text.toUTF8 := by
  rw [FileSystem.writeText] at written again
  have keeps := FileSystem.keeps_write again
  have solid_first := keeps.isDevice (solid own List.mem_cons_self)
  obtain ⟨place, node, found, content⟩ := FileSystem.find_of_write written solid_first
  obtain ⟨later, still, kept⟩ := keeps.find found (by simp [Node.target?, content])
  intro path member
  rcases List.mem_cons.1 member with rfl | member
  · refine ⟨place, later, still, ?_⟩
    rcases kept with same | ⟨-, same⟩
    · rw [same, content]
    · exact same
  · rw [List.mem_singleton.1 member]
    exact FileSystem.find_of_write again (solid latest (by simp))

/-- A session can be kept in place of files, and leaves files. -/
theorem save_of_found {session : Session} {root written : String} {place place' : Location}
    {node node' : Node} {old old' : ByteArray}
    (named : Path.join (recordsOf root) (session.id ++ ".json") = written)
    (ready : files.makeDirectories directory (recordsOf root) = .ok files)
    (own : files.find directory written = .ok (place, node)) (content : node.content = .file old)
    (latest : files.find directory (latestPath root) = .ok (place', node'))
    (content' : node'.content = .file old') :
    ∃ after, session.save files directory root = (.ok written, after) ∧
      ∀ kept ∈ [written, latestPath root], after.isDevice directory kept = false := by
  obtain ⟨first, made⟩ := FileSystem.write_of_find own content session.encode.toUTF8
  have keeps := FileSystem.keeps_write made
  obtain ⟨between, bytes, still, held⟩ := keeps.find_file latest content'
  obtain ⟨after, again⟩ := FileSystem.write_of_find still held session.encode.toUTF8
  have keeps := keeps.trans (FileSystem.keeps_write again)
  obtain ⟨_, _, found, held⟩ := keeps.find_file own content
  obtain ⟨_, _, found', held'⟩ := keeps.find_file latest content'
  refine ⟨after, ?_, ?_⟩
  · unfold latestPath at again
    simp only [save, named, ready, FileSystem.writeText, made, again]
  · simp only [List.forall_mem_cons]
    exact ⟨FileSystem.isDevice_of_file found held, FileSystem.isDevice_of_file found' held',
      by simp⟩

/-- **The session that was kept last is the one that is shown.**  For every Runfile that loads: when
a session was kept below the root of its project, looking below the root that is found from the path
gives a session that says the same, whatever was kept before; and both files that were written hold
the same text. -/
theorem loadLatest_of_save {origin : FileSystem} {path : String} {overrides : List Override}
    {project : Project} {session : Session} {written : String}
    (loaded : Project.load origin directory path overrides = .ok project)
    (timely : session.Timely)
    (saved : session.save files directory project.root = (.ok written, after))
    (solid : ∀ kept ∈ [written, latestPath project.root], after.isDevice directory kept = false) :
    (∃ latest, loadLatest after directory (recordRoot path) = .ok latest ∧
      latest.Alike session) ∧
    after.readText directory written = .ok session.encode ∧
    after.readText directory (latestPath project.root) = .ok session.encode := by
  obtain ⟨runfile, made⟩ := Project.loaded_of_load loaded
  have root := Project.root_of_loaded made
  obtain ⟨-, ready, first, directories, own, again⟩ := writes_of_save saved
  have held := find_of_writes own again solid
  have read : ∀ kept ∈ [written, latestPath project.root],
      after.readText directory kept = .ok session.encode := by
    intro kept member
    obtain ⟨place, node, found, content⟩ := held kept member
    exact FileSystem.readText_of_find found content
  obtain ⟨place, node, found, content⟩ := held (latestPath project.root) (by simp)
  obtain ⟨latest, decoded, alike⟩ := decode?_encode timely
  refine ⟨⟨latest, ?_, alike⟩, read written (by simp), read _ (by simp)⟩
  have shown : after.find directory (latestPath (recordRoot path)) = .ok (place, node) := by
    rw [find_latest_recordRoot, ← root, found]
  have there : after.doesExist directory (latestPath (recordRoot path)) = true := by
    rw [FileSystem.doesExist, shown]
    rfl
  have text := FileSystem.readText_of_find shown content
  unfold latestPath at there text
  simp only [loadLatest, there, text, Except.mapError, bind, Except.bind, decoded, Bool.not_true,
    Bool.false_eq_true, if_false]
  rfl

end Session

namespace Small

open FileSystem
open Session (latestPath recordsOf)

/-- The Runfile in a file. -/
def runfileText : String :=
  "variables:\n- name: SRC\n  value: lib.c\ntargets:\n- name: all\n  prerequisites: [lib]\n" ++
    "- name: lib\n  recipe: [cc $(SRC)]\n  outputs: [lib.o]\n"

theorem ofYaml?_runfileText : Runfile.ofYaml? runfileText = some runfile := by decide +kernel

/-- The session of the run. -/
def session : Session :=
  ((Session.begin ["all"] plan.targets false (.ofFileTime 0)).applyAll
    (stream.map (Timestamp.ofFileTime 0, ·))).finish (.ofFileTime 1500000000)

/-- The Runfile, and the records of a run that had the same name. -/
def entries : List (Location × Node) :=
  [(["Runfile.yml"], .file runfileText.toUTF8 0),
   ([".runfile"], .directory 0),
   ([".runfile", "runs"], .directory 0),
   ([".runfile", "runs", "latest.json"], .file "{}".toUTF8 0),
   ([".runfile", "runs", "1970-01-01-00-00-00-000.json"], .file "{}".toUTF8 0)]

def files : FileSystem :=
  entries.foldl (fun files entry => files.put entry.1 entry.2) (FileSystem.empty 0)

theorem node?_files (place : Location) :
    files.node? place = (entries.lookup place).or ((FileSystem.empty 0).node? place) := by
  refine node?_foldl_put (by decide) ?_ place
  simp [entries, FileSystem.empty, number?]

theorem root_files : (files.node? []).map Node.isDirectory = some true := by
  have free : entries.lookup [] = none := by rfl
  rw [node?_files, free]
  simp [FileSystem.empty, number?, node?, Node.isDirectory, Node.directory]

theorem walk_records (follow : Bool) (links : Nat) (rest : List String) :
    files.walk follow links [] ("." :: ".runfile" :: "runs" :: rest) =
      files.walk follow links [".runfile", "runs"] rest := by
  rw [walk_dot, walk_name root_files (by rw [node?_files]; rfl) (by decide),
    walk_name (by rw [node?_files]; rfl) (by rw [node?_files]; rfl) (by decide)]
  rfl

theorem find_record {path name : String} (plain : Plain path)
    (pieces : Path.pieces path = [".", ".runfile", "runs", name])
    (there : entries.lookup [".runfile", "runs", name] = some (.file "{}".toUTF8 0))
    (short : name ≠ "" ∧ name ≠ "." ∧ name ≠ ".." ∧ name.utf8ByteSize ≤ maxNameSize) :
    files.find [] path = .ok ([".runfile", "runs", name], .file "{}".toUTF8 0) := by
  have there : files.node? [".runfile", "runs", name] = some (.file "{}".toUTF8 0) := by
    rw [node?_files, there]
    rfl
  have solid : (files.node? ([".runfile", "runs"] ++ [name])).map Node.target? = some none :=
    congrArg (·.map Node.target?) there
  refine find_eq_ok_iff.2 ⟨⟨[".runfile", "runs", name], false⟩, ?_, rfl, there⟩
  rw [plain.resolve, pieces, walk_records, walk_name (by rw [node?_files]; rfl) solid short, walk]
  rfl

/-- The path of the session. -/
def own : String := "./.runfile/runs/1970-01-01-00-00-00-000.json"

theorem recordsOf_text : recordsOf "." = "./.runfile/runs" ∧
    Path.join (recordsOf ".") (session.id ++ ".json") = own := by decide +kernel

theorem find_latest : files.find [] (latestPath ".") =
    .ok ([".runfile", "runs", "latest.json"], .file "{}".toUTF8 0) := by
  rw [Session.latestPath_text.1]
  exact find_record Session.plain_dotted (by rfl) (by rfl) (by decide)

theorem find_own : files.find [] own =
    .ok ([".runfile", "runs", "1970-01-01-00-00-00-000.json"], .file "{}".toUTF8 0) :=
  find_record ⟨by rfl, by simp [own, Path.isAbsolute], by decide, by simp [own]⟩
    (by rfl) (by rfl) (by decide)

theorem makeDirectories_files : files.makeDirectories [] (recordsOf ".") = .ok files := by
  rw [recordsOf_text.1]
  have plain : Plain "./.runfile/runs" := ⟨by rfl, by simp [Path.isAbsolute], by decide, by simp⟩
  have pieces : Path.pieces "./.runfile/runs" = [".", ".runfile", "runs"] := by rfl
  have leads (follow : Bool) :
      files.resolve [] "./.runfile/runs" follow = .ok ⟨[".runfile", "runs"], false⟩ := by
    rw [plain.resolve, pieces, walk_records, walk]
  have there : files.node? [".runfile", "runs"] = some (.directory 0) := by
    rw [node?_files]
    rfl
  refine makeDirectories_of_found ?_ (leads false) there
  rw [isDirectory, find_eq_ok_iff.2 ⟨_, leads true, rfl, there⟩]
  rfl

theorem load_files {project : Project} (made : Project.ofRunfile runfile "." [] = .ok project) :
    Project.load files [] "Runfile.yml" [] = .ok project := by
  have pieces : Path.pieces "Runfile.yml" = ["Runfile.yml"] := by rfl
  have plain : Plain "Runfile.yml" := ⟨by rfl, by simp [Path.isAbsolute], by decide, by simp⟩
  have there : files.node? ["Runfile.yml"] = some (.file runfileText.toUTF8 0) := by
    rw [node?_files]
    rfl
  have found : files.find [] "Runfile.yml" = .ok (["Runfile.yml"], .file runfileText.toUTF8 0) := by
    refine find_eq_ok_iff.2 ⟨⟨["Runfile.yml"], false⟩, ?_, rfl, there⟩
    have solid : (files.node? ([] ++ ["Runfile.yml"])).map Node.target? = some none :=
      congrArg (·.map Node.target?) there
    rw [plain.resolve, pieces, walk_name root_files solid (by decide), walk]
    rfl
  have root : Path.directory "Runfile.yml" = "." := by decide +kernel
  simp only [Project.load, Project.readRunfile, readText_of_find found rfl, ofYaml?_runfileText,
    root, made, bind, Except.bind]
  rfl

theorem timely_session : session.Timely := by
  have first : Timestamp.Ordinary (.ofFileTime 0) := ⟨by decide, .inl (by decide)⟩
  refine Session.timely_of_run _ _ _ first (fun stamp member => ?_)
    ⟨by decide, .inl (by decide)⟩
  obtain ⟨event, -, rfl⟩ := List.mem_map.1 member
  exact first

theorem save_files : ∃ after, session.save files [] "." = (.ok own, after) ∧
    ∀ kept ∈ [own, latestPath "."], after.isDevice [] kept = false :=
  Session.save_of_found recordsOf_text.2 makeDirectories_files find_own rfl find_latest rfl

theorem loadLatest_of_save_small :
    ∃ project after latest,
      Project.load files [] "Runfile.yml" [] = .ok project ∧
      session.Timely ∧
      session.save files [] project.root = (.ok own, after) ∧
      (∀ kept ∈ [own, latestPath project.root], after.isDevice [] kept = false) ∧
      Session.loadLatest after [] (CommandLine.recordRoot "Runfile.yml") = .ok latest ∧
      latest.Alike session ∧
      after.readText [] own = .ok session.encode := by
  obtain ⟨project, made⟩ := loads_runfile
  have root : project.root = "." := Project.root_of_loaded made
  obtain ⟨after, saved, solid⟩ := save_files
  rw [← root] at saved solid
  obtain ⟨⟨latest, shown, alike⟩, own, -⟩ :=
    Session.loadLatest_of_save (load_files made) timely_session saved solid
  exact ⟨project, after, latest, load_files made, timely_session, saved, solid, shown, alike, own⟩

end Small
end TaskRunner

