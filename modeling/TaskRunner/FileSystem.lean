import Std.Data.HashMap
import TaskRunner.FileSystem.Error
import TaskRunner.FileSystem.Path
import TaskRunner.Staleness
/- # TaskRunner.FileSystem -- files, directories and links

A file system maps locations to numbers and numbers to nodes.  A location is the chain of names that
leads from the root to a node without any link or dot in it.  A file may have several locations; a
node that has none left stays what it is to those who have it open.  `resolve` takes a path to a
location: it follows links, forty at most, and wants a directory at every step but the last.

Every change is stamped with the time of a clock that the change itself moves on, so of two changes
the later has the later time.  A new node gets a number above all that were given out
(`FileSystem.Bounded`), so it comes to no other location. -/

namespace TaskRunner
set_option autoImplicit false

/-- The names that lead to a node from the root. -/
abbrev Location := List String

/-- A file that is no file but a way to something else. -/
inductive Device where
  /-- Takes everything and has nothing. -/
  | null
  /-- Has octets of the number zero without end. -/
  | zero
  /-- Has no room. -/
  | full
  /-- What a process has open under a number. -/
  | descriptor (number : Nat)
  deriving DecidableEq, Repr, Inhabited

/-- What a node is. -/
inductive Content where
  | file (bytes : ByteArray)
  | directory
  | link (target : String)
  | device (device : Device)
  deriving Inhabited

/-- What can be at a location. -/
structure Node where
  content : Content
  modified : FileTime
  /-- The permissions: three bits each for the owner, the group and all others. -/
  mode : Nat
  deriving Inhabited

namespace Node

/-- The permissions of a new file and of a new directory, unless some are withheld. -/
def fileMode : Nat := 0o644

def directoryMode : Nat := 0o755

def file (bytes : ByteArray) (modified : FileTime) (mode : Nat := fileMode) : Node :=
  ⟨.file bytes, modified, mode⟩

def directory (modified : FileTime) (mode : Nat := directoryMode) : Node :=
  ⟨.directory, modified, mode⟩

def link (target : String) (modified : FileTime) : Node := ⟨.link target, modified, 0o777⟩

def device (device : Device) (modified : FileTime) : Node := ⟨.device device, modified, 0o666⟩

/-- The content of a file. -/
def bytes? (node : Node) : Option ByteArray :=
  match node.content with
  | .file bytes => some bytes
  | _ => none

def isFile (node : Node) : Bool := node.bytes?.isSome

def isDirectory (node : Node) : Bool :=
  match node.content with
  | .directory => true
  | _ => false

/-- The path that a link leads to. -/
def target? (node : Node) : Option String :=
  match node.content with
  | .link target => some target
  | _ => none

def isLink (node : Node) : Bool := node.target?.isSome

def device? (node : Node) : Option Device :=
  match node.content with
  | .device device => some device
  | _ => none

/-- Whether someone may execute the file, or enter the directory. -/
def isExecutable (node : Node) : Bool := node.mode &&& 0o111 != 0

end Node

namespace FileSystem

/-- Whether the numbers at all locations are below one. -/
def Bounded (numbers : Std.HashMap Location Nat) (fresh : Nat) : Prop :=
  ∀ (place : Location) (number : Nat), numbers[place]? = some number → number < fresh

namespace Bounded

variable {numbers : Std.HashMap Location Nat} {fresh : Nat}

theorem empty (fresh : Nat) : Bounded {} fresh := by
  intro place number held
  simp at held

theorem mono (bounded : Bounded numbers fresh) {later : Nat} (grows : fresh ≤ later) :
    Bounded numbers later :=
  fun place number held => Nat.lt_of_lt_of_le (bounded place number held) grows

theorem insert (bounded : Bounded numbers fresh) (place : Location) {number : Nat}
    (given : number < fresh) : Bounded (numbers.insert place number) fresh := by
  intro other found held
  rw [Std.HashMap.getElem?_insert] at held
  split at held
  · cases held
    exact given
  · exact bounded other found held

theorem insertAll (bounded : Bounded numbers fresh) (target : Location)
    (moved : List (Location × Nat)) (given : ∀ pair ∈ moved, pair.2 < fresh) :
    Bounded (moved.foldl (fun numbers (rest, number) => numbers.insert (target ++ rest) number)
      numbers) fresh := by
  induction moved generalizing numbers with
  | nil => exact bounded
  | cons pair moved ih =>
    exact ih (bounded.insert _ (given pair List.mem_cons_self))
      fun other member => given other (List.mem_cons_of_mem _ member)

theorem filter (bounded : Bounded numbers fresh) (keep : Location → Nat → Bool) :
    Bounded (numbers.filter keep) fresh := by
  intro place number held
  rw [Std.HashMap.getElem?_filter'] at held
  exact bounded place number (Option.eq_some_of_filter_eq_some held)

end Bounded
end FileSystem

/-- The files there are, and the time of the next change. -/
structure FileSystem where
  /-- The number of the node at a location. -/
  numbers : Std.HashMap Location Nat
  nodes : Std.HashMap Nat Node
  /-- The number of the next new node. -/
  fresh : Nat
  clock : FileTime
  bounded : FileSystem.Bounded numbers fresh

namespace FileSystem

/-- A file system that holds the root alone. -/
def empty (clock : FileTime) : FileSystem where
  numbers := Std.HashMap.insert {} [] 0
  nodes := {(0, .directory clock)}
  fresh := 1
  clock
  bounded := (Bounded.empty 1).insert [] Nat.zero_lt_one

instance : Inhabited FileSystem := ⟨empty 0⟩

/-- How far the clock moves with each change. -/
def tick : FileTime := 1000

/-- The number of the node at a location. -/
def number? (files : FileSystem) (place : Location) : Option Nat := files.numbers[place]?

def node? (files : FileSystem) (place : Location) : Option Node :=
  (files.number? place).bind (files.nodes[·]?)

/-- All locations with the nodes at them. -/
def toList (files : FileSystem) : List (Location × Node) :=
  files.numbers.fold
    (fun found place number =>
      match files.nodes[number]? with
      | some node => (place, node) :: found
      | none => found)
    []

/-- How many locations a node has. -/
def linkCount (files : FileSystem) (number : Nat) : Nat :=
  files.numbers.fold (fun count _ other => if other == number then count + 1 else count) 0

/-! ## Paths -/

/-- How many links are followed on one path. -/
def maxLinks : Nat := 40

/-- The most bytes that a name may have. -/
def maxNameSize : Nat := 255

/-- The number of bytes from which on a path is too long. -/
def maxPathSize : Nat := 4096

/-- Where a path leads, and whether it ends in a slash. -/
structure Resolved where
  place : Location
  slash : Bool := false

/-- Follows the pieces of a path from a location.  The last one may be missing; if it is a link it is
followed only where `follow` is set. -/
def walk (files : FileSystem) (follow : Bool) (links : Nat) (here : Location)
    (pieces : List String) : Except FileError Resolved :=
  match pieces with
  | [] => .ok { place := here }
  | piece :: rest =>
    match files.node? here with
    | none => .error .notFound
    | some node =>
      if !node.isDirectory then .error .notDirectory
      else if piece == "" || piece == "." then walk files follow links here rest
      else if piece == ".." then walk files follow links here.dropLast rest
      else if piece.utf8ByteSize > maxNameSize then .error .nameTooLong
      else
        let there := here ++ [piece]
        match (files.node? there).map Node.target? with
        | none =>
          if rest.all (· == "") then .ok { place := there, slash := !rest.isEmpty }
          else .error .notFound
        | some (some target) =>
          if rest.isEmpty && !follow then .ok { place := there }
          else
            match links with
            | 0 => .error .tooManyLinks
            | links + 1 =>
              walk files follow links (if Path.isAbsolute target then [] else here)
                (Path.pieces target ++ rest)
        | some none => walk files follow links there rest
termination_by (links, pieces.length)

/-- Where a path leads from a directory. -/
def resolve (files : FileSystem) (directory : Location) (path : String) (follow : Bool := true) :
    Except FileError Resolved :=
  if path.isEmpty then .error .notFound
  else if path.contains '\x00' then .error .nullInPath
  else if path.utf8ByteSize ≥ maxPathSize then .error .nameTooLong
  else files.walk follow maxLinks (if Path.isAbsolute path then [] else directory) (Path.pieces path)

/-- What a path leads to. -/
def find (files : FileSystem) (directory : Location) (path : String) (follow : Bool := true) :
    Except FileError (Location × Node) := do
  let found ← files.resolve directory path follow
  match files.node? found.place with
  | some node => return (found.place, node)
  | none => .error .notFound

/-- Whether a path leads to something. -/
def doesExist (files : FileSystem) (directory : Location) (path : String) : Bool :=
  (files.find directory path).toOption.isSome

def isFile (files : FileSystem) (directory : Location) (path : String) : Bool :=
  (files.find directory path).toOption.any (·.2.isFile)

def isDirectory (files : FileSystem) (directory : Location) (path : String) : Bool :=
  (files.find directory path).toOption.any (·.2.isDirectory)

/-- When the files at paths inside a directory were last changed. -/
def times (files : FileSystem) (directory : Location) (root : String) : FileTimes := fun path =>
  (files.find directory (Path.join root path)).toOption.map (·.2.modified)

/-! ## Reading -/

/-- The content of a file. -/
def readBytes (files : FileSystem) (directory : Location) (path : String) :
    Except FileError ByteArray := do
  match (← files.find directory path).2.content with
  | .file bytes => return bytes
  | .device _ => return .empty
  | _ => .error .isDirectory

/-- The content of a file that holds a text. -/
def readText (files : FileSystem) (directory : Location) (path : String) :
    Except FileError String := do
  match String.fromUTF8? (← files.readBytes directory path) with
  | some text => return text
  | none => .error .notText

/-- The names in a directory, in increasing order. -/
def names (files : FileSystem) (place : Location) : List String :=
  let children := files.numbers.fold
    (fun names other _ =>
      match other.getLast? with
      | some name => if other.dropLast == place then name :: names else names
      | none => names)
    []
  children.mergeSort

/-- All locations at a location or below it, by the names that lead there from it. -/
def below (files : FileSystem) (place : Location) : List (Location × Nat) :=
  files.numbers.fold
    (fun found other number =>
      if place.isPrefixOf other then (other.drop place.length, number) :: found else found)
    []

theorem lt_fresh_of_mem_below {files : FileSystem} {place : Location} {pair : Location × Nat}
    (member : pair ∈ files.below place) : pair.2 < files.fresh := by
  have collected : ∀ entries found : List (Location × Nat),
      (∀ entry ∈ entries, entry.2 < files.fresh) → (∀ entry ∈ found, entry.2 < files.fresh) →
      ∀ entry ∈ entries.foldl (fun found (entry : Location × Nat) =>
        if place.isPrefixOf entry.1 then (entry.1.drop place.length, entry.2) :: found else found)
          found, entry.2 < files.fresh := by
    intro entries
    induction entries with
    | nil => exact fun _ _ old => old
    | cons entry entries ih =>
      intro found given old
      refine ih _ (fun other mem => given other (List.mem_cons_of_mem _ mem)) ?_
      dsimp only
      split
      · exact List.forall_mem_cons.2 ⟨given entry List.mem_cons_self, old⟩
      · exact old
  rw [below, Std.HashMap.fold_eq_foldl_toList] at member
  refine collected files.numbers.toList [] (fun entry mem => ?_) (by simp) pair member
  exact files.bounded entry.1 entry.2 (Std.HashMap.mem_toList_iff_getElem?_eq_some.1 mem)

/-- All files below a location with their contents, by the names that lead to them from there. -/
def filesBelow (files : FileSystem) (place : Location) : List (Location × ByteArray) :=
  (files.below place).filterMap fun (rest, number) =>
    (files.nodes[number]?.bind Node.bytes?).map (rest, ·)

/-! ## Changing -/

/-- Puts a node in place of the one of a number and moves the clock on. -/
def replace (files : FileSystem) (number : Nat) (node : Node) : FileSystem :=
  { files with nodes := files.nodes.insert number node, clock := files.clock + tick }

/-- Puts a node at a location, in place of the one that is there, and moves the clock on. -/
def put (files : FileSystem) (place : Location) (node : Node) : FileSystem :=
  match files.number? place with
  | some number => files.replace number node
  | none =>
    { numbers := files.numbers.insert place files.fresh
      nodes := files.nodes.insert files.fresh node
      fresh := files.fresh + 1
      clock := files.clock + tick
      bounded := (files.bounded.mono (Nat.le_succ _)).insert place (Nat.lt_succ_self _) }

/-- Stamps a directory whose names changed. -/
def touched (files : FileSystem) (place : Location) : FileSystem :=
  match files.node? place with
  | some node =>
    if node.isDirectory then files.put place { node with modified := files.clock } else files
  | none => files

/-- Puts a node where nothing is. -/
def create (files : FileSystem) (place : Location) (node : Node) : FileSystem :=
  (files.put place node).touched place.dropLast

/-- Gives a file another content and stamps it. -/
def setBytes (files : FileSystem) (number : Nat) (bytes : ByteArray) : FileSystem :=
  match files.nodes[number]? with
  | some node =>
    files.replace number { node with content := .file bytes, modified := files.clock }
  | none => files

/-- Gives a file a new content, from the old one if there is one, and makes the file if it is not
there. -/
def update (files : FileSystem) (directory : Location) (path : String)
    (change : ByteArray → ByteArray) : Except FileError FileSystem := do
  let found ← files.resolve directory path
  match files.node? found.place with
  | none =>
    if found.slash then .error .isDirectory
    else return files.create found.place (.file (change .empty) files.clock)
  | some node =>
    match node.content with
    | .file bytes =>
      return files.put found.place
        { node with content := .file (change bytes), modified := files.clock }
    | .device _ => return files
    | _ => .error .isDirectory

/-- Writes a file in place of any content that it has. -/
def write (files : FileSystem) (directory : Location) (path : String) (content : ByteArray) :
    Except FileError FileSystem :=
  files.update directory path fun _ => content

def writeText (files : FileSystem) (directory : Location) (path text : String) :
    Except FileError FileSystem :=
  files.write directory path text.toUTF8

/-- Makes a directory in one that is there. -/
def makeDirectory (files : FileSystem) (directory : Location) (path : String)
    (mode : Nat := Node.directoryMode) : Except FileError FileSystem := do
  let found ← files.resolve directory path false
  match files.node? found.place with
  | some _ => .error .alreadyThere
  | none => return files.create found.place (.directory files.clock mode)

/-- Makes the directories of a list one after the other, where they are not there yet. -/
def makeEach (files : FileSystem) (directory : Location) :
    List String → Except FileError FileSystem
  | [] => .ok files
  | path :: rest =>
    match files.makeDirectory directory path with
    | .ok files => files.makeEach directory rest
    | .error cause =>
      if files.isDirectory directory path then files.makeEach directory rest else .error cause

/-- The paths that lead to a path, the longest first, while the file system says that something on
the way is not there. -/
def missingPaths (files : FileSystem) (directory : Location) (fuel : Nat) (path : String) :
    List String :=
  match fuel with
  | 0 => []
  | fuel + 1 =>
    if path.isEmpty then []
    else
      match files.makeDirectory directory path with
      | .error .notFound =>
        match Path.parent? path with
        | some parent => path :: missingPaths files directory fuel parent
        | none => [path]
      | _ => [path]

/-- Makes a directory and whatever directories lead to it. -/
def makeDirectories (files : FileSystem) (directory : Location) (path : String) :
    Except FileError FileSystem :=
  files.makeEach directory (files.missingPaths directory (path.length + 1) path).reverse

/-- Takes away a location and all below it. -/
def removeTree (files : FileSystem) (place : Location) : FileSystem :=
  FileSystem.touched
    { files with
      numbers := files.numbers.filter fun other _ => !place.isPrefixOf other
      clock := files.clock + tick
      bounded := files.bounded.filter _ }
    place.dropLast

/-- Numbers stay given out when their locations go. -/
theorem fresh_le_removeTree (files : FileSystem) (place : Location) :
    files.fresh ≤ (files.removeTree place).fresh := by
  unfold removeTree touched put
  split
  · split
    · split
      · exact Nat.le_refl _
      · exact Nat.le_succ _
    · exact Nat.le_refl _
  · exact Nat.le_refl _

/-- Gives the node at a location one more location. -/
def link (files : FileSystem) (source place : Location) : Option FileSystem :=
  match held : files.number? source with
  | some number =>
    some (FileSystem.touched
      { files with
        numbers := files.numbers.insert place number
        bounded := files.bounded.insert place (files.bounded source number held) }
      place.dropLast)
  | none => none

/-- Moves a location, with all below it, to another in place of what is there. -/
def rename (files : FileSystem) (source target : Location) : FileSystem :=
  if source == target then files
  else
    let moved := files.below source
    let cleared := (files.removeTree target).removeTree source
    FileSystem.touched
      { cleared with
        numbers := moved.foldl (fun numbers (rest, number) => numbers.insert (target ++ rest) number)
          cleared.numbers
        bounded := cleared.bounded.insertAll target moved fun _ member =>
          Nat.lt_of_lt_of_le (lt_fresh_of_mem_below member)
            (Nat.le_trans (files.fresh_le_removeTree target) (fresh_le_removeTree _ source)) }
      target.dropLast

/-- Changes a node without moving the clock. -/
def modify (files : FileSystem) (place : Location) (change : Node → Node) : FileSystem :=
  match files.number? place with
  | some number => { files with nodes := files.nodes.modify number change }
  | none => files

/-- Sets the time of change of a node. -/
def setModified (files : FileSystem) (place : Location) (modified : FileTime) : FileSystem :=
  files.modify place fun node => { node with modified }

/-- Sets the permissions of a node. -/
def setMode (files : FileSystem) (place : Location) (mode : Nat) : FileSystem :=
  files.modify place fun node => { node with mode }

/-- Lets time pass. -/
def wait (files : FileSystem) (duration : FileTime) : FileSystem :=
  { files with clock := files.clock + duration }

end FileSystem
end TaskRunner
