import NodeSettings.Path
import NodeSettings.Table

/-!
A tree of files and directories with their permission bits, addressed by paths, and the system that
holds it. The working directory is the root, so a path leads to the same place with a slash in front
and without. There are no symbolic links. `entries_put` and `entries_remove` say what a change of
one entry does to the others.
-/

namespace NodeSettings

/-- What stands at a place of a tree, with its nine permission bits. -/
inductive FileEntry where
  | directory (mode : Nat)
  | file (mode : Nat) (bytes : ByteArray)

def FileEntry.mode : FileEntry → Nat
  | directory mode => mode
  | file mode _ => mode

/-- Why an operation on files fails. -/
inductive FileFailure where
  | notFound | isDirectory | notDirectory | alreadyExists | invalidText
  /-- The system refuses for a reason that the tree does not show, such as a full disk. -/
  | refused
deriving DecidableEq

/-- The entries below the root, each under the parts of its path. -/
structure FileTree where
  entries : Table FileEntry := ∅

/-- A failed operation on a tree, and the tree that it leaves. -/
structure Failed (ε : Type) where
  error : ε
  tree : FileTree

/-- What a system may refuse. -/
inductive Request where
  | read | makeDirectory | createTemporary | writeTemporary | setMode | rename
deriving DecidableEq

/-- What a system does that its tree does not tell. What stands at a path can always be looked up,
its permissions included, and a temporary file can always be removed: neither is ever refused. -/
structure FileSystem where
  refuses : Request → FileTree → Bool
  /-- How many bytes a refused write has put into its file before it stopped. -/
  partWritten : FileTree → Nat
  /-- The name for a new temporary file. -/
  temporaryName : FileTree → String

namespace FileTree

/-- The permissions of new directories. -/
def directoryMode : Nat := 0o755

/-- The permissions of new files. -/
def fileMode : Nat := 0o644

/-- The permissions of new temporary files: their owner alone may read and write them. -/
def temporaryMode : Nat := 0o600

/-- The key of a place in the table of entries. -/
def keyOf (place : List String) : String := "/".intercalate place

/-- What stands at a place, of which the root is the one without parts. -/
def at? (t : FileTree) (place : List String) : Option FileEntry :=
  if place.isEmpty then some (.directory directoryMode) else t.entries.get? (keyOf place)

/-- The tree with an entry at a place. -/
def put (t : FileTree) (place : List String) (e : FileEntry) : FileTree :=
  ⟨t.entries.insert (keyOf place) e⟩

/-- The tree without what stands at a place. -/
def remove (t : FileTree) (place : List String) : FileTree := ⟨t.entries.erase (keyOf place)⟩

/-- The place of the next part of a path. -/
def step (place : List String) (part : String) : List String :=
  if Path.isIdle part then place else if part = ".." then place.dropLast else place ++ [part]

/-- The place that parts of a path lead to, through directories only. -/
def follow (t : FileTree) (place : List String) : List String → Except FileFailure (List String)
  | [] => .ok place
  | part :: rest =>
    match t.at? place with
    | some (.directory _) => t.follow (step place part) rest
    | some (.file ..) => .error .notDirectory
    | none => .error .notFound

/-- The place that a path leads to, which may be free. Only a directory's path ends with a slash. -/
def locate (t : FileTree) (path : String) : Except FileFailure (List String) :=
  if path.isEmpty then .error .notFound else t.follow [] (Path.parts path)

/-- The entry at a path. -/
def find (t : FileTree) (path : String) : Except FileFailure FileEntry := do
  match t.at? (← t.locate path) with
  | some e => return e
  | none => throw .notFound

/-- The text of a file. -/
def read (t : FileTree) (path : String) : Except FileFailure String := do
  match ← t.find path with
  | .directory _ => throw .isDirectory
  | .file _ bytes =>
    match String.fromUTF8? bytes with
    | some text => return text
    | none => throw .invalidText

/-- The text of a file, where the system lets it be read. -/
def readBy (system : FileSystem) (t : FileTree) (path : String) : Except FileFailure String :=
  if system.refuses .read t then .error .refused else t.read path

/-- Gives a file bytes; a new one gets the permissions of new files, another keeps its own. -/
def write (t : FileTree) (path : String) (bytes : ByteArray) : Except FileFailure FileTree := do
  let place ← t.locate path
  match t.at? place with
  | some (.directory _) => throw .isDirectory
  | some (.file mode _) => return t.put place (.file mode bytes)
  | none => return t.put place (.file fileMode bytes)

/-- Makes the directories on the way to a place that are missing. -/
def makeWay (system : FileSystem) (t : FileTree) (place : List String) :
    List String → Except (Failed FileFailure) FileTree
  | [] => .ok t
  | part :: rest =>
    let next := step place part
    match t.at? next with
    | some (.directory _) => t.makeWay system next rest
    | some (.file ..) => .error ⟨if rest.isEmpty then .alreadyExists else .notDirectory, t⟩
    | none =>
      if system.refuses .makeDirectory t then .error ⟨.refused, t⟩
      else (t.put next (.directory directoryMode)).makeWay system next rest

/-- Makes a directory and those it stands in, where they are missing. -/
def makeDirectories (system : FileSystem) (t : FileTree) (path : String) :
    Except (Failed FileFailure) FileTree :=
  t.makeWay system [] (Path.components path)

/-- A new empty file in a directory: the tree with it, and its place. -/
def createTemporary (system : FileSystem) (t : FileTree) (directory : String) :
    Except FileFailure (FileTree × List String) := do
  let inside ← t.locate directory
  match t.at? inside with
  | none => throw .notFound
  | some (.file ..) => throw .notDirectory
  | some (.directory _) =>
    if system.refuses .createTemporary t then throw .refused
    let place := inside ++ [system.temporaryName t]
    match t.at? place with
    | some _ => throw .alreadyExists
    | none => return (t.put place (.file temporaryMode .empty), place)

/-- Writes bytes into an empty temporary file. A refusal leaves the first of them there. -/
def fill (system : FileSystem) (t : FileTree) (place : List String) (bytes : ByteArray) :
    Except (Failed FileFailure) FileTree :=
  if system.refuses .writeTemporary t then
    let part := bytes.extract 0 (system.partWritten t)
    .error ⟨.refused, t.put place (.file temporaryMode part)⟩
  else .ok (t.put place (.file temporaryMode bytes))

/-- Moves what stands at a place to a path, over a file that is there. -/
def rename (t : FileTree) (source : List String) (path : String) : Except FileFailure FileTree := do
  let place ← t.locate path
  match t.at? source with
  | none => throw .notFound
  | some e =>
    match t.at? place with
    | some (.directory _) => throw .isDirectory
    | some (.file ..) | none => return (t.remove source).put place e

/-- Sets the permissions of an entry. -/
def setMode (t : FileTree) (path : String) (mode : Nat) : Except FileFailure FileTree := do
  let place ← t.locate path
  match t.at? place with
  | some (.directory _) => return t.put place (.directory mode)
  | some (.file _ bytes) => return t.put place (.file mode bytes)
  | none => throw .notFound

/-- The names in a directory, in order. The empty path means the root. -/
def names (t : FileTree) (path : String) : Except FileFailure (List String) := do
  let place ← t.follow [] (Path.parts path)
  match t.at? place with
  | some (.directory _) =>
    return t.entries.entries.filterMap fun e =>
      let parts := Path.components e.1
      if parts.dropLast = place then parts.getLast? else none
  | some (.file ..) => throw .notDirectory
  | none => throw .notFound

/-- A change at one key of the table leaves the entries at other keys as they are. -/
theorem entries_put (t : FileTree) (place : List String) (e : FileEntry) (key : String) :
    (t.put place e).entries.get? key =
      if key = keyOf place then some e else t.entries.get? key := by
  simp [put]

theorem entries_remove (t : FileTree) (place : List String) (key : String) :
    (t.remove place).entries.get? key = if key = keyOf place then none else t.entries.get? key := by
  simp [remove]

end FileTree

/-- A system that refuses nothing and has longer names for temporary files than for any other. -/
def FileSystem.plain : FileSystem where
  refuses _ _ := false
  partWritten _ := 0
  temporaryName t :=
    let longest := (t.entries.entries.map (·.1.length)).foldl max 0
    String.ofList ('.' :: List.replicate longest 't')

end NodeSettings
