import NodeSettings.Configuration.Basic
import NodeSettings.Document.Text

/-!
Settings files: loading a configuration from a file, saving it, and bringing a file up to date. A
file that cannot be read or loaded is left as it is.
-/

namespace NodeSettings.SettingsFile

open StoreError

/-- The file of settings in a node's base directory. -/
def fileName : String := "user-settings.yml"

/-- The path of the settings file of a base directory. -/
def pathIn (directory : String) : String := Path.join directory fileName

/-- The document in a file; `none` if there is no file. -/
def readDocument (system : FileSystem) (t : FileTree) (path : String) :
    Except StoreError (Option Document) :=
  match t.readBy system path with
  | .error .notFound => .ok none
  | .error failure => .error (.during (.readingFile path) (.file failure))
  | .ok text =>
    (within (.parsingFile path) (Document.decode text (.ofPath path))).map some

/-- The base directory of a node with a document at a path: the stored one, or where it is. -/
def baseDirectory (d : Document) (path : String) : String :=
  (d.text? Group.root.key Configuration.directoryKey).getD ((Path.parent? path).getD "")

/-- The configuration that a document holds. -/
def configurationOf (d : Document) (path : String) : Except StoreError Configuration := do
  let directory := baseDirectory d path
  let fresh ← within .buildingDefaults (ofSetting (Configuration.fresh directory false))
  within (.loadingFrom path) (ofSetting (fresh.load d))

/-- The configuration in a file; `none` if there is no file. -/
def load (system : FileSystem) (t : FileTree) (path : String) :
    Except StoreError (Option Configuration) := do
  match ← readDocument system t path with
  | none => return none
  | some d => return some (← configurationOf d path)

/-- The directory that a file is saved in. -/
def directoryOf (path : String) : String :=
  match Path.parent? path with
  | some directory => if directory.isEmpty then "." else directory
  | none => "."

/-- The permissions that a file saved at a path gets: those of what is there, if anything is. -/
def modeFor (t : FileTree) (path : String) : Nat :=
  match t.find path with
  | .ok existing => existing.mode
  | .error _ => FileTree.temporaryMode

/-- A step that an operation on files has stopped. -/
def stopped (step : StoreStep) (failed : Failed FileFailure) : Failed StoreError :=
  ⟨.during step (.file failed.error), failed.tree⟩

/-- Asks the system for what a step needs. -/
def ask (system : FileSystem) (t : FileTree) (step : StoreStep) (request : Request) :
    Except (Failed StoreError) Unit :=
  if system.refuses request t then .error (stopped step ⟨.refused, t⟩) else .ok ()

/-- Fills a temporary file, gives it its permissions and moves it to a path. An error leaves the
temporary file as it is by then. -/
def fillAndMove (system : FileSystem) (t : FileTree) (temporary : List String) (path : String)
    (bytes : ByteArray) : Except (Failed StoreError) FileTree := do
  let filled ← (t.fill system temporary bytes).mapError (stopped (.writingFile path))
  (if (filled.find path).isOk then ask system filled (.copyingMode path) .setMode else .ok ())
  let ready := filled.put temporary (.file (modeFor filled path) bytes)
  ask system ready (.replacingFile path) .rename
  (ready.rename temporary path).mapError fun failure =>
    stopped (.replacingFile path) ⟨failure, ready⟩

/-- Saves a configuration. Directories on the way are made where they are missing. The text is put
into a temporary file first, so that the file itself is never half written; on a failure the
temporary file is removed. -/
def save (system : FileSystem) (t : FileTree) (c : Configuration) (path : String) :
    Except (Failed StoreError) FileTree :=
  let directory := directoryOf path
  match t.makeDirectories system directory with
  | .error failed => .error (stopped (.makingDirectory directory) failed)
  | .ok t =>
    match t.createTemporary system directory with
    | .error failure => .error (stopped (.creatingTemporary directory) ⟨failure, t⟩)
    | .ok (t, temporary) =>
      let bytes := (c.document.encode (.ofPath path)).toUTF8
      match fillAndMove system t temporary path bytes with
      | .error failed => .error ⟨failed.error, failed.tree.remove temporary⟩
      | .ok t => .ok t

/-- Whether a document bears the very stamp of the current layout. -/
def isCurrent (d : Document) : Bool :=
  d.text? Group.root.key Configuration.versionKey == some Version.current.stamp

/-- The configuration that an upgrade makes of a document: the settings that track the software's
version are refreshed. -/
def upgraded (d : Document) (path : String) : Except StoreError Configuration := do
  let c ← configurationOf d path
  within .refreshingDefaults (ofSetting c.refresh)

/-- The configuration to save when a file is brought up to date; `none` if it already is. -/
def due (system : FileSystem) (t : FileTree) (path : String) :
    Except StoreError (Option Configuration) := do
  match ← readDocument system t path with
  | none => throw (.missingFile path)
  | some d =>
    let _ ← within (.readingVersion path) (ofSetting d.version)
    if isCurrent d then return none
    return some (← upgraded d path)

/-- Brings a file up to date: the tree afterwards, and whether that was due. -/
def upgrade (system : FileSystem) (t : FileTree) (path : String) :
    Except (Failed StoreError) (FileTree × Bool) :=
  match due system t path with
  | .error e => .error ⟨e, t⟩
  | .ok none => .ok (t, false)
  | .ok (some c) => (save system t c path).map fun t => (t, true)

end NodeSettings.SettingsFile
