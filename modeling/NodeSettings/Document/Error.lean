import NodeSettings.Document.Format
import NodeSettings.Error
import NodeSettings.FileTree

/-!
What can go wrong when a document is read from a text, and a configuration from a file. An error is
a cause within the steps that it stopped, the outermost first.
-/

namespace NodeSettings

/-- What was being done when something went wrong. -/
inductive StoreStep where
  | parsing (format : Document.Format)
  | readingGroupName
  | readingKey (group : String)
  | readingText (group id : String)
  | readingFile (path : String)
  | parsingFile (path : String)
  | loadingFrom (path : String)
  | buildingDefaults
  | makingDirectory (path : String)
  | creatingTemporary (directory : String)
  | writingFile (path : String)
  | copyingMode (path : String)
  | replacingFile (path : String)
  | readingVersion (path : String)
  | refreshingDefaults
deriving DecidableEq

def StoreStep.message : StoreStep → String
  | parsing format => "Invalid " ++ format.name ++ " settings document"
  | readingGroupName => "Invalid section name"
  | readingKey group => "Invalid key in section [" ++ group ++ "]"
  | readingText group id => "Invalid value for [" ++ group ++ "." ++ id ++ "]"
  | readingFile path => "Could not read settings file " ++ path
  | parsingFile path => "Could not parse settings file " ++ path
  | loadingFrom path => "Could not load settings from " ++ path
  | buildingDefaults => "Could not build default configuration"
  | makingDirectory path => "Could not create settings directory " ++ path
  | creatingTemporary directory => "Could not create a temporary file in " ++ directory
  | writingFile path => "Could not write settings for " ++ path
  | copyingMode path => "Could not copy permissions of " ++ path
  | replacingFile path => "Could not replace settings file " ++ path
  | readingVersion path => "Could not read the version of " ++ path
  | refreshingDefaults => "Could not refresh upgradable defaults"

inductive StoreError where
  /-- A text is not in its format. -/
  | malformed (format : Document.Format)
  /-- A text's value is no table of groups. -/
  | notGroups (format : Document.Format) (found : String)
  /-- A group is no table of texts. -/
  | notTable (format : Document.Format) (group found : String)
  /-- A name, a key or a text is not a single value. -/
  | notScalar (found : String)
  /-- The text at a place is not a single value. -/
  | notScalarAt (group id found : String)
  | missingFile (path : String)
  | file (failure : FileFailure)
  | setting (error : SettingError)
  | during (step : StoreStep) (cause : StoreError)
deriving DecidableEq

namespace StoreError

/-- What a table is called in a format. -/
private def tableWord : Document.Format → String
  | .yaml => "a mapping"
  | .json => "an object"

private def fileMessage : FileFailure → String
  | .notFound => "no such file or directory"
  | .isDirectory => "is a directory"
  | .notDirectory => "not a directory"
  | .alreadyExists => "file exists"
  | .invalidText => "not a text"
  | .refused => "refused by the system"

def message : StoreError → String
  | malformed format => "not " ++ format.name
  | notGroups format found =>
    "Expected " ++ tableWord format ++ " of sections, found " ++ found
  | notTable format group found =>
    "Section [" ++ group ++ "] must be " ++ tableWord format ++ ", found " ++ found
  | notScalar found => "Expected a scalar, found " ++ found
  | notScalarAt group id found =>
    (StoreStep.readingText group id).message ++ ": expected a scalar, found " ++ found
  | missingFile path => "No settings file at " ++ path
  | file failure => fileMessage failure
  | setting error => error.message
  | during step _ => step.message

/-- The error and everything that caused it, outermost first. -/
def chain : StoreError → List StoreError
  | during step cause => during step cause :: cause.chain
  | setting error => error.chain.map setting
  | e => [e]

/-- The result of a step, of which a failure is told to have stopped it. -/
def within {α : Type} (step : StoreStep) : Except StoreError α → Except StoreError α
  | .ok a => .ok a
  | .error e => .error (during step e)

/-- The result of an operation on settings. -/
def ofSetting {α : Type} : Except SettingError α → Except StoreError α
  | .ok a => .ok a
  | .error e => .error (setting e)

theorem within_eq_ok_iff {α : Type} {step : StoreStep} {x : Except StoreError α} {a : α} :
    within step x = .ok a ↔ x = .ok a := by
  cases x with
  | ok b => rfl
  | error e => simp [within]

theorem ofSetting_eq_ok_iff {α : Type} {x : Except SettingError α} {a : α} :
    ofSetting x = .ok a ↔ x = .ok a := by
  cases x with
  | ok b => simp [ofSetting]
  | error e => simp [ofSetting]

end StoreError
end NodeSettings
