import NodeSettings.Group
import NodeSettings.Text.Quoted
import NodeSettings.Value.Basic

/-!
What can go wrong with a setting or a stored document, and how it is told.
-/

namespace NodeSettings

open Text

/-- Which rule of a parameter a value breaks. -/
inductive Violation where
  | notAnOption (value : String)
  | tooLong (length limit : Nat)
  | badPattern (pattern : String)
  | noMatch (text pattern : String)
  | outOfRange (number : Binary64)
  | badDuration (text : String)
deriving DecidableEq

def Violation.message : Violation → String
  | notAnOption value => "Choice(" ++ quote value ++ ") is not one of the available options"
  | tooLong length limit =>
    "value is " ++ toString length ++ " characters long, the limit is " ++ toString limit
  | badPattern pattern => "invalid pattern " ++ quote pattern ++ ":"
  | noMatch text pattern => quote text ++ " does not match " ++ quote pattern
  | outOfRange number => number.text Value.numberLayout ++ " is out of range"
  | badDuration text => quote text ++ " is not a valid duration"

inductive SettingError where
  /-- A parameter has no default for a network. -/
  | missingDefault (id : String) (network : Network)
  /-- A text denotes no value of the expected kind, or a value is of another kind. -/
  | notConvertible (id : String) (expected : Kind) (value : String)
  /-- A value of the right kind breaks a rule of its parameter. -/
  | violation (id : String) (rule : Violation)
  /-- A document's layout is newer than the newest known one. -/
  | unsupportedVersion (found supported : String)
  /-- A document's stamp is no version. -/
  | invalidVersion (stamp : String)
  /-- No member of a closed set has this name. -/
  | unknownName (set name : String)
  /-- Natively run nodes have no such thing. -/
  | notInNativeMode (what : String)
  /-- Something went wrong in a group. -/
  | inGroup (group : Group) (cause : SettingError)
deriving DecidableEq

namespace SettingError

def message : SettingError → String
  | missingDefault id network =>
    "parameter [" ++ id ++ "] has no default for network [" ++ network.name ++ "]"
  | notConvertible id expected value =>
    "parameter [" ++ id ++ "]: cannot convert " ++ quote value ++ " to " ++ expected.name
  | violation id rule => "parameter [" ++ id ++ "]: " ++ rule.message
  | unsupportedVersion found supported =>
    "settings version " ++ found ++ " is newer than the newest supported version " ++ supported
  | invalidVersion stamp => "invalid settings version " ++ quote stamp
  | unknownName set name => "unknown " ++ set ++ " " ++ quote name
  | notInNativeMode what => what ++ " is not available in native mode"
  | inGroup group cause => "error in [" ++ group.key ++ "]: " ++ cause.message

/-- The innermost error. -/
def rootCause : SettingError → SettingError
  | inGroup _ cause => cause.rootCause
  | e => e

/-- The error and everything that caused it, outermost first. -/
def chain : SettingError → List SettingError
  | inGroup group cause => inGroup group cause :: cause.chain
  | e => [e]

end SettingError

/-- The member of a closed set with a name. -/
def Named.parse {α : Type} [Named α] (set name : String) : Except SettingError α :=
  match Named.find? name with
  | some a => .ok a
  | none => .error (.unknownName set name)

end NodeSettings
