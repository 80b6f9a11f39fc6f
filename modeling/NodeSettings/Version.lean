import NodeSettings.Error
import NodeSettings.Text.Fields

/-!
Versions of the stored layout and the stamps that name them. A stamp may lack its leading `v` and
may name a pre-release, which counts as its release.
-/

namespace NodeSettings

open Text

attribute [local instance (high)] instPowNat

structure Version where
  major : UInt32
  minor : UInt32
  patch : UInt32
deriving DecidableEq

namespace Version

/-- The layout of documents without a stamp. -/
def unstamped : Version := ⟨0, 0, 0⟩

/-- The layout that is read and written. -/
def current : Version := ⟨1, 5, 0⟩

def text (v : Version) : String :=
  toString v.major.toNat ++ "." ++ toString v.minor.toNat ++ "." ++ toString v.patch.toNat

/-- What a document is stamped with. -/
def stamp (v : Version) : String := "v" ++ v.text

/-- Order by major number, then minor, then patch. -/
def compare (v w : Version) : Ordering :=
  (Ord.compare v.major.toNat w.major.toNat).then
    ((Ord.compare v.minor.toNat w.minor.toNat).then (Ord.compare v.patch.toNat w.patch.toNat))

/-- Whether `v` comes before `w`. -/
def isBefore (v w : Version) : Bool := v.compare w == .lt

/-- One number of a version: an optional `+`, then digits, below `2 ^ 32`. -/
def number? (field : List Char) : Option UInt32 :=
  match readNat? field with
  | some n => if n < 2 ^ (32 : Nat) then some (.ofNat n) else none
  | none => none

/-- The numbers of a stamp: blanks around it, one leading `v` and everything from the first `-` on
are left out. -/
def ofStamp? (stamp : String) : Option Version :=
  let trimmed := trimChars stamp.toList
  let bare := match trimmed with
    | 'v' :: rest => rest
    | cs => cs
  match (fields '.' (bare.takeWhile (· != '-'))).map number? with
  | [some major, some minor, some patch] => some ⟨major, minor, patch⟩
  | _ => none

def parse (stamp : String) : Except SettingError Version :=
  match ofStamp? stamp with
  | some v => .ok v
  | none => .error (.invalidVersion stamp)

example : ofStamp? " v1.2.3-rc1 " = some ⟨1, 2, 3⟩ := by decide +kernel
example : ofStamp? "1.2" = none := by decide +kernel

end Version
end NodeSettings
