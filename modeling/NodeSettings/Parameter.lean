import NodeSettings.Error
import NodeSettings.Pattern.Parser

/-!
Parameters: a declaration, which no assignment changes, and the current value. Every way of giving a
parameter a value goes through `check`: `assign_value`.
-/

namespace NodeSettings

/-- One value that a choice may take. -/
structure Choice where
  name : String
  description : String
  value : Value
deriving DecidableEq

/-- Inclusive bounds of a number, of which either may be open. -/
structure Range where
  least : Option Binary64
  most : Option Binary64
deriving DecidableEq

def Range.contains (r : Range) (x : Binary64) : Bool :=
  r.least.all (·.le x) && r.most.all x.le

/-- A table of defaults; the one for `all` counts where a network has none of its own. -/
structure Defaults where
  all : Option Value := none
  mainnet : Option Value := none
  prater : Option Value := none
deriving DecidableEq

namespace Defaults

/-- The same default on every network. -/
def always (v : Value) : Defaults := { all := some v }

def get? (d : Defaults) : Network → Option Value
  | .all => d.all
  | .mainnet => d.mainnet
  | .prater => d.prater

/-- Sets or removes the entry of a network. -/
def set (d : Defaults) (network : Network) (v : Option Value) : Defaults :=
  match network with
  | .all => { d with all := v }
  | .mainnet => { d with mainnet := v }
  | .prater => { d with prater := v }

/-- The default that counts on a network. -/
def resolve? (d : Defaults) (network : Network) : Option Value :=
  (d.get? network).or d.all

@[simp] theorem get?_set (d : Defaults) (m n : Network) (v : Option Value) :
    (d.set m v).get? n = if n = m then v else d.get? n := by
  cases m <;> cases n <;> rfl

end Defaults

/-- What a parameter is, apart from its value. -/
structure Declaration where
  id : String
  name : String
  kind : Kind
  description : String := ""
  defaults : Defaults := {}
  choices : List Choice := []
  /-- The containers that a change restarts. -/
  affects : List Container := []
  /-- The environment variables that show the value. -/
  shownAs : List String := []
  canBeBlank : Bool := false
  overwriteOnUpgrade : Bool := false
  pattern : Option String := none
  maxLength : Option Nat := none
  range : Option Range := none
deriving DecidableEq

namespace Declaration

def checkChoice (d : Declaration) (v : Value) : Except SettingError Unit :=
  if d.choices.any fun c => c.value.agrees v then .ok ()
  else .error (.violation d.id (.notAnOption v.text))

def checkLength (d : Declaration) (s : String) : Except SettingError Unit :=
  match d.maxLength with
  | some limit =>
    if limit < s.length then .error (.violation d.id (.tooLong s.length limit)) else .ok ()
  | none => .ok ()

/-- An empty text is not held against the pattern. -/
def checkPattern (d : Declaration) (s : String) : Except SettingError Unit :=
  match d.pattern with
  | some pattern =>
    if s.isEmpty then .ok ()
    else
      match Pattern.parse? pattern with
      | none => .error (.violation d.id (.badPattern pattern))
      | some p => if p.occursIn s then .ok () else .error (.violation d.id (.noMatch s pattern))
  | none => .ok ()

def checkRange (d : Declaration) (v : Value) : Except SettingError Unit :=
  match d.range, v.asNumber? with
  | some range, some x =>
    if range.contains x then .ok () else .error (.violation d.id (.outOfRange x))
  | _, _ => .ok ()

/-- Whether a parameter may hold a value: its kind first, then the rules for the kind. -/
def check (d : Declaration) (v : Value) : Except SettingError Unit :=
  if v.kind ≠ d.kind then .error (.notConvertible d.id d.kind v.text)
  else
    match v with
    | .choice _ => do d.checkChoice v; d.checkRange v
    | .string s => do d.checkLength s; d.checkPattern s; d.checkRange v
    | _ => d.checkRange v

/-- The default that counts on a network. -/
def resolveDefault (d : Declaration) (network : Network) : Except SettingError Value :=
  match d.defaults.resolve? network with
  | some v => .ok v
  | none => .error (.missingDefault d.id network)

/-- What the parameter holds before any default: the first choice, if there are choices. -/
def initialValue (d : Declaration) : Value :=
  match d.choices with
  | c :: _ => c.value
  | [] => .zero d.kind

end Declaration

/-- A declared setting and its value. -/
structure Parameter extends Declaration where
  value : Value
deriving DecidableEq

namespace Parameter

/-- A parameter as declared, before any default. -/
def ofDeclaration (d : Declaration) : Parameter := ⟨d, d.initialValue⟩

def text (p : Parameter) : String := p.value.text

/-- Whether the parameter holds an empty string. -/
def isBlank (p : Parameter) : Bool :=
  p.kind == .string && p.value.asString? == some ""

/-- Gives the parameter a value that it may hold. -/
def assign (p : Parameter) (v : Value) : Except SettingError Parameter := do
  p.check v
  return { p with value := v }

/-- Gives the parameter the value that a text denotes. -/
def assignText (p : Parameter) (raw : String) : Except SettingError Parameter :=
  match Value.parse? p.kind raw with
  | some v => p.assign v
  | none => .error (.notConvertible p.id p.kind raw)

/-- Gives the parameter its default for a network. -/
def reset (p : Parameter) (network : Network) : Except SettingError Parameter := do
  let v ← p.resolveDefault network
  p.assign v

/-- Whether the parameter holds its default for a network. -/
def isAtDefault (p : Parameter) (network : Network) : Bool :=
  (p.defaults.resolve? network).any fun v => v.agrees p.value

/-- On a change of network, moves a value that is still at the old default to the new one. -/
def follow (p : Parameter) (before after : Network) : Except SettingError Parameter :=
  if before = after then .ok p
  else if p.isAtDefault before then p.reset after
  else .ok p

/-- Takes a stored text, or the default where none is stored. -/
def load (p : Parameter) (stored : Option String) (network : Network) :
    Except SettingError Parameter :=
  match stored with
  | some raw => p.assignText raw
  | none => p.reset network

theorem assign_value {p q : Parameter} {v : Value} (h : p.assign v = .ok q) :
    p.check v = .ok () ∧ q = { p with value := v } := by
  unfold assign at h
  cases c : p.check v with
  | error e => simp [c, bind, Except.bind] at h
  | ok u =>
    simp only [c, bind, Except.bind, pure, Except.pure, Except.ok.injEq] at h
    exact ⟨rfl, h.symm⟩

end Parameter
end NodeSettings
