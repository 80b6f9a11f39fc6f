import NodeSettings.Catalog.Basic
import NodeSettings.Document.Upgrade

/-!
The configuration of a node: every setting of the catalog with its value, and what operations on all
settings do. An operation either succeeds on every setting or changes nothing.
-/

namespace NodeSettings

/-- A parameter in its group. -/
structure Setting where
  group : Group
  parameter : Parameter
deriving DecidableEq

/-- What is known of an execution client beside its settings. -/
structure ExecutionProfile where
  /-- The consensus clients it can be paired with; none listed means any. -/
  compatible : List ConsensusClient
  /-- How many blocks one request for event logs may span. -/
  logInterval : Nat
deriving DecidableEq

structure Configuration where
  /-- The stamp of the layout that the settings were last read from. -/
  version : String
  directory : String
  isNative : Bool
  /-- Every setting: the top-level ones first, then group by group in display order. -/
  settings : List Setting
  profiles : Group → ExecutionProfile

namespace Configuration

/-- The settings as declared, before any default. -/
def declared (directory : String) (isNative : Bool) : Configuration where
  version := Version.current.stamp
  directory := directory
  isNative := isNative
  settings := Group.all.flatMap fun group =>
    (Catalog.declarations directory group).map fun d => ⟨group, .ofDeclaration d⟩
  profiles := fun _ => ⟨ConsensusClient.all, 25000⟩

/-- The parameters of a group, in display order. -/
def parameters (c : Configuration) (group : Group) : List Parameter :=
  (c.settings.filter (·.group = group)).map (·.parameter)

/-- The parameter of a group with an id. -/
def find? (c : Configuration) (group : Group) (id : String) : Option Parameter :=
  (c.parameters group).find? (·.id = id)

def value? (c : Configuration) (group : Group) (id : String) : Option Value :=
  (c.find? group id).map (·.value)

/-- The text of a setting. -/
def text (c : Configuration) (group : Group) (id : String) : String :=
  ((c.find? group id).map (·.text)).getD ""

/-- Whether a setting is switched on. -/
def flag (c : Configuration) (group : Group) (id : String) : Bool :=
  ((c.value? group id).bind Value.asBool?).getD false

/-- The port that a setting names. -/
def port (c : Configuration) (group : Group) (id : String) : Nat :=
  (((c.value? group id).bind Value.asUInt16?).map UInt16.toNat).getD 0

/-- The member of a closed set that a setting names. -/
def named? (c : Configuration) (α : Type) [Named α] (group : Group) (id : String) : Option α :=
  (c.value? group id).bind Value.named?

/-- The network that the node runs against. -/
def network (c : Configuration) : Network :=
  (c.named? Network .smartnode "network").getD .primary

/-- Changes every parameter, or none if one of the changes fails. -/
def traverse (c : Configuration) (f : Group → Parameter → Except SettingError Parameter) :
    Except SettingError Configuration := do
  let settings ← c.settings.mapM fun s =>
    match f s.group s.parameter with
    | .ok p => .ok { s with parameter := p }
    | .error e => .error (SettingError.inGroup s.group e)
  return { c with settings }

/-- Changes the parameter of a group with an id. -/
def modify (c : Configuration) (group : Group) (id : String) (f : Parameter → Parameter) :
    Configuration :=
  { c with
    settings := c.settings.map fun s =>
      if s.group = group ∧ s.parameter.id = id then { s with parameter := f s.parameter } else s }

/-- Has the default of the data path follow the base directory; its value stays. -/
def rebase (c : Configuration) : Configuration :=
  c.modify .smartnode "dataPath" fun p =>
    { p with defaults := p.defaults.set .all (some (.string (Catalog.dataPath c.directory))) }

/-- Gives every setting its default for the current network. -/
def resetAll (c : Configuration) : Except SettingError Configuration :=
  c.rebase.traverse fun _ p => p.reset c.network

/-- A configuration in which every setting has its default. -/
def fresh (directory : String) (isNative : Bool) : Except SettingError Configuration :=
  (declared directory isNative).resetAll

/-- Gives the settings that track the software's version their defaults; the others stay. -/
def refresh (c : Configuration) : Except SettingError Configuration :=
  c.traverse fun _ p => if p.overwriteOnUpgrade then p.reset c.network else .ok p

/-- Chooses another network. Settings at their default for the old one get that for the new one. -/
def switchNetwork (c : Configuration) (network : Network) : Except SettingError Configuration := do
  let old := c.network
  if old = network then return c
  let chosen ← c.traverse fun group p =>
    if group = .smartnode ∧ p.id = "network" then p.assign (.ofNamed network) else .ok p
  chosen.traverse fun _ p => p.follow old network

/-- Gives one setting a value, and reports a failure without its group. -/
def assignWith (c : Configuration) (group : Group) (p : Parameter)
    (f : Parameter → Except SettingError Parameter) : Except SettingError Configuration := do
  let q ← f p
  return c.modify group p.id fun _ => q

def directoryKey : String := "rpDir"
def nativeKey : String := "isNative"
def versionKey : String := "version"

/-- What a group has stored: a text for each setting. -/
def groupTable (c : Configuration) (group : Group) : Table String :=
  .ofList ((c.parameters group).map fun p => (p.id, p.text))

/-- The document to store, stamped as of the current layout. -/
def document (c : Configuration) : Document :=
  let services := Group.services.foldl (fun d g => d.insert g.key (c.groupTable g)) (∅ : Document)
  services.insert Group.root.key
    ((((c.groupTable .root).insert directoryKey c.directory).insert nativeKey
      (Value.bool c.isNative).text).insert versionKey Version.current.stamp)

/-- The network that a document names. -/
def storedNetwork (d : Document) : Except SettingError Network :=
  match d.text? Group.smartnode.key "network" with
  | some raw =>
    match Named.parse "network" raw with
    | .ok network => .ok network
    | .error e => .error (.inGroup .smartnode e)
  | none => .ok .primary

/-- Whether a document is of a natively run node; `otherwise` if it does not say. -/
def storedNative (d : Document) (otherwise : Bool) : Except SettingError Bool :=
  match d.text? Group.root.key nativeKey with
  | some raw =>
    match (Value.parse? .bool raw).bind Value.asBool? with
    | some b => .ok b
    | none => .error (.inGroup .root (.notConvertible nativeKey .bool raw))
  | none => .ok otherwise

/-- Reads all settings from a document; one that is not stored gets its default. -/
def load (c : Configuration) (stored : Document) : Except SettingError Configuration := do
  let d ← stored.upgrade
  let network ← storedNetwork d
  let take (p : Parameter) (group : Group) := p.load (d.text? group.key p.id) network
  let top ← c.traverse fun group p => if group = .root then take p group else .ok p
  let isNative ← storedNative d c.isNative
  let based : Configuration := { top with
    isNative
    directory := (d.text? Group.root.key directoryKey).getD c.directory
    version := (d.text? Group.root.key versionKey).getD c.version }
  based.rebase.traverse fun group p => if group = .root then .ok p else take p group

end Configuration
end NodeSettings
