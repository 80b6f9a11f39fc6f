import NodeSettings.Configuration.Basic

/-!
What a configuration can be asked to do, and how that is done in place. A change of all settings
goes from one to the next and stops where one fails, with those before it changed. So operations
work on a copy, which takes the place of the configuration once all of the work has succeeded.
-/

namespace NodeSettings

/-- What a configuration can be asked to do. -/
inductive Operation where
  | assign (group : Group) (id : String) (value : Value)
  | assignText (group : Group) (id : String) (raw : String)
  | switchNetwork (network : Network)
  | resetAll
  | refresh
  | load (stored : Document)

/-- Makes a change on a copy of the state. The copy takes the state's place if the change succeeds;
an error leaves it behind as far as the change came. -/
def commit {ε σ : Type} (change : EStateM ε σ Unit) : EStateM ε σ Unit := do
  match change.run (← get) with
  | .ok _ next => set next
  | .error e _ => throw e

/-- Changes settings one after the other, up to the first that fails. A parameter is written once,
behind its checks. -/
def changeSettings (f : Group → Parameter → Except SettingError Parameter) :
    List Setting → EStateM.Result SettingError (List Setting) Unit
  | [] => .ok () []
  | s :: rest =>
    match f s.group s.parameter with
    | .ok p =>
      match changeSettings f rest with
      | .ok _ changed => .ok () ({ s with parameter := p } :: changed)
      | .error e changed => .error e ({ s with parameter := p } :: changed)
    | .error e => .error (.inGroup s.group e) (s :: rest)

namespace Configuration

/-- Gives the parameter with a key a value. Where there is no such parameter nothing happens. -/
def assignAt (c : Configuration) (group : Group) (id : String)
    (f : Parameter → Except SettingError Parameter) : Except SettingError Configuration :=
  match c.find? group id with
  | some p => c.assignWith group p f
  | none => .ok c

/-- What an operation makes of a configuration, or why it fails. -/
def run (c : Configuration) : Operation → Except SettingError Configuration
  | .assign group id v => c.assignAt group id (·.assign v)
  | .assignText group id raw => c.assignAt group id (·.assignText raw)
  | .switchNetwork network => c.switchNetwork network
  | .resetAll => c.resetAll
  | .refresh => c.refresh
  | .load stored => c.load stored

end Configuration

namespace Operation

open NodeSettings.Configuration (storedNative storedNetwork directoryKey versionKey)

/-- Changes every parameter, one after the other. -/
def changeEach (f : Group → Parameter → Except SettingError Parameter) :
    EStateM SettingError Configuration Unit := do
  let c ← get
  match changeSettings f c.settings with
  | .ok _ settings => set { c with settings }
  | .error e settings =>
    set { c with settings }
    throw e

/-- The value is checked before anything is written. -/
def assignInPlace (group : Group) (id : String) (v : Value) :
    EStateM SettingError Configuration Unit := do
  match (← get).find? group id with
  | some p =>
    MonadExcept.ofExcept (p.check v)
    modify fun c => c.modify group id fun _ => { p with value := v }
  | none => return

def assignTextInPlace (group : Group) (id raw : String) :
    EStateM SettingError Configuration Unit := do
  match (← get).find? group id with
  | some p =>
    match Value.parse? p.kind raw with
    | some v => assignInPlace group id v
    | none => throw (.notConvertible p.id p.kind raw)
  | none => return

def switchNetworkInPlace (network : Network) : EStateM SettingError Configuration Unit := do
  let old := (← get).network
  if old = network then return
  commit do
    changeEach fun group p =>
      if group = .smartnode ∧ p.id = "network" then p.assign (.ofNamed network) else .ok p
    changeEach fun _ p => p.follow old network

def resetAllInPlace : EStateM SettingError Configuration Unit := do
  let network := (← get).network
  commit do
    modify Configuration.rebase
    changeEach fun _ p => p.reset network

def refreshInPlace : EStateM SettingError Configuration Unit := do
  let network := (← get).network
  commit do
    changeEach fun _ p => if p.overwriteOnUpgrade then p.reset network else .ok p

/-- Takes over what a document says beside its settings. -/
def adopt (d : Document) : EStateM SettingError Configuration Unit := do
  modify fun c =>
    { c with directory := (d.text? Group.root.key directoryKey).getD c.directory }
  let isNative ← MonadExcept.ofExcept (storedNative d (← get).isNative)
  modify fun c => { c with isNative }
  modify fun c => { c with version := (d.text? Group.root.key versionKey).getD c.version }

def loadInPlace (stored : Document) : EStateM SettingError Configuration Unit := do
  let d ← MonadExcept.ofExcept stored.upgrade
  let network ← MonadExcept.ofExcept (storedNetwork d)
  let take (p : Parameter) (group : Group) := p.load (d.text? group.key p.id) network
  commit do
    changeEach fun group p => if group = .root then take p group else .ok p
    adopt d
    modify Configuration.rebase
    changeEach fun group p => if group = .root then .ok p else take p group

/-- An operation as it is done in place. -/
def perform : Operation → EStateM SettingError Configuration Unit
  | .assign group id v => assignInPlace group id v
  | .assignText group id raw => assignTextInPlace group id raw
  | .switchNetwork network => switchNetworkInPlace network
  | .resetAll => resetAllInPlace
  | .refresh => refreshInPlace
  | .load stored => loadInPlace stored

end Operation

/-- The configuration that an operation leaves, whether it succeeds or fails. -/
def Configuration.after (c : Configuration) (o : Operation) : Configuration :=
  match o.perform.run c with
  | .ok _ c' | .error _ c' => c'

end NodeSettings
