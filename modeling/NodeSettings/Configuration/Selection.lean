import NodeSettings.Configuration.Basic

/-!
Which clients are selected, and which groups are in use because of that. The list of groups in use,
the external client and the question about doppelgangers each have a table of their own from clients
to groups; that they agree with those of the selected groups is `executionGroups_eq` and its like.
-/

namespace NodeSettings

/-- The group of a locally managed execution client. -/
def ExecutionClient.group : ExecutionClient → Group
  | geth => .geth
  | nethermind => .nethermind
  | besu => .besu
  | infura => .infura
  | pocket => .pocket

/-- The group of a locally managed fallback client; only light clients can be one. -/
def ExecutionClient.fallbackGroup? : ExecutionClient → Option Group
  | infura => some .fallbackInfura
  | pocket => some .fallbackPocket
  | _ => none

/-- The group of a locally managed consensus client. -/
def ConsensusClient.group : ConsensusClient → Group
  | lighthouse => .lighthouse
  | nimbus => .nimbus
  | prysm => .prysm
  | teku => .teku

/-- The group of an externally managed consensus client; Nimbus cannot be one. -/
def ConsensusClient.externalGroup? : ConsensusClient → Option Group
  | lighthouse => some .externalLighthouse
  | nimbus => none
  | prysm => some .externalPrysm
  | teku => some .externalTeku

/-- What is listed as in use for a locally managed execution client. -/
def ExecutionClient.listed : ExecutionClient → Group
  | geth => .geth
  | nethermind => .nethermind
  | besu => .besu
  | infura => .infura
  | pocket => .pocket

/-- What is listed as in use for a locally managed consensus client. -/
def ConsensusClient.listed : ConsensusClient → Group
  | lighthouse => .lighthouse
  | nimbus => .nimbus
  | prysm => .prysm
  | teku => .teku

@[simp] theorem ExecutionClient.listed_eq (client : ExecutionClient) :
    client.listed = client.group := by
  cases client <;> rfl

@[simp] theorem ConsensusClient.listed_eq (client : ConsensusClient) :
    client.listed = client.group := by
  cases client <;> rfl

namespace Configuration

def executionMode (c : Configuration) : Mode :=
  (c.named? Mode .root "executionClientMode").getD .locallyManaged

def executionClient (c : Configuration) : ExecutionClient :=
  (c.named? ExecutionClient .root "executionClient").getD .geth

def usesFallback (c : Configuration) : Bool := c.flag .root "useFallbackExecutionClient"

def fallbackMode (c : Configuration) : Mode :=
  (c.named? Mode .root "fallbackExecutionClientMode").getD .locallyManaged

def fallbackClient (c : Configuration) : ExecutionClient :=
  (c.named? ExecutionClient .root "fallbackExecutionClient").getD .pocket

def consensusMode (c : Configuration) : Mode :=
  (c.named? Mode .root "consensusClientMode").getD .locallyManaged

def consensusClient (c : Configuration) : ConsensusClient :=
  (c.named? ConsensusClient .root "consensusClient").getD .nimbus

def externalConsensusClient (c : Configuration) : ConsensusClient :=
  (c.named? ConsensusClient .root "externalConsensusClient").getD .lighthouse

def usesMetrics (c : Configuration) : Bool := c.flag .root "enableMetrics"

def usesBitfly (c : Configuration) : Bool := c.flag .root "enableBitflyNodeMetrics"

def usesGraffitiWall (c : Configuration) : Bool := c.flag .graffitiWall "enabled"

/-- The client beside a natively run node. -/
def nativeConsensusClient? (c : Configuration) : Option ConsensusClient :=
  c.named? ConsensusClient .native "consensusClient"

/-- The group of the locally managed primary execution client, if there is one. -/
def executionGroup? (c : Configuration) : Option Group :=
  if c.isNative || c.executionMode != .locallyManaged then none
  else some c.executionClient.group

/-- The group of the locally managed fallback execution client, if one is in use. -/
def fallbackGroup? (c : Configuration) : Option Group :=
  if c.isNative || !c.usesFallback || c.fallbackMode != .locallyManaged then none
  else c.fallbackClient.fallbackGroup?

/-- A consensus client that is managed somewhere, and the group with its settings. -/
structure SelectedConsensus where
  client : ConsensusClient
  group : Group
  mode : Mode
deriving DecidableEq

private def noConsensus : SettingError := .notInNativeMode "consensus client configuration"

private def notExternal (client : ConsensusClient) : SettingError :=
  .unknownName "external consensus client" client.name

/-- The selected consensus client, local or external. -/
def selectedConsensus (c : Configuration) : Except SettingError SelectedConsensus :=
  if c.isNative then .error noConsensus
  else
    match c.consensusMode with
    | .locallyManaged =>
      .ok ⟨c.consensusClient, c.consensusClient.group, .locallyManaged⟩
    | .externallyManaged =>
      match c.externalConsensusClient.externalGroup? with
      | some group => .ok ⟨c.externalConsensusClient, group, .externallyManaged⟩
      | none => .error (notExternal c.externalConsensusClient)

/-- The externally managed consensus client, if one is selected. -/
def externalConsensus? (c : Configuration) : Option SelectedConsensus :=
  if c.isNative || c.consensusMode != .externallyManaged then none
  else
    match c.externalConsensusClient with
    | .lighthouse => some ⟨.lighthouse, .externalLighthouse, .externallyManaged⟩
    | .prysm => some ⟨.prysm, .externalPrysm, .externallyManaged⟩
    | .teku => some ⟨.teku, .externalTeku, .externallyManaged⟩
    | .nimbus => none

theorem externalConsensus?_eq (c : Configuration) :
    c.externalConsensus? =
      match c.selectedConsensus with
      | .ok selected => if selected.mode = .externallyManaged then some selected else none
      | .error _ => none := by
  unfold externalConsensus? selectedConsensus
  cases c.isNative with
  | true => rfl
  | false =>
    cases c.consensusMode with
    | locallyManaged => rfl
    | externallyManaged => cases c.externalConsensusClient <;> rfl

/-- The address of the external consensus client. -/
def externalAddress? (c : Configuration) : Option String :=
  c.externalConsensus?.map fun selected => c.text selected.group "httpUrl"

/-- The image of the validator beside a consensus client. Local Prysm has one for it alone. -/
def imageOf (c : Configuration) (selected : SelectedConsensus) : String :=
  c.text selected.group (if selected.group = .prysm then "vcContainerTag" else "containerTag")

/-- The image that the validator container runs. -/
def validatorImage (c : Configuration) : Except SettingError String := do
  return c.imageOf (← c.selectedConsensus)

/-- A change that would restart one container restarts another in its place. -/
structure Redirect where
  source : Container
  target : Container
deriving DecidableEq

/-- Nimbus does the validator's work in its own container. -/
def redirectsOf (consensusGroup : Group) : List Redirect :=
  if consensusGroup = .nimbus then [⟨.validator, .eth2⟩] else []

/-- Only a locally managed client redirects restarts. -/
def redirects (c : Configuration) : List Redirect :=
  if c.isNative || c.consensusMode != .locallyManaged then []
  else redirectsOf c.consensusClient.group

/-- The shared settings that an execution client has no use for: Pocket serves HTTP only. -/
def ignoredBy (executionGroup : Group) : List String :=
  if executionGroup = .pocket ∨ executionGroup = .fallbackPocket then ["wsPort"] else []

/-- The shared settings that a consensus client has no use for: every client uses them all. -/
def ignoredByConsensus (_client : ConsensusClient) : List String := []

/-- The shared settings of a group that the selected client has no use for. -/
def ignored (c : Configuration) (group : Group) : List String :=
  match group with
  | .executionCommon => (c.executionGroup?.map ignoredBy).getD []
  | .fallbackExecutionCommon => (c.fallbackGroup?.map ignoredBy).getD []
  | .consensusCommon => ignoredByConsensus c.consensusClient
  | _ => []

/-- How a locally managed execution client is told to stop. -/
def stopSignal (executionGroup : Group) : String :=
  if executionGroup = .geth then "SIGINT" else "SIGTERM"

/-- How many blocks one request for event logs may span; external clients get the limit of Geth. -/
def logInterval (c : Configuration) : Nat :=
  (c.profiles (c.executionGroup?.getD .geth)).logInterval

/-- Whether the validator looks for doppelgangers. Teku never does. -/
def detectsDoppelgangers (c : Configuration) : Except SettingError Bool :=
  let detects (group : Group) : Except SettingError Bool :=
    .ok (c.flag group "doppelgangerDetection")
  if c.isNative then .error noConsensus
  else
    match c.consensusMode with
    | .locallyManaged =>
      match c.consensusClient with
      | .teku => .ok false
      | _ => detects .consensusCommon
    | .externallyManaged =>
      match c.externalConsensusClient with
      | .lighthouse => detects .externalLighthouse
      | .prysm => detects .externalPrysm
      | .teku => .ok false
      | .nimbus => .error (notExternal .nimbus)

theorem detectsDoppelgangers_eq (c : Configuration) :
    c.detectsDoppelgangers = do
      let selected ← c.selectedConsensus
      if selected.client = .teku then return false
      return match selected.mode with
        | .locallyManaged => c.flag .consensusCommon "doppelgangerDetection"
        | .externallyManaged => c.flag selected.group "doppelgangerDetection" := by
  unfold detectsDoppelgangers selectedConsensus
  cases c.isNative with
  | true => rfl
  | false =>
    cases c.consensusMode with
    | locallyManaged => cases c.consensusClient <;> rfl
    | externallyManaged => cases c.externalConsensusClient <;> rfl

/-- The groups in use for the primary execution client. -/
def executionGroups (c : Configuration) : List Group :=
  match c.executionMode with
  | .locallyManaged => [.executionCommon, c.executionClient.listed]
  | .externallyManaged => [.externalExecution]

/-- The groups in use for the fallback execution client. -/
def fallbackGroups (c : Configuration) : List Group :=
  if c.usesFallback then
    match c.fallbackMode, c.fallbackClient with
    | .locallyManaged, .infura => [.fallbackExecutionCommon, .fallbackInfura]
    | .locallyManaged, .pocket => [.fallbackExecutionCommon, .fallbackPocket]
    | .locallyManaged, _ => [.fallbackExecutionCommon]
    | .externallyManaged, _ => [.fallbackExternalExecution]
  else []

/-- The groups in use for the consensus client. -/
def consensusGroups (c : Configuration) : List Group :=
  match c.consensusMode with
  | .locallyManaged => [.consensusCommon, c.consensusClient.listed]
  | .externallyManaged =>
    match c.externalConsensusClient with
    | .lighthouse => [.externalLighthouse]
    | .prysm => [.externalPrysm]
    | .teku => [.externalTeku]
    | .nimbus => []

theorem executionGroups_eq (c : Configuration) :
    c.executionGroups =
      match c.executionMode with
      | .locallyManaged => [.executionCommon, c.executionClient.group]
      | .externallyManaged => [.externalExecution] := by
  unfold executionGroups
  rw [ExecutionClient.listed_eq]

theorem fallbackGroups_eq (c : Configuration) :
    c.fallbackGroups =
      if c.usesFallback then
        match c.fallbackMode with
        | .locallyManaged => .fallbackExecutionCommon :: c.fallbackClient.fallbackGroup?.toList
        | .externallyManaged => [.fallbackExternalExecution]
      else [] := by
  unfold fallbackGroups
  cases c.fallbackMode with
  | locallyManaged => cases c.fallbackClient <;> rfl
  | externallyManaged => rfl

theorem consensusGroups_eq (c : Configuration) :
    c.consensusGroups =
      match c.consensusMode with
      | .locallyManaged => [.consensusCommon, c.consensusClient.group]
      | .externallyManaged => c.externalConsensusClient.externalGroup?.toList := by
  unfold consensusGroups
  rw [ConsensusClient.listed_eq]
  cases c.consensusMode with
  | locallyManaged => rfl
  | externallyManaged => cases c.externalConsensusClient <;> rfl

/-- The groups in use: the ones shown in the environment and held to being filled in. -/
def activeGroups (c : Configuration) : List Group :=
  if c.isNative then [.smartnode, .native]
  else
    [.smartnode] ++ c.executionGroups ++ c.fallbackGroups ++ c.consensusGroups
      ++ (if c.usesMetrics then [.grafana, .prometheus, .exporter] else [])
      ++ (if c.usesBitfly then [.bitflyNodeMetrics] else [])
      ++ (if c.usesGraffitiWall then [.graffitiWall] else [])

/-- Where the node daemon finds a file: its own data path natively, a fixed one in a container. -/
def dataFile (c : Configuration) (file : Catalog.DataFile) : String :=
  if c.isNative then
    Path.join (((c.value? .smartnode "dataPath").bind Value.asString?).getD "") file.name
  else Path.join Catalog.containerDataPath file.name

end Configuration
end NodeSettings
