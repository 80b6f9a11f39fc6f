import NodeSettings.Table
import NodeSettings.Version

/-!
Bringing a stored document of an older layout up to the current one. Each layout that moved texts
has a step; a document takes the steps that are newer than its stamp, oldest first. A text that
already stands where another is moved to stays.
-/

namespace NodeSettings.Document

/-- Puts a text at a place, and a group around it where there is none, unless the place is taken. -/
def putIfNew (d : Document) (group id text : String) : Document :=
  d.insert group (((d.get? group).getD ∅).insertIfNew id text)

/-- Takes the text away from a place. -/
def removeText (d : Document) (group id : String) : Document :=
  match d.get? group with
  | some table => d.insert group (table.erase id)
  | none => d

/-- Moves a text, if there is one, to a place in the same or another group. -/
def moveText (d : Document) (group id toGroup toId : String) : Document :=
  match d.text? group id with
  | some text => (d.removeText group id).putIfNew toGroup toId text
  | none => d

/-- Moves all texts of a group to another one, which then exists even if it is empty. -/
def moveGroup (d : Document) (group toGroup : String) : Document :=
  match d.get? group with
  | some table =>
    let rest : Document := d.erase group
    rest.insert toGroup
      (table.entries.foldl (fun t e => t.insertIfNew e.1 e.2) ((rest.get? toGroup).getD ∅))
  | none => d

/-- The network is chosen in the smartnode group. -/
def moveNetwork (d : Document) : Document :=
  d.moveText "root" "network" "smartnode" "network"

/-- Top-level texts named after client software of old, and their names now. -/
def renamedClients : List (String × String) :=
  [("eth1ClientMode", "executionClientMode"),
    ("eth1Client", "executionClient"),
    ("useFallbackEth1", "useFallbackExecutionClient"),
    ("fallbackEth1ClientMode", "fallbackExecutionClientMode"),
    ("fallbackEth1Client", "fallbackExecutionClient"),
    ("eth2ClientMode", "consensusClientMode"),
    ("eth2Client", "consensusClient"),
    ("externalEth2Client", "externalConsensusClient"),
    ("eth1MetricsPort", "ecMetricsPort")]

/-- Groups named after client software of old, and their names now. -/
def renamedGroups : List (String × String) :=
  [("eth1Common", "executionCommon"),
    ("externalEth1", "externalExecution"),
    ("fallbackEth1Common", "fallbackExecutionCommon"),
    ("fallbackExternalEth1", "fallbackExternalExecution"),
    ("eth2Common", "consensusCommon")]

/-- Clients are called execution and consensus clients. -/
def renameClients (d : Document) : Document :=
  let renamed := renamedClients.foldl (fun d r => d.moveText "root" r.1 "root" r.2) d
  renamedGroups.foldl (fun d r => d.moveGroup r.1 r.2) renamed

/-- The group of an external consensus client, and the texts that it has no use for. -/
def externalGroup (client : Option String) : String × List String :=
  match client with
  | some "prysm" => ("externalPrysm", [])
  | some "teku" => ("externalTeku", ["jsonRpcUrl", "doppelgangerDetection"])
  | _ => ("externalLighthouse", ["jsonRpcUrl"])

/-- Each external consensus client has a group of its own. -/
def splitExternal (d : Document) : Document :=
  match d.get? "externalConsensus" with
  | some table =>
    let rest : Document := d.erase "externalConsensus"
    let (group, dropped) := externalGroup (rest.text? "root" "externalConsensusClient")
    (table.entries.filter fun e => !dropped.contains e.1).foldl
      (fun d e => d.putIfNew group e.1 e.2) rest
  | none => d

/-- Texts of the metrics group, and their places now. -/
def movedMetrics : List (String × String × String) :=
  [("enabled", "root", "enableMetrics"),
    ("grafanaPort", "grafana", "port"),
    ("prometheusPort", "prometheus", "port"),
    ("exporterRootFs", "exporter", "enableRootFs")]

/-- Metrics are set per service; what else the metrics group held is gone. -/
def spreadMetrics (d : Document) : Document :=
  match d.get? "metrics" with
  | some table =>
    movedMetrics.foldl
      (fun d m =>
        match table.get? m.1 with
        | some text => d.putIfNew m.2.1 m.2.2 text
        | none => d)
      (d.erase "metrics")
  | none => d

/-- What a layout changed. -/
structure Step where
  version : Version
  apply : Document → Document

/-- All steps, oldest first. -/
def steps : List Step :=
  [⟨⟨1, 1, 0⟩, moveNetwork⟩, ⟨⟨1, 2, 0⟩, renameClients⟩, ⟨⟨1, 4, 0⟩, splitExternal⟩,
    ⟨⟨1, 5, 0⟩, spreadMetrics⟩]

/-- The layout that a document's stamp names. -/
def version (d : Document) : Except SettingError Version :=
  match d.text? "root" "version" with
  | some stamp => Version.parse stamp
  | none => .ok .unstamped

/-- Stamps a document as of the current layout. -/
def stampCurrent (d : Document) : Document :=
  d.insert "root" (((d.get? "root").getD ∅).insert "version" Version.current.stamp)

/-- The document in the current layout. One of a newer layout is refused. -/
def upgrade (d : Document) : Except SettingError Document := do
  let found ← d.version
  if Version.current.isBefore found then
    throw (.unsupportedVersion found.stamp Version.current.stamp)
  let due := steps.filter fun step => found.isBefore step.version
  return (due.foldl (fun d step => step.apply d) d).stampCurrent

/-- The upgrade as it is made in place: the document that an error leaves behind is the one it was
raised over. -/
def upgradeInPlace : EStateM SettingError Document Unit := do
  let found ← MonadExcept.ofExcept (← get).version
  if Version.current.isBefore found then
    throw (.unsupportedVersion found.stamp Version.current.stamp)
  (steps.filter fun step => found.isBefore step.version).forM fun step => modify step.apply
  modify stampCurrent

end NodeSettings.Document
