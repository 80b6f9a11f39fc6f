import NodeSettings.Configuration.Selection
import NodeSettings.Duration

/-!
Problems with a configuration, told in words: clients that do not go together, a delay that is none,
and settings in use that are blank.
-/

namespace NodeSettings.Configuration

/-- The delay before a failed execution client is tried again. -/
def reconnectDelay (c : Configuration) : Except SettingError Duration :=
  let raw := c.text .root "reconnectDelay"
  match Duration.parse? raw with
  | some d => .ok d
  | none => .error (.violation "reconnectDelay" (.badDuration raw))

/-- Choices of a consensus client that an execution client cannot be paired with. -/
structure Incompatible where
  primary : List Choice
  fallback : List Choice
deriving DecidableEq

/-- Whether a list of clients leaves one out; an empty list leaves out none. -/
private def leavesOut (compatible : List ConsensusClient) (client : ConsensusClient) : Bool :=
  !compatible.isEmpty && !compatible.contains client

/-- The consensus clients to choose from that cannot be paired with the primary execution client,
and among the others those that cannot be paired with the fallback one. -/
def incompatible (c : Configuration) : Incompatible :=
  let compatible := match c.executionMode with
    | .locallyManaged => (c.profiles c.executionClient.group).compatible
    | .externallyManaged => []
  let fallbackCompatible := match c.fallbackGroup? with
    | some group => (c.profiles group).compatible
    | none => []
  let id := match c.consensusMode with
    | .locallyManaged => "consensusClient"
    | .externallyManaged => "externalConsensusClient"
  let choices := ((c.find? .root id).map (·.choices)).getD []
  let isLeftOut (list : List ConsensusClient) (choice : Choice) : Bool :=
    (choice.value.named? : Option ConsensusClient).any (leavesOut list)
  let (primary, others) := choices.partition (isLeftOut compatible)
  ⟨primary, others.filter (isLeftOut fallbackCompatible)⟩

private def mismatch (choice : Choice) (which : String) (client : String) : String :=
  "Selected Consensus client:\n\t" ++ choice.name ++ "\nis not compatible with selected "
    ++ which ++ ":\n\t" ++ client

/-- Problems of the pairing of a locally managed consensus client. -/
def pairingProblems (c : Configuration) : List String :=
  if !c.isNative && c.consensusMode == .locallyManaged then
    let selected := Value.ofNamed c.consensusClient
    let isSelected (choice : Choice) : Bool := choice.value.agrees selected
    ((c.incompatible.primary.find? isSelected).map fun choice =>
      mismatch choice "Execution client" (c.text .root "executionClient")).toList
    ++ ((c.incompatible.fallback.find? isSelected).map fun choice =>
      mismatch choice "fallback Execution client" (c.text .root "fallbackExecutionClient")).toList
  else []

/-- Problems of the delay, which matters only with a fallback. -/
def delayProblems (c : Configuration) : List String :=
  if c.usesFallback then
    match c.reconnectDelay with
    | .ok _ => []
    | .error e => [e.message]
  else []

/-- Whether a parameter is blank but must not be. -/
def lacksText (p : Parameter) : Bool := p.isBlank && !p.canBeBlank

/-- Problems of blank settings, top-level ones first, then those of the groups in use. -/
def blankProblems (c : Configuration) : List String :=
  ((c.parameters .root).filter lacksText).map (fun p => "[" ++ p.name ++ "] cannot be blank.")
  ++ c.activeGroups.flatMap fun group =>
    ((c.parameters group).filter fun p => lacksText p && !(c.ignored group).contains p.id).map
      fun p => "[" ++ group.title ++ " - " ++ p.name ++ "] cannot be blank."

/-- Everything that is wrong, in words. -/
def problems (c : Configuration) : List String :=
  c.pairingProblems ++ c.delayProblems ++ c.blankProblems

end NodeSettings.Configuration
