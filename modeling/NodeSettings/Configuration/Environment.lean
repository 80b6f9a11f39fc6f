import NodeSettings.Configuration.Selection
import NodeSettings.Endpoint.Basic

/-!
The environment that a configuration is shown to the containers in: variables with texts. It is
built as a list of writes, of which the last to a variable counts. Only the groups in use write
their settings; the rest are values derived from them.
-/

namespace NodeSettings

/-- A variable and the text it is set to. -/
abbrev Write := String × String

/-- A parameter shows its text under each of its variables. -/
def Parameter.writes (p : Parameter) : List Write := p.shownAs.map fun name => (name, p.text)

namespace Configuration

/-- What all parameters of a group show. -/
def groupWrites (c : Configuration) (group : Group) : List Write :=
  (c.parameters group).flatMap Parameter.writes

/-- A port that is opened to the outside under its own number. -/
private def portMapping (port : Nat) : String := toString port ++ ":" ++ toString port ++ "/tcp"

private def inQuotes (s : String) : String := "\"" ++ s ++ "\""

private def serviceAddress (scheme host : String) (port : Nat) : String :=
  scheme ++ "://" ++ host ++ ":" ++ toString port

/-- The opened ports of an execution client; Pocket serves HTTP only. -/
private def openPorts (client : ExecutionClient) (http ws : Nat) : String :=
  if client = .pocket then inQuotes (portMapping http)
  else inQuotes (portMapping http) ++ ", " ++ inQuotes (portMapping ws)

/-- Adds the host of the address that the writes leave in a variable. -/
def withHost (address host : String) (writes : List Write) : List Write :=
  writes ++ (((Table.ofList writes).get? address).bind Endpoint.host?).toList.map (host, ·)

/-- Where a locally managed execution client listens. -/
def endpointWrites (c : Configuration) (common : Group) (isFallback : Bool)
    (host : String) (client : ExecutionClient) (listStart : String) : List Write :=
  let http := c.port common "httpPort"
  let ws := c.port common "wsPort"
  let name := Catalog.variableName isFallback
  [(name "EC_HTTP_ENDPOINT", serviceAddress "http" host http),
    (name "EC_WS_ENDPOINT", serviceAddress "ws" host ws)]
  ++ (if c.flag common "openRpcPorts" then
      [(name "EC_OPEN_API_PORTS", listStart ++ openPorts client http ws)] else [])

/-- The primary execution client. An externally managed one is called `X`. -/
def executionWrites (c : Configuration) : List Write :=
  withHost "EC_HTTP_ENDPOINT" "EC_HOSTNAME" <|
    match c.executionMode with
    | .locallyManaged =>
      let client := c.executionClient
      [("EC_CLIENT", client.name)]
      ++ c.endpointWrites .executionCommon false Container.eth1.name client ", "
      ++ c.groupWrites .executionCommon ++ c.groupWrites client.group
      ++ [("EC_STOP_SIGNAL", stopSignal client.group)]
    | .externallyManaged => ("EC_CLIENT", "X") :: c.groupWrites .externalExecution

/-- The fallback execution client, which is named even while it is not used. -/
def fallbackWrites (c : Configuration) : List Write :=
  let client := c.fallbackClient
  ("FALLBACK_EC_CLIENT", client.name) ::
    if c.usesFallback then
      match c.fallbackMode with
      | .locallyManaged =>
        c.endpointWrites .fallbackExecutionCommon true Container.eth1Fallback.name client ""
        ++ c.groupWrites .fallbackExecutionCommon
        ++ (client.fallbackGroup?.map c.groupWrites).getD []
      | .externallyManaged => c.groupWrites .fallbackExternalExecution
    else []

/-- The ports that a locally managed consensus client opens. -/
def beaconPorts (c : Configuration) (client : ConsensusClient) : String :=
  let api := c.port .consensusCommon "apiPort"
  (if c.flag .consensusCommon "openApiPort" then ", " ++ inQuotes (portMapping api) else "")
  ++ (if client = .prysm ∧ c.flag .prysm "openRpcPort" then
      ", " ++ inQuotes (portMapping (c.port .prysm "rpcPort")) else "")

/-- The consensus client. -/
def consensusWrites (c : Configuration) : List Write :=
  withHost "CC_API_ENDPOINT" "CC_HOSTNAME" <|
    match c.consensusMode with
    | .locallyManaged =>
      let client := c.consensusClient
      let host := Container.eth2.name
      [("CC_CLIENT", client.name),
        ("CC_API_ENDPOINT", serviceAddress "http" host (c.port .consensusCommon "apiPort")),
        ("BN_OPEN_PORTS", c.beaconPorts client)]
      ++ c.groupWrites .consensusCommon ++ c.groupWrites client.group
      ++ (if client = .prysm then
          [("CC_RPC_ENDPOINT", serviceAddress "http" host (c.port .prysm "rpcPort"))] else [])
    | .externallyManaged =>
      let client := c.externalConsensusClient
      ("CC_CLIENT", client.name) :: (client.externalGroup?.map c.groupWrites).getD []

/-- Flags of a service as an entry of a list. -/
def flagEntry (c : Configuration) (group : Group) (shownAs : String) : List Write :=
  let flags := c.text group "additionalFlags"
  if flags.isEmpty then [] else [(shownAs, ", " ++ inQuotes flags)]

/-- The services that collect and show metrics. -/
def metricsWrites (c : Configuration) : List Write :=
  if c.usesMetrics then
    c.groupWrites .exporter ++ c.groupWrites .prometheus ++ c.groupWrites .grafana
    ++ (if c.flag .exporter "enableRootFs" then
        [("EXPORTER_ROOTFS_COMMAND", ", " ++ inQuotes "--path.rootfs=/rootfs"),
          ("EXPORTER_ROOTFS_VOLUME", ", " ++ inQuotes "/:/rootfs:ro")] else [])
    ++ (if c.flag .prometheus "openPort" then
        [("PROMETHEUS_OPEN_PORTS", portMapping (c.port .prometheus "port"))] else [])
    ++ c.flagEntry .exporter "EXPORTER_ADDITIONAL_FLAGS"
    ++ c.flagEntry .prometheus "PROMETHEUS_ADDITIONAL_FLAGS"
  else []

/-- The addon, of which only the switch shows while it is off. -/
def graffitiWallWrites (c : Configuration) : List Write :=
  if c.usesGraffitiWall then c.groupWrites .graffitiWall
  else ((c.find? .graffitiWall "enabled").map Parameter.writes).getD []

/-- Every write, in order. A natively run node shows nothing of its clients. -/
def writes (c : Configuration) : List Write :=
  [("SMARTNODE_IMAGE", Catalog.smartnodeImage), ("ROCKETPOOL_FOLDER", c.directory)]
  ++ c.groupWrites .smartnode ++ c.groupWrites .root
  ++ if c.isNative then c.groupWrites .native
    else
      c.executionWrites ++ c.fallbackWrites ++ c.consensusWrites ++ c.metricsWrites
      ++ (if c.usesBitfly then c.groupWrites .bitflyNodeMetrics else [])
      ++ c.graffitiWallWrites

/-- The variables and their texts. -/
def environment (c : Configuration) : Table String := .ofList c.writes

end Configuration
end NodeSettings
