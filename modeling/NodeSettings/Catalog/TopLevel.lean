import NodeSettings.Catalog.Shared

/-!
The top-level settings: which clients run where, and the ports of the metrics.
-/

namespace NodeSettings.Catalog

private def executionClientChoice (client : ExecutionClient) : Choice :=
  let (name, description) := match client with
    | .geth => ("Geth", "Geth is one of the three original implementations of the Ethereum " ++
      "protocol. It is written in Go, fully open source and licensed under the GNU LGPL v3.")
    | .nethermind => ("Nethermind", "Nethermind is a high-performance full Ethereum protocol " ++
      "client with very fast sync speeds. Nethermind is built with proven industrial " ++
      "technologies such as .NET 6 and the Kestrel web server.")
    | .besu => ("Besu", "Hyperledger Besu is a robust full Ethereum protocol client. It uses a " ++
      "novel system called \"Bonsai Trees\" to store its chain data efficiently.")
    | .infura => ("Infura", "Use Infura's light client service as your Execution client. " ++
      "Requires a project ID from Infura.")
    | .pocket => ("Pocket", "Use Pocket Network's decentralized service as your Execution client.")
  ⟨name, description, .ofNamed client⟩

private def consensusClientChoice (client : ConsensusClient) : Choice :=
  let (name, description) := match client with
    | .lighthouse => ("Lighthouse", "Lighthouse is a Consensus client with a heavy focus on " ++
      "speed and security. The team behind it, Sigma Prime, is an information security and " ++
      "software engineering firm.")
    | .nimbus => ("Nimbus", "Nimbus is a Consensus client implementation that strives to be as " ++
      "lightweight as possible in terms of resources used. It runs its validator duties inside " ++
      "the beacon node.")
    | .prysm => ("Prysm", "Prysm is a Go implementation of the Ethereum Consensus protocol with " ++
      "a focus on usability, security, and reliability.")
    | .teku => ("Teku", "PegaSys Teku is a Java-based Ethereum 2.0 client designed & built to " ++
      "meet institutional needs and security requirements.")
  ⟨name, description, .ofNamed client⟩

private def metricsPort (id name subject : String) (port : UInt16) (container : Container)
    (shownAs : String) : Declaration where
  id := id
  name := name
  kind := .uint16
  description := "The port " ++ subject ++ " should expose its metrics on."
  defaults := .always (.uint16 port)
  affects := [container, .prometheus]
  shownAs := [shownAs]

/-- The top-level parameters, in display order. -/
def topLevel : List Declaration :=
  [{  id := "executionClientMode"
      name := "Execution Client Mode"
      kind := .choice
      description :=
        "Choose which mode to use for your Execution client - locally managed (Docker Mode), or " ++
          "externally managed (Hybrid Mode)."
      defaults := .always (.ofNamed Mode.locallyManaged)
      affects := [.api, .eth1, .eth2, .node, .watchtower]
      choices := modeChoices "an Execution client" },
    { id := "executionClient"
      name := "Execution Client"
      kind := .choice
      description := "Select which Execution client you would like to run."
      defaults := .always (.ofNamed ExecutionClient.geth)
      affects := [.eth1]
      choices := ExecutionClient.all.map executionClientChoice },
    { id := "useFallbackExecutionClient"
      name := "Use Fallback Execution Client"
      kind := .bool
      description :=
        "Enable this if you would like to specify a fallback Execution client, which will " ++
          "temporarily be used by the stack and your Consensus client if your primary Execution " ++
          "client ever goes offline."
      defaults := .always (.bool false)
      affects := [.api, .eth1Fallback, .eth2, .node, .watchtower] },
    { id := "fallbackExecutionClientMode"
      name := "Fallback Execution Client Mode"
      kind := .choice
      description :=
        "Choose which mode to use for your fallback Execution client - locally managed (Docker " ++
          "Mode), or externally managed (Hybrid Mode)."
      defaults := .always (.ofNamed Mode.locallyManaged)
      affects := [.api, .eth1Fallback, .eth2, .node, .watchtower]
      choices := modeChoices "a fallback Execution client" },
    { id := "fallbackExecutionClient"
      name := "Fallback Execution Client"
      kind := .choice
      description := "Select which fallback Execution client you would like to run."
      defaults := .always (.ofNamed ExecutionClient.pocket)
      affects := [.eth1Fallback]
      choices := [ExecutionClient.infura, ExecutionClient.pocket].map executionClientChoice },
    { id := "reconnectDelay"
      name := "Reconnect Delay"
      kind := .string
      description :=
        "The delay to wait after the primary Execution client fails before trying to reconnect " ++
          "to it. An example format is \"10h20m30s\" - this would make it 10 hours, 20 minutes, " ++
          "and 30 seconds."
      defaults := .always (.string "60s")
      affects := [.api, .node, .watchtower] },
    { id := "consensusClientMode"
      name := "Consensus Client Mode"
      kind := .choice
      description :=
        "Choose which mode to use for your Consensus client - locally managed (Docker Mode), or " ++
          "externally managed (Hybrid Mode)."
      defaults := .always (.ofNamed Mode.locallyManaged)
      affects := [.api, .eth2, .node, .prometheus, .validator, .watchtower]
      choices := modeChoices "a Consensus client" },
    { id := "consensusClient"
      name := "Consensus Client"
      kind := .choice
      description := "Select which Consensus client you would like to use."
      defaults := .always (.ofNamed ConsensusClient.nimbus)
      affects := [.api, .node, .watchtower, .eth2, .validator]
      choices := ConsensusClient.all.map consensusClientChoice },
    { id := "externalConsensusClient"
      name := "Consensus Client"
      kind := .choice
      description := "Select which Consensus client your externally managed client is."
      defaults := .always (.ofNamed ConsensusClient.lighthouse)
      affects := [.api, .node, .watchtower, .eth2, .validator]
      choices :=
        [ConsensusClient.lighthouse, ConsensusClient.prysm, ConsensusClient.teku].map
          consensusClientChoice },
    { id := "enableMetrics"
      name := "Enable Metrics"
      kind := .bool
      description :=
        "Enable the system metrics stack. This will run Prometheus, Grafana and the Node " ++
          "Exporter, and expose metrics ports on the clients."
      defaults := .always (.bool true)
      affects := [.node, .watchtower, .eth2, .grafana, .prometheus, .exporter]
      shownAs := ["ENABLE_METRICS"] },
    { id := "enableBitflyNodeMetrics"
      name := "Enable Beaconcha.in Node Metrics"
      kind := .bool
      description :=
        "Enable the Beaconcha.in node metrics integration, so you can monitor your node in " ++
          "their mobile app."
      defaults := .always (.bool false)
      affects := [.validator, .eth2]
      shownAs := ["ENABLE_BITFLY_NODE_METRICS"] },
    metricsPort "ecMetricsPort" "Execution Client Metrics Port" "your Execution client" 9105
      .eth1 "EC_METRICS_PORT",
    metricsPort "bnMetricsPort" "Beacon Node Metrics Port" "your Consensus client" 9100
      .eth2 "BN_METRICS_PORT",
    metricsPort "vcMetricsPort" "Validator Client Metrics Port" "your validator client" 9101
      .validator "VC_METRICS_PORT",
    metricsPort "nodeMetricsPort" "Node Daemon Metrics Port" "the node daemon" 9102
      .node "NODE_METRICS_PORT",
    metricsPort "exporterMetricsPort" "Exporter Metrics Port" "the Node Exporter" 9103
      .exporter "EXPORTER_METRICS_PORT",
    metricsPort "watchtowerMetricsPort" "Watchtower Metrics Port" "the watchtower" 9104
      .watchtower "WATCHTOWER_METRICS_PORT"]

end NodeSettings.Catalog
