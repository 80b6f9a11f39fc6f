import NodeSettings.Catalog.Shared

/-!
The settings of the execution clients: what they share, each client's own, and the addresses of
external ones. The fallback client has groups of its own, declared alike.
-/

namespace NodeSettings.Catalog

/-- The container that an execution client runs in. -/
def executionContainer (isFallback : Bool) : Container :=
  if isFallback then .eth1Fallback else .eth1

def executionCommon (isFallback : Bool) : List Declaration :=
  let container := executionContainer isFallback
  [{  id := "httpPort"
      name := "HTTP Port"
      kind := .uint16
      description := "The port your Execution client should use for its HTTP RPC endpoint."
      defaults := .always (.uint16 8545)
      affects := [.api, .node, .watchtower, container, .eth2]
      shownAs := [variableName isFallback "EC_HTTP_PORT"] },
    { id := "wsPort"
      name := "Websocket Port"
      kind := .uint16
      description := "The port your Execution client should use for its Websocket RPC endpoint."
      defaults := .always (.uint16 8546)
      affects := [container, .eth2]
      shownAs := [variableName isFallback "EC_WS_PORT"] },
    { id := "openRpcPorts"
      name := "Expose RPC Ports"
      kind := .bool
      description :=
        "Expose the HTTP and Websocket RPC ports to your local network, so other machines can " ++
          "access your Execution client's RPC endpoint."
      defaults := .always (.bool false)
      affects := [container] }]

private def flags (program : String) (isFallback : Bool) : Declaration :=
  additionalFlags "additionalFlags" "Additional Flags" program (executionContainer isFallback)
    [variableName isFallback "EC_ADDITIONAL_FLAGS"]

def geth : List Declaration :=
  [{  id := "cache"
      name := "Cache Size"
      kind := .uint
      description := "The amount of RAM (in MB) you want Geth's cache to use."
      defaults := .always (.uint 1024)
      affects := [.eth1]
      shownAs := ["EC_CACHE_SIZE"] },
    maxPeers "Geth" 50 .eth1 "EC_MAX_PEERS",
    containerTag "Geth" "ethereum/client-go:v1.10.21" [.eth1] ["EC_CONTAINER_TAG"],
    flags "Geth" false]

def nethermind : List Declaration :=
  [{  id := "cache"
      name := "Cache (Memory Hint) Size"
      kind := .uint
      description := "The amount of RAM (in MB) you want to suggest for Nethermind's cache."
      defaults := .always (.uint 1024)
      affects := [.eth1]
      shownAs := ["EC_CACHE_SIZE"] },
    maxPeers "Nethermind" 50 .eth1 "EC_MAX_PEERS",
    { id := "pruneMemSize"
      name := "In-Memory Pruning Cache Size"
      kind := .uint
      description :=
        "The amount of RAM (in MB) Nethermind should dedicate to its in-memory pruning cache."
      defaults := .always (.uint 1024)
      affects := [.eth1]
      shownAs := ["NETHERMIND_PRUNE_MEM_SIZE"] },
    containerTag "Nethermind" "nethermind/nethermind:1.13.4" [.eth1] ["EC_CONTAINER_TAG"],
    flags "Nethermind" false]

def besu : List Declaration :=
  [{  id := "jvmHeapSize"
      name := "JVM Heap Size"
      kind := .uint
      description :=
        "The max amount of RAM, in MB, that Besu's JVM should limit itself to. Use 0 for " ++
          "automatic allocation."
      defaults := .always (.uint 0)
      affects := [.eth1]
      shownAs := ["BESU_JVM_HEAP_SIZE"] },
    maxPeers "Besu" 25 .eth1 "EC_MAX_PEERS",
    { id := "maxBackLayers"
      name := "Historical Block Replay Limit"
      kind := .uint
      description := "How many blocks Besu can replay to rebuild a historical state."
      defaults := .always (.uint 512)
      affects := [.eth1]
      shownAs := ["BESU_MAX_BACK_LAYERS"] },
    containerTag "Besu" "hyperledger/besu:22.4.3-openjdk-latest" [.eth1] ["EC_CONTAINER_TAG"],
    flags "Besu" false]

private def proxyTag (isFallback : Bool) : Declaration :=
  containerTag "EC Proxy" proxyImage [executionContainer isFallback]
    [variableName isFallback "EC_CONTAINER_TAG"]

def infura (isFallback : Bool) : List Declaration :=
  [{  id := "projectID"
      name := "Project ID"
      kind := .string
      description :=
        "The ID of your `Ethereum` project in Infura. Note: this is your Project ID, not your " ++
          "Project Secret."
      defaults := .always (.string "")
      pattern := some "^[0-9a-fA-F]\x7b32\x7d$"
      affects := [executionContainer isFallback]
      shownAs := [variableName isFallback "INFURA_PROJECT_ID"] },
    proxyTag isFallback,
    flags "the EC Proxy" isFallback]

/-- Pocket has one gateway for each network. -/
def pocket (isFallback : Bool) : List Declaration :=
  [{  id := "gatewayID"
      name := "Gateway ID"
      kind := .string
      description :=
        "If you would like to use a custom gateway for Pocket instead of the default one, enter " ++
          "it here."
      defaults :=
        { mainnet := some (.string "lb/613bb4ae8c124d00353c40a1")
          prater := some (.string "lb/6126b4a783e49000343a3a47") }
      pattern := some "(^$|^(lb/)?[0-9a-zA-Z]\x7b24,\x7d$)"
      affects := [executionContainer isFallback]
      shownAs := [variableName isFallback "POCKET_GATEWAY_ID"] },
    proxyTag isFallback,
    flags "the EC Proxy" isFallback]

def externalExecution (isFallback : Bool) : List Declaration :=
  let affects := [.api, executionContainer isFallback, .eth2, .node, .watchtower]
  [{  id := "httpUrl"
      name := "HTTP URL"
      kind := .string
      description :=
        "The URL of the HTTP RPC endpoint for your external client.\n" ++ addressNote
      defaults := .always (.string "")
      affects
      shownAs := [variableName isFallback "EC_HTTP_ENDPOINT"] },
    { id := "wsUrl"
      name := "Websocket URL"
      kind := .string
      description :=
        "The URL of the Websocket RPC endpoint for your external client.\n" ++ addressNote
      defaults := .always (.string "")
      affects
      shownAs := [variableName isFallback "EC_WS_ENDPOINT"] }]

end NodeSettings.Catalog
