import NodeSettings.Catalog.Shared

/-!
The settings of the consensus clients: what they share, each client's own, and those of the
validator beside an external client.
-/

namespace NodeSettings.Catalog

private def lighthouseImage : String := "sigp/lighthouse:v3.0.0"
private def tekuImage : String := "consensys/teku:22.8.1"
private def prysmValidatorImage : String := "prysmaticlabs/prysm-validator:v3.0.0"

def graffiti : Declaration where
  id := "graffiti"
  name := "Custom Graffiti"
  kind := .string
  description := "Add a short message to any blocks you propose. It has a 16 character limit."
  defaults := .always (.string "")
  maxLength := some 16
  affects := [.validator]
  shownAs := ["CUSTOM_GRAFFITI"]
  canBeBlank := true

def doppelgangerDetection : Declaration where
  id := "doppelgangerDetection"
  name := "Enable Doppelganger Detection"
  kind := .bool
  description :=
    "If enabled, your client will intentionally miss 1 or 2 attestations on startup to check if " ++
      "your validator keys are already running elsewhere."
  defaults := .always (.bool true)
  affects := [.validator]
  shownAs := ["DOPPELGANGER_DETECTION"]

private def beaconFlags (program : String) : Declaration :=
  additionalFlags "additionalBnFlags" "Additional Beacon Node Flags" (program ++ "'s Beacon Node")
    .eth2 ["BN_ADDITIONAL_FLAGS"]

private def validatorFlags (program : String) : Declaration :=
  additionalFlags "additionalVcFlags" "Additional Validator Client Flags"
    (program ++ "'s Validator Client") .validator ["VC_ADDITIONAL_FLAGS"]

/-- The image of a client whose beacon node and validator are one image. -/
private def sharedTag (program tag : String) : Declaration :=
  containerTag program tag [.eth2, .validator] ["BN_CONTAINER_TAG", "VC_CONTAINER_TAG"]

/-- The image of a validator on its own. -/
private def validatorTag (program tag : String) : Declaration :=
  containerTag program tag [.validator] ["VC_CONTAINER_TAG"]

def consensusCommon : List Declaration :=
  [graffiti,
    { id := "checkpointSyncUrl"
      name := "Checkpoint Sync URL"
      kind := .string
      description :=
        "A Beacon API endpoint of a synced node to sync from instead of genesis. Leave blank to " ++
          "sync from genesis."
      defaults := .always (.string "")
      affects := [.eth2]
      shownAs := ["CHECKPOINT_SYNC_URL"]
      canBeBlank := true },
    { id := "p2pPort"
      name := "P2P Port"
      kind := .uint16
      description := "The port to use for P2P (blockchain) traffic."
      defaults := .always (.uint16 9001)
      affects := [.eth2]
      shownAs := ["BN_P2P_PORT"] },
    { id := "apiPort"
      name := "HTTP API Port"
      kind := .uint16
      description := "The port your Consensus client should run its HTTP API on."
      defaults := .always (.uint16 5052)
      affects := [.api, .node, .watchtower, .eth2, .validator]
      shownAs := ["BN_API_PORT"] },
    { id := "openApiPort"
      name := "Expose API Port"
      kind := .bool
      description :=
        "Expose the API port to your local network, so other machines can access it too."
      defaults := .always (.bool false)
      affects := [.eth2] },
    doppelgangerDetection]

def lighthouse : List Declaration :=
  [maxPeers "Lighthouse" 80 .eth2 "BN_MAX_PEERS",
    sharedTag "Lighthouse" lighthouseImage,
    beaconFlags "Lighthouse",
    validatorFlags "Lighthouse"]

def nimbus : List Declaration :=
  [maxPeers "Nimbus" 160 .eth2 "BN_MAX_PEERS",
    sharedTag "Nimbus" "statusim/nimbus-eth2:multiarch-v22.8.0",
    additionalFlags "additionalFlags" "Additional Flags" "Nimbus" .eth2 ["BN_ADDITIONAL_FLAGS"]]

def prysm : List Declaration :=
  [maxPeers "Prysm" 45 .eth2 "BN_MAX_PEERS",
    { id := "rpcPort"
      name := "RPC Port"
      kind := .uint16
      description := "The port Prysm should run its JSON-RPC API on."
      defaults := .always (.uint16 5053)
      affects := [.eth2, .validator]
      shownAs := ["BN_RPC_PORT"] },
    { id := "openRpcPort"
      name := "Expose RPC Port"
      kind := .bool
      description :=
        "Expose Prysm's JSON-RPC port to your local network, so other local machines can access " ++
          "it too."
      defaults := .always (.bool false)
      affects := [.eth2] },
    { containerTag "Prysm Beacon Node" "prysmaticlabs/prysm-beacon-chain:v3.0.0" [.eth2]
        ["BN_CONTAINER_TAG"] with
      id := "bnContainerTag"
      name := "Beacon Node Container Tag" },
    { validatorTag "Prysm Validator Client" prysmValidatorImage with
      id := "vcContainerTag"
      name := "Validator Client Container Tag" },
    beaconFlags "Prysm",
    validatorFlags "Prysm"]

def teku : List Declaration :=
  [maxPeers "Teku" 74 .eth2 "BN_MAX_PEERS",
    sharedTag "Teku" tekuImage,
    beaconFlags "Teku",
    validatorFlags "Teku"]

private def beaconAddress : Declaration where
  id := "httpUrl"
  name := "HTTP URL"
  kind := .string
  description :=
    "The URL of the HTTP Beacon API endpoint for your external client.\n" ++ addressNote
  defaults := .always (.string "")
  affects := [.api, .node, .watchtower, .validator]
  shownAs := ["CC_API_ENDPOINT"]

def externalLighthouse : List Declaration :=
  [beaconAddress, graffiti, doppelgangerDetection, validatorTag "Lighthouse" lighthouseImage,
    validatorFlags "Lighthouse"]

def externalPrysm : List Declaration :=
  [beaconAddress,
    { id := "jsonRpcUrl"
      name := "RPC URL"
      kind := .string
      description :=
        "The URL of Prysm's gRPC API endpoint for your external client. Prysm's Validator " ++
            "Client will need this in order to connect to it.\n"
          ++ addressNote
      defaults := .always (.string "")
      affects := [.api, .node, .watchtower, .validator]
      shownAs := ["CC_RPC_ENDPOINT"] },
    graffiti, doppelgangerDetection, validatorTag "Prysm Validator Client" prysmValidatorImage,
    validatorFlags "Prysm"]

/-- Teku cannot detect doppelgangers. -/
def externalTeku : List Declaration :=
  [beaconAddress, graffiti, validatorTag "Teku" tekuImage, validatorFlags "Teku"]

end NodeSettings.Catalog
