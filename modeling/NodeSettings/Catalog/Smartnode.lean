import NodeSettings.Catalog.Shared
import NodeSettings.Path

/-!
The settings of the node daemon, the network among them, and what the network determines.
-/

namespace NodeSettings.Catalog

/-- Where the data of a node with some base directory lies by default. -/
def dataPath (directory : String) : String := Path.join directory "data"

/-- The parameters of the node daemon, in display order. -/
def smartnode (directory : String) : List Declaration :=
  [{  id := "network"
      name := "Network"
      kind := .choice
      description :=
        "The network you want to use. Select Prater Testnet to practice with fake ETH, or " ++
          "Mainnet to stake on the real network using real ETH."
      defaults := .always (.ofNamed Network.primary)
      affects := [.api, .node, .watchtower, .eth1, .eth2, .validator]
      shownAs := ["NETWORK"]
      choices :=
        [⟨"Ethereum Mainnet", "The real Ethereum main network, using real ETH and real RPL.",
            .ofNamed Network.mainnet⟩,
          ⟨"Prater Testnet", "The Prater test network, using free fake ETH and fake RPL.",
            .ofNamed Network.prater⟩] },
    { id := "projectName"
      name := "Project Name"
      kind := .string
      description := "The prefix attached to all of the Docker containers managed by the stack."
      defaults := .always (.string "rocketpool")
      affects := [.api, .node, .watchtower, .eth1, .eth2, .validator, .grafana, .prometheus,
        .exporter]
      shownAs := ["COMPOSE_PROJECT_NAME"] },
    { id := "dataPath"
      name := "Data Path"
      kind := .string
      description :=
        "The absolute path of the `data` folder that contains the node wallet, its password, " ++
          "and all of the validator keys. You may use environment variables in this string."
      defaults := .always (.string (dataPath directory))
      affects := [.api, .node, .watchtower, .validator]
      shownAs := ["ROCKETPOOL_DATA_FOLDER"] },
    { id := "manualMaxFee"
      name := "Manual Max Fee"
      kind := .float
      description :=
        "Use this max fee (in gwei) for every transaction instead of the current suggestion. 0 " ++
          "means use the suggestion."
      defaults := .always (.float (.ofNat 0))
      range := some ⟨some (.ofNat 0), none⟩
      affects := [.node, .watchtower] },
    { id := "priorityFee"
      name := "Priority Fee"
      kind := .float
      description :=
        "The default priority fee (in gwei) for all of your transactions. Must be larger than 0."
      defaults := .always (.float (.ofNat 2))
      range := some ⟨some (.ofNat 0), none⟩
      affects := [.node, .watchtower] },
    { id := "rplClaimGasThreshold"
      name := "RPL Claim Gas Threshold"
      kind := .float
      description :=
        "Automatic RPL reward claims wait until the suggested max fee (in gwei) drops below " ++
          "this limit."
      defaults := .always (.float (.ofNat 150))
      affects := [.node, .watchtower] },
    { id := "minipoolStakeGasThreshold"
      name := "Minipool Stake Gas Threshold"
      kind := .float
      description :=
        "Automatic minipool stakes wait until the suggested max fee (in gwei) drops below this " ++
          "limit."
      defaults := .always (.float (.ofNat 150))
      affects := [.node] }]

/-- Image of the node daemon. -/
def smartnodeImage : String := "rocketpool/smartnode:" ++ Version.current.stamp

/-- Image that prepares a database to be pruned. -/
def pruneImage : String := "rocketpool/eth1-prune-provision:v0.0.1"

/-- Image that moves a database to another disk. -/
def migratorImage : String := "rocketpool/ec-migrator:v1.0.0"

/-- Where transactions can be watched. -/
def watchAddress : Network → String
  | .prater => "https://goerli.etherscan.io/tx"
  | _ => "https://etherscan.io/tx"

/-- Where stakes are made. -/
def stakeAddress : Network → String
  | .prater => "https://testnet.rocketpool.net"
  | _ => "https://stake.rocketpool.net"

def chainId : Network → Nat
  | .prater => 5
  | _ => 1

/-- The contract that holds the addresses of all others. -/
def storageContract : Network → String
  | .prater => "0xd8Cd47263414aFEca62d6e2a3917d6600abDceB3"
  | _ => "0x1d8f8f00cfa6758d7bE78336684788Fb0ee0Fa46"

/-- The token's contract, the same on every network. -/
def tokenContract : String := "0xb4efd85c19999d84251304bda99e90b92300bd93"

/-- What the node daemon keeps among its data. -/
inductive DataFile where
  | wallet | password | validators | customKeys | customKeyPasswords
deriving DecidableEq

def DataFile.name : DataFile → String
  | wallet => "wallet"
  | password => "password"
  | validators => "validators"
  | customKeys => "custom-keys"
  | customKeyPasswords => "custom-key-passwords"

/-- Where the daemon finds its data inside its container. -/
def containerDataPath : String := "/.rocketpool/data"

end NodeSettings.Catalog
