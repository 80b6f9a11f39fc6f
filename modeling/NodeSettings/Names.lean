/-!
The closed sets of names that settings are made of: networks, containers, modes, clients and the
kinds of value. Each member is persisted as one fixed name. `find?_name`: every member is found
under its name.
-/

namespace NodeSettings

/-- A type whose members are listed in order and persisted by name. -/
class Named (α : Type) where
  all : List α
  name : α → String

/-- The member with a name. -/
def Named.find? {α : Type} [Named α] (name : String) : Option α :=
  (Named.all : List α).find? fun a => Named.name a == name

/-- The chain a node runs against; `all` stands for every network in a table of defaults. -/
inductive Network where
  | all | mainnet | prater
deriving DecidableEq, Repr

namespace Network

def name : Network → String
  | all => "all"
  | mainnet => "mainnet"
  | prater => "prater"

instance : Named Network := ⟨[all, mainnet, prater], name⟩

/-- The networks a node can be set up for. -/
def supported : List Network := [mainnet, prater]

theorem ne_all_of_supported {network : Network} (h : network ∈ supported) : network ≠ all := by
  rintro rfl
  exact absurd h (by decide)

/-- The network of settings that name none. -/
def primary : Network := mainnet

theorem find?_name (n : Network) : Named.find? n.name = some n := by
  cases n <;> decide

end Network

/-- A managed service that a change of settings may restart. -/
inductive Container where
  | api | node | watchtower | eth1 | eth1Fallback | eth2 | validator | grafana | prometheus
  | exporter | graffitiWall
deriving DecidableEq, Repr

namespace Container

def all : List Container :=
  [api, node, watchtower, eth1, eth1Fallback, eth2, validator, grafana, prometheus, exporter,
    graffitiWall]

def name : Container → String
  | api => "api"
  | node => "node"
  | watchtower => "watchtower"
  | eth1 => "eth1"
  | eth1Fallback => "eth1-fallback"
  | eth2 => "eth2"
  | validator => "validator"
  | grafana => "grafana"
  | prometheus => "prometheus"
  | exporter => "exporter"
  | graffitiWall => "addon-gww"

instance : Named Container := ⟨all, name⟩

theorem find?_name (c : Container) : Named.find? c.name = some c := by
  cases c <;> decide

/-- The members of a list, each once, in the order of `all`. -/
def inOrder (containers : List Container) : List Container :=
  all.filter fun c => containers.contains c

theorem mem_all (c : Container) : c ∈ all := by
  cases c <;> decide

theorem mem_inOrder {c : Container} {containers : List Container} :
    c ∈ inOrder containers ↔ c ∈ containers := by
  simp [inOrder, mem_all]

end Container

/-- Whether the stack runs a client itself or only connects to it. -/
inductive Mode where
  | locallyManaged | externallyManaged
deriving DecidableEq, Repr

namespace Mode

def name : Mode → String
  | locallyManaged => "local"
  | externallyManaged => "external"

instance : Named Mode := ⟨[locallyManaged, externallyManaged], name⟩

theorem find?_name (m : Mode) : Named.find? m.name = some m := by
  cases m <;> decide

end Mode

/-- What values a parameter takes. -/
inductive Kind where
  | bool | int | uint | uint16 | float | string | choice
deriving DecidableEq, Repr

namespace Kind

def name : Kind → String
  | bool => "bool"
  | int => "int"
  | uint => "uint"
  | uint16 => "uint16"
  | float => "float"
  | string => "string"
  | choice => "choice"

instance : Named Kind := ⟨[bool, int, uint, uint16, float, string, choice], name⟩

theorem find?_name (k : Kind) : Named.find? k.name = some k := by
  cases k <;> decide

end Kind

inductive ExecutionClient where
  | geth | nethermind | besu | infura | pocket
deriving DecidableEq, Repr

namespace ExecutionClient

def all : List ExecutionClient := [geth, nethermind, besu, infura, pocket]

def name : ExecutionClient → String
  | geth => "geth"
  | nethermind => "nethermind"
  | besu => "besu"
  | infura => "infura"
  | pocket => "pocket"

instance : Named ExecutionClient := ⟨all, name⟩

theorem find?_name (c : ExecutionClient) : Named.find? c.name = some c := by
  cases c <;> decide

end ExecutionClient

inductive ConsensusClient where
  | lighthouse | nimbus | prysm | teku
deriving DecidableEq, Repr

namespace ConsensusClient

def all : List ConsensusClient := [lighthouse, nimbus, prysm, teku]

def name : ConsensusClient → String
  | lighthouse => "lighthouse"
  | nimbus => "nimbus"
  | prysm => "prysm"
  | teku => "teku"

instance : Named ConsensusClient := ⟨all, name⟩

theorem find?_name (c : ConsensusClient) : Named.find? c.name = some c := by
  cases c <;> decide

end ConsensusClient

end NodeSettings
