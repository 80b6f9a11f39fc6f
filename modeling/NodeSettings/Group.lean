import NodeSettings.Names

/-!
Groups of settings: the top-level one and a group for each service or feature. A group's key is its
place in a stored document, its title is what a reader sees.
-/

namespace NodeSettings

inductive Group where
  | root
  | smartnode
  | executionCommon | geth | nethermind | besu | infura | pocket | externalExecution
  | fallbackExecutionCommon | fallbackInfura | fallbackPocket | fallbackExternalExecution
  | consensusCommon | lighthouse | nimbus | prysm | teku
  | externalLighthouse | externalPrysm | externalTeku
  | grafana | prometheus | exporter | bitflyNodeMetrics
  | native
  | graffitiWall
deriving DecidableEq, Repr

namespace Group

/-- Every group below the top-level one, in display order. -/
def services : List Group :=
  [smartnode,
    executionCommon, geth, nethermind, besu, infura, pocket, externalExecution,
    fallbackExecutionCommon, fallbackInfura, fallbackPocket, fallbackExternalExecution,
    consensusCommon, lighthouse, nimbus, prysm, teku,
    externalLighthouse, externalPrysm, externalTeku,
    grafana, prometheus, exporter, bitflyNodeMetrics,
    native,
    graffitiWall]

/-- Every group, the top-level one first. -/
def all : List Group := root :: services

def key : Group → String
  | root => "root"
  | smartnode => "smartnode"
  | executionCommon => "executionCommon"
  | geth => "geth"
  | nethermind => "nethermind"
  | besu => "besu"
  | infura => "infura"
  | pocket => "pocket"
  | externalExecution => "externalExecution"
  | fallbackExecutionCommon => "fallbackExecutionCommon"
  | fallbackInfura => "fallbackInfura"
  | fallbackPocket => "fallbackPocket"
  | fallbackExternalExecution => "fallbackExternalExecution"
  | consensusCommon => "consensusCommon"
  | lighthouse => "lighthouse"
  | nimbus => "nimbus"
  | prysm => "prysm"
  | teku => "teku"
  | externalLighthouse => "externalLighthouse"
  | externalPrysm => "externalPrysm"
  | externalTeku => "externalTeku"
  | grafana => "grafana"
  | prometheus => "prometheus"
  | exporter => "exporter"
  | bitflyNodeMetrics => "bitflyNodeMetrics"
  | native => "native"
  | graffitiWall => "addons-gww"

def title : Group → String
  | root => "Top-level Settings"
  | smartnode => "Smartnode Settings"
  | executionCommon => "Common Execution Client Settings"
  | geth => "Geth Settings"
  | nethermind => "Nethermind Settings"
  | besu => "Besu Settings"
  | infura => "Infura Settings"
  | pocket => "Pocket Settings"
  | externalExecution => "External Execution Client Settings"
  | fallbackExecutionCommon => "Common Fallback Execution Client Settings"
  | fallbackInfura => "Fallback Infura Settings"
  | fallbackPocket => "Fallback Pocket Settings"
  | fallbackExternalExecution => "Fallback External Execution Client Settings"
  | consensusCommon => "Common Consensus Client Settings"
  | lighthouse => "Lighthouse Settings"
  | nimbus => "Nimbus Settings"
  | prysm => "Prysm Settings"
  | teku => "Teku Settings"
  | externalLighthouse => "External Lighthouse Settings"
  | externalPrysm => "External Prysm Settings"
  | externalTeku => "External Teku Settings"
  | grafana => "Grafana Settings"
  | prometheus => "Prometheus Settings"
  | exporter => "Node Exporter Settings"
  | bitflyNodeMetrics => "Beaconcha.in Node Metrics Settings"
  | native => "Native Settings"
  | graffitiWall => "Graffiti Wall Writer"

instance : Named Group := ⟨all, key⟩

theorem find?_key (g : Group) : Named.find? g.key = some g := by
  cases g <;> decide

theorem key_injective {g h : Group} (same : g.key = h.key) : g = h :=
  Option.some.inj ((find?_key g).symm.trans ((congrArg Named.find? same).trans (find?_key h)))

theorem mem_all (g : Group) : g ∈ all := by
  cases g <;> decide

end Group
end NodeSettings
