import NodeSettings.Catalog.Consensus
import NodeSettings.Catalog.Execution
import NodeSettings.Catalog.GraffitiWall
import NodeSettings.Catalog.Metrics
import NodeSettings.Catalog.Native
import NodeSettings.Catalog.Smartnode
import NodeSettings.Catalog.TopLevel

/-!
The catalog: the parameters that each group declares.
-/

namespace NodeSettings.Catalog

/-- The parameters of a group, in display order, for a node with some base directory. -/
def declarations (directory : String) : Group → List Declaration
  | .root => topLevel
  | .smartnode => smartnode directory
  | .executionCommon => executionCommon false
  | .geth => geth
  | .nethermind => nethermind
  | .besu => besu
  | .infura => infura false
  | .pocket => pocket false
  | .externalExecution => externalExecution false
  | .fallbackExecutionCommon => executionCommon true
  | .fallbackInfura => infura true
  | .fallbackPocket => pocket true
  | .fallbackExternalExecution => externalExecution true
  | .consensusCommon => consensusCommon
  | .lighthouse => lighthouse
  | .nimbus => nimbus
  | .prysm => prysm
  | .teku => teku
  | .externalLighthouse => externalLighthouse
  | .externalPrysm => externalPrysm
  | .externalTeku => externalTeku
  | .grafana => grafana
  | .prometheus => prometheus
  | .exporter => exporter
  | .bitflyNodeMetrics => bitflyNodeMetrics
  | .native => native
  | .graffitiWall => graffitiWall

end NodeSettings.Catalog
