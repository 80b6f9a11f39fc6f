import NodeSettings.Catalog.Shared

/-!
The settings of the services that collect and show metrics.
-/

namespace NodeSettings.Catalog

def grafana : List Declaration :=
  [{  id := "port"
      name := "Grafana Port"
      kind := .uint16
      description :=
        "The port Grafana should run its HTTP server on - this is the port you will connect to " ++
          "in your browser."
      defaults := .always (.uint16 3100)
      affects := [.grafana]
      shownAs := ["GRAFANA_PORT"] },
    containerTag "Grafana" "grafana/grafana:8.5.9" [.grafana] ["GRAFANA_CONTAINER_TAG"]]

/-- The flags have no variable of their own: they are shown as an entry of a list. -/
def prometheus : List Declaration :=
  [{  id := "port"
      name := "Prometheus Port"
      kind := .uint16
      description := "The port Prometheus should make its statistics available on."
      defaults := .always (.uint16 9091)
      affects := [.grafana, .prometheus]
      shownAs := ["PROMETHEUS_PORT"] },
    { id := "openPort"
      name := "Expose Prometheus Port"
      kind := .bool
      description :=
        "Expose the Prometheus port to your local network, so other machines can access it too."
      defaults := .always (.bool false)
      affects := [.prometheus] },
    containerTag "Prometheus" "prom/prometheus:v2.38.0" [.prometheus]
      ["PROMETHEUS_CONTAINER_TAG"],
    additionalFlags "additionalFlags" "Additional Prometheus Flags" "Prometheus" .prometheus []]

/-- The flags have no variable of their own: they are shown as an entry of a list. -/
def exporter : List Declaration :=
  [{  id := "enableRootFs"
      name := "Allow Root Filesystem Access"
      kind := .bool
      description :=
        "Give the exporter permission to view your root filesystem instead of being limited to " ++
          "its own Docker container. This is needed to report free disk space on the root " ++
          "filesystem."
      defaults := .always (.bool false)
      affects := [.exporter] },
    containerTag "Node Exporter" "prom/node-exporter:v1.3.1" [.exporter]
      ["EXPORTER_CONTAINER_TAG"],
    additionalFlags "additionalFlags" "Additional Exporter Flags" "the Node Exporter" .exporter
      []]

def bitflyNodeMetrics : List Declaration :=
  [{  id := "bitflySecret"
      name := "Beaconcha.in API Key"
      kind := .string
      description :=
        "The API key used to authenticate your Beaconcha.in node metrics integration. Found on " ++
          "your Beaconcha.in account settings page."
      defaults := .always (.string "")
      affects := [.validator, .eth2]
      shownAs := ["BITFLY_NODE_METRICS_SECRET"] },
    { id := "bitflyEndpoint"
      name := "Node Metrics Endpoint"
      kind := .string
      description := "The endpoint to send your Beaconcha.in Node Metrics data to."
      defaults := .always (.string "https://beaconcha.in/api/v1/client/metrics")
      affects := [.validator, .eth2]
      shownAs := ["BITFLY_NODE_METRICS_ENDPOINT"] },
    { id := "bitflyMachineName"
      name := "Node Metrics Machine Name"
      kind := .string
      description :=
        "The name of the machine you are running on. This is used to identify your machine in " ++
          "the mobile app."
      defaults := .always (.string "Smartnode")
      affects := [.validator, .eth2]
      shownAs := ["BITFLY_NODE_METRICS_MACHINE_NAME"] }]

end NodeSettings.Catalog
