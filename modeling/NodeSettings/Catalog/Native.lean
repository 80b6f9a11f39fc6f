import NodeSettings.Catalog.Shared

/-!
The settings of a node that runs on the host itself, beside clients that its owner manages. None of
them is shown in the environment, and none restarts a container.
-/

namespace NodeSettings.Catalog

private def ownedClientChoice (client : ConsensusClient) : Choice :=
  let title := match client with
    | .lighthouse => "Lighthouse"
    | .nimbus => "Nimbus"
    | .prysm => "Prysm"
    | .teku => "Teku"
  ⟨title, "Connect to a " ++ title ++ " node you manage.", .ofNamed client⟩

def native : List Declaration :=
  [{  id := "ecHttpUrl"
      name := "Execution Client URL"
      kind := .string
      description := "The URL of the HTTP RPC endpoint for your Execution client."
      defaults := .always (.string "http://127.0.0.1:8545") },
    { id := "consensusClient"
      name := "Consensus Client"
      kind := .choice
      description := "Select which Consensus client you are using."
      defaults := .always (.ofNamed ConsensusClient.nimbus)
      choices := ConsensusClient.all.map ownedClientChoice },
    { id := "ccHttpUrl"
      name := "Consensus Client URL"
      kind := .string
      description := "The URL of the HTTP Beacon API endpoint for your Consensus client."
      defaults := .always (.string "http://127.0.0.1:5052") },
    { id := "validatorRestartCommand"
      name := "VC Restart Script"
      kind := .string
      description :=
        "The absolute path to a custom script that will be invoked when the daemon needs to " ++
          "restart your validator client to load new keys."
      defaults := .always (.string "~/.rocketpool/restart-vc.sh") },
    { id := "validatorStopCommand"
      name := "VC Stop Script"
      kind := .string
      description :=
        "The absolute path to a custom script that will be invoked when the daemon needs to " ++
          "stop your validator client."
      defaults := .always (.string "~/.rocketpool/stop-validator.sh") }]

end NodeSettings.Catalog
