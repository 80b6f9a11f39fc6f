import NodeSettings.Parameter
import NodeSettings.Version

/-!
Parameters and choices that several groups declare alike.
-/

namespace NodeSettings.Catalog

/-- Image of the proxy in front of the light execution clients. -/
def proxyImage : String := "rocketpool/smartnode-pow-proxy:" ++ Version.current.stamp

/-- The name of a variable, which tells the fallback client's from the primary one's. -/
def variableName (isFallback : Bool) (name : String) : String :=
  if isFallback then "FALLBACK_" ++ name else name

def containerTag (program tag : String) (affects : List Container) (shownAs : List String) :
    Declaration where
  id := "containerTag"
  name := "Container Tag"
  kind := .string
  description :=
    "The tag name of the " ++ program ++ " container you want to use on Docker Hub."
  defaults := .always (.string tag)
  affects := affects
  shownAs := shownAs
  overwriteOnUpgrade := true

def additionalFlags (id name program : String) (container : Container)
    (shownAs : List String) : Declaration where
  id := id
  name := name
  kind := .string
  description :=
    "Additional custom command line flags you want to pass to " ++ program ++
      ", to take advantage of other settings that this configuration doesn't cover."
  defaults := .always (.string "")
  affects := [container]
  shownAs := shownAs
  canBeBlank := true

def maxPeers (program : String) (count : UInt16) (container : Container) (shownAs : String) :
    Declaration where
  id := "maxPeers"
  name := "Max Peers"
  kind := .uint16
  description :=
    "The maximum number of peers " ++ program ++
      " should connect to. This can be lowered to improve performance on low-power systems or " ++
          "constrained networks."
  defaults := .always (.uint16 count)
  affects := [container]
  shownAs := [shownAs]

def modeChoices (subject : String) : List Choice :=
  [⟨"Locally Managed", "Let the stack manage " ++ subject ++ " for you (Docker Mode).",
      .ofNamed Mode.locallyManaged⟩,
    ⟨"Externally Managed",
      "Use an existing " ++ subject ++ " that you manage on your own (Hybrid Mode).",
      .ofNamed Mode.externallyManaged⟩]

/-- The hint that goes with every address of an external client. -/
def addressNote : String :=
  "NOTE: if it runs on the same machine, addresses like `localhost` will not work due to Docker " ++
      "limitations; use the machine's LAN IP address instead."

end NodeSettings.Catalog
