import NodeSettings.Catalog.Shared

/-!
The settings of the addon that draws on the graffiti wall.
-/

namespace NodeSettings.Catalog

def graffitiWall : List Declaration :=
  [{  id := "enabled"
      name := "Enabled"
      kind := .bool
      description := "Enable or disable the Graffiti Wall Writer addon."
      defaults := .always (.bool false)
      affects := [.validator, .graffitiWall]
      shownAs := ["ADDON_GWW_ENABLED"] },
    { id := "inputUrl"
      name := "Input URL"
      kind := .string
      description :=
        "URL or filepath for the input JSON file that contains the graffiti image to draw."
      defaults :=
        .always (.string "https://cdn-rocketpool.s3.us-west-2.amazonaws.com/graffiti.json")
      affects := [.graffitiWall]
      shownAs := ["ADDON_GWW_INPUT_URL"] },
    { id := "updateWallTime"
      name := "Update Wall Time"
      kind := .uint
      description := "The time, in seconds, between updates of the wall state."
      defaults := .always (.uint 600)
      affects := [.graffitiWall]
      shownAs := ["ADDON_GWW_UPDATE_WALL_TIME"] },
    { id := "updatePixelTime"
      name := "Update Pixel Time"
      kind := .uint
      description := "The time, in seconds, between graffiti updates of the validator client."
      defaults := .always (.uint 60)
      affects := [.graffitiWall]
      shownAs := ["ADDON_GWW_UPDATE_PIXEL_TIME"] },
    containerTag "Graffiti Wall Writer" "rocketpool/graffiti-wall-addon:v1.0.0" [.graffitiWall]
      ["ADDON_GWW_CONTAINER_TAG"],
    additionalFlags "additionalFlags" "Additional Flags" "the Graffiti Wall Writer" .graffitiWall
      ["ADDON_GWW_ADDITIONAL_FLAGS"]]

end NodeSettings.Catalog
