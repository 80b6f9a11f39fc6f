import NodeSettings.Path

/-!
The two formats of settings files, and which of them a file has.
-/

namespace NodeSettings.Document

inductive Format where
  | yaml | json
deriving DecidableEq

namespace Format

def name : Format → String
  | yaml => "YAML"
  | json => "JSON"

/-- A file whose extension is `json`, in letters of either case, is JSON; any other is YAML. -/
def ofPath (path : String) : Format :=
  match Path.extension? path with
  | some e => if e.toList.map Char.toLower = "json".toList then json else yaml
  | none => yaml

end Format
end NodeSettings.Document
