import NodeSettings.Document.Json
import NodeSettings.Document.Yaml

/-!
Texts of documents: reading a document from a text in a format, and writing it.
-/

namespace NodeSettings.Document

/-- The document of a text. A blank text holds an empty document. -/
def decode (text : String) (format : Format) : Except StoreError Document :=
  if text.toList.all Text.isBlank then .ok ∅
  else
    match format with
    | .yaml =>
      match NodeSettings.Yaml.parse? text with
      | some value => ofYaml value
      | none => .error (.during (.parsing .yaml) (.malformed .yaml))
    | .json =>
      match NodeSettings.Json.parse? text with
      | some value => ofJson value
      | none => .error (.during (.parsing .json) (.malformed .json))

/-- The text of a document. -/
def encode (d : Document) : Format → String
  | .yaml => d.yamlText
  | .json => d.jsonText

end NodeSettings.Document
