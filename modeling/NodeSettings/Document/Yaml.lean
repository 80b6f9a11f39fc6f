import NodeSettings.Document.Error
import NodeSettings.Yaml.Basic
import NodeSettings.Yaml.Style

/-!
Documents as YAML: a mapping of mappings of strings. On reading, truth values and numbers stand for
their texts, and null for an empty text or an empty table.
-/

namespace NodeSettings.Document

namespace Yaml

/-- The text that a single value stands for. -/
def scalarText : NodeSettings.Yaml → Except StoreError String
  | .null => .ok ""
  | .bool b => .ok (if b then "true" else "false")
  | .number n => .ok n.text
  | .string s => .ok s
  | other => .error (.notScalar other.description)

/-- The table of a group's entries. -/
def groupOfEntries (group : String) :
    List (NodeSettings.Yaml × NodeSettings.Yaml) → Except StoreError (Table String)
  | entries => entries.foldlM (fun (t : Table String) e => do
      let key ← StoreError.within (.readingKey group) (scalarText e.1)
      let text ← StoreError.within (.readingText group key) (scalarText e.2)
      return t.insert key text) ∅

/-- The table of a group. -/
def groupOfYaml (group : String) : NodeSettings.Yaml → Except StoreError (Table String)
  | .null => .ok ∅
  | .mapping entries => groupOfEntries group entries
  | other => .error (.notTable .yaml group other.description)

end Yaml

/-- The document that a YAML value holds. -/
def ofYaml : NodeSettings.Yaml → Except StoreError Document
  | .null => .ok ∅
  | .mapping groups => groups.foldlM (fun (d : Document) g => do
      let name ← StoreError.within .readingGroupName (Yaml.scalarText g.1)
      return d.insert name (← Yaml.groupOfYaml name g.2)) ∅
  | other => .error (.notGroups .yaml other.description)

namespace Yaml

open NodeSettings.Yaml (writeScalar isSimpleKey endLine)

/-- A key up to its colon, after `front` and with further lines indented by `indent`. A long key
gets a line and a mark of its own. -/
def writeKey (front : List Char) (indent : Nat) (key : List Char) : List Char :=
  let scalar := writeScalar (indent + 2) key
  if isSimpleKey key then front ++ scalar ++ [':']
  else front ++ ['?', ' '] ++ scalar ++ endLine scalar ++ List.replicate indent ' ' ++ [':']

/-- A text under its key. -/
def writeText (front : List Char) (key text : String) : List Char :=
  let scalar := writeScalar 4 text.toList
  writeKey front 2 key.toList ++ [' '] ++ scalar ++ endLine scalar

/-- The texts of a group, the first of them after `front` and the others on lines of their own. -/
def writeTexts (front : List Char) : List (String × String) → List Char
  | [] => []
  | (key, text) :: rest => writeText front key text ++ writeTexts [' ', ' '] rest

/-- A group under its name. After a name with a mark of its own its first text follows on the line
of the colon. -/
def writeGroup (name : String) (t : Table String) : List Char :=
  let texts :=
    if t.entries.isEmpty then [' ', '\x7b', '\x7d', '\n']
    else if isSimpleKey name.toList then '\n' :: writeTexts [' ', ' '] t.entries
    else writeTexts [' '] t.entries
  writeKey [] 0 name.toList ++ texts

end Yaml

/-- The document as YAML, with a line for each text. -/
def yamlText (d : Document) : String :=
  if d.entries.isEmpty then "\x7b\x7d\n"
  else String.ofList (d.entries.flatMap fun g => Yaml.writeGroup g.1 g.2)

end NodeSettings.Document
