import NodeSettings.Document.Error
import NodeSettings.Json.Basic

/-!
Documents as JSON: an object of objects of strings. On reading, truth values and numbers stand for
their texts, and null for an empty text or an empty table.
-/

namespace NodeSettings.Document

namespace Json

/-- The text that a single value stands for. -/
def scalarText? : NodeSettings.Json → Option String
  | .null => some ""
  | .bool b => some (if b then "true" else "false")
  | .number n => some n.text
  | .string s => some s
  | .array _ | .object _ => none

/-- The table of a group's members. -/
def groupOfMembers (group : String) :
    List (String × NodeSettings.Json) → Except StoreError (Table String)
  | members => members.foldlM (fun (t : Table String) (m : String × NodeSettings.Json) =>
      match scalarText? m.2 with
      | some text => .ok (t.insert m.1 text)
      | none => .error (.notScalarAt group m.1 m.2.compact)) ∅

/-- The table of a group. -/
def groupOfJson (group : String) : NodeSettings.Json → Except StoreError (Table String)
  | .null => .ok ∅
  | .object members => groupOfMembers group members
  | other => .error (.notTable .json group other.compact)

end Json

/-- The document that a JSON value holds. -/
def ofJson : NodeSettings.Json → Except StoreError Document
  | .null => .ok ∅
  | .object groups => groups.foldlM (fun (d : Document) (g : String × NodeSettings.Json) => do
      return d.insert g.1 (← Json.groupOfJson g.1 g.2)) ∅
  | other => .error (.notGroups .json other.compact)

namespace Json

/-- Members on lines of their own, each after some spaces, between braces that end after `outer`
spaces. -/
def writeMembers (outer : String) (members : List String) : String :=
  if members.isEmpty then "\x7b\x7d"
  else
    let inner := outer ++ "  "
    "\x7b\n" ++ ",\n".intercalate (members.map (inner ++ ·)) ++ "\n" ++ outer ++ "\x7d"

def writeMember (key value : String) : String :=
  NodeSettings.Json.quote key ++ ": " ++ value

def writeGroup (t : Table String) : String :=
  writeMembers "  " (t.entries.map fun e => writeMember e.1 (NodeSettings.Json.quote e.2))

end Json

/-- The document as JSON, with a line for each text. -/
def jsonText (d : Document) : String :=
  Json.writeMembers "" (d.entries.map fun g => Json.writeMember g.1 (Json.writeGroup g.2)) ++ "\n"

end NodeSettings.Document
