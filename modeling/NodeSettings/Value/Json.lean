import NodeSettings.Json.Basic
import NodeSettings.Value.Basic

/-!
The JSON form of values: an object of the kind's name and the bare value. On reading, an array of
the two will do as well, and other members of the object are ignored.
-/

namespace NodeSettings.Value

attribute [local instance (high)] instPowNat

/-- The bare value as JSON. -/
def bareJson : Value → Json
  | bool b => .bool b
  | int i => .number (if i < 0 then .negative i else .natural (.ofNat i.toInt.toNat))
  | uint n => .number (.natural n)
  | uint16 n => .number (.natural (.ofNat n.toNat))
  | float x => .number (.float x)
  | string s => .string s
  | choice s => .string s

/-- The text of the JSON form. -/
def jsonText (v : Value) : String :=
  "\x7b\"type\":" ++ Json.quote v.kind.name ++ ",\"value\":" ++ v.bareJson.compact ++ "\x7d"

/-- The whole number of a JSON number; a float is none. -/
private def wholeNumber? : Json.Number → Option Int
  | .natural n => some n.toNat
  | .negative i => some i.toInt
  | .float _ => none

/-- The value of a kind that bare JSON denotes. Whole numbers must be in range; a float may be given
as a whole number. -/
def ofBareJson? (kind : Kind) (j : Json) : Option Value :=
  match kind, j with
  | .bool, .bool b => some (bool b)
  | .string, .string s => some (string s)
  | .choice, .string s => some (choice s)
  | .float, .number (.float x) => some (float x)
  | .float, .number n => (wholeNumber? n).map fun i => float (.ofInt i)
  | .int, .number n =>
    (wholeNumber? n).bind fun i =>
      if -2 ^ (63 : Nat) ≤ i ∧ i < 2 ^ (63 : Nat) then some (int (.ofInt i)) else none
  | .uint, .number n =>
    (wholeNumber? n).bind fun i => if 0 ≤ i then some (uint (.ofNat i.toNat)) else none
  | .uint16, .number n =>
    (wholeNumber? n).bind fun i =>
      if 0 ≤ i ∧ i < 2 ^ (16 : Nat) then some (uint16 (.ofNat i.toNat)) else none
  | _, _ => none

/-- The kind that a tag names: its name, or an object with nothing under the name. -/
private def tagKind? : Json.Syntax → Option Kind
  | .string codes => (Json.textOfCodes? codes).bind Named.find?
  | .object [(codes, .null)] => (Json.textOfCodes? codes).bind Named.find?
  | _ => none

/-- The value of a syntax tree in the JSON form. -/
def ofJson? : Json.Syntax → Option Value
  | .array [tag, bare] => ofTagged? tag bare
  | .object members =>
    match members.mapM fun m => (Json.textOfCodes? m.1).map fun key => (key, m.2) with
    | none => none
    | some members =>
      match members.filter (·.1 == "type"), members.filter (·.1 == "value") with
      | [(_, tag)], [(_, bare)] => ofTagged? tag bare
      | _, _ => none
  | _ => none
where
  ofTagged? (tag bare : Json.Syntax) : Option Value :=
    match tagKind? tag, Json.ofSyntax? Json.depthLimit bare with
    | some kind, some j => ofBareJson? kind j
    | _, _ => none

end NodeSettings.Value
