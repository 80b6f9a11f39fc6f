import NodeSettings.Text.Quoted
import NodeSettings.Yaml.Node
import NodeSettings.Yaml.Plain

/-!
YAML values: reading a text as one value, and the text of a value in messages.
-/

namespace NodeSettings

/-- A YAML value. A mapping keeps its entries in the order of the text, with no key twice. -/
inductive Yaml where
  | null
  | bool (b : Bool)
  | number (n : Yaml.Number)
  | string (s : String)
  | sequence (items : List Yaml)
  | mapping (entries : List (Yaml × Yaml))
  | tagged (tag : String) (value : Yaml)

namespace Yaml

mutual

/-- Equality, in which the order of a mapping's entries does not count. -/
def agrees : Yaml → Yaml → Bool
  | null, null => true
  | bool a, bool b => a == b
  | number m, number n => m.agrees n
  | string s, string t => s == t
  | sequence items, sequence others => itemsAgree items others
  | mapping entries, mapping others =>
    entries.length == others.length && entriesAgree entries others
  | tagged s v, tagged t w => s == t && agrees v w
  | _, _ => false

private def itemsAgree : List Yaml → List Yaml → Bool
  | [], [] => true
  | v :: items, w :: others => agrees v w && itemsAgree items others
  | _, _ => false

/-- Whether each of the first entries is among the others. -/
private def entriesAgree : List (Yaml × Yaml) → List (Yaml × Yaml) → Bool
  | [], _ => true
  | (k, v) :: entries, others =>
    (others.any fun e => agrees k e.1 && agrees v e.2) && entriesAgree entries others

end

/-- Whether no key occurs twice. -/
def keysDiffer : List (Yaml × Yaml) → Bool
  | [] => true
  | (k, _) :: rest => !(rest.any fun e => agrees k e.1) && keysDiffer rest

/-! ## From nodes to values -/

namespace Node

mutual

/-- The anchored nodes inside a node, in the order of the text. -/
private def anchored : Node → List (Nat × Node)
  | node@(.scalar props _ _) => props.anchor.toList.map (·, node)
  | node@(.sequence props items) => props.anchor.toList.map (·, node) ++ anchoredItems items
  | node@(.mapping props entries) =>
    props.anchor.toList.map (·, node) ++ anchoredEntries entries
  | .reference _ => []

private def anchoredItems : List Node → List (Nat × Node)
  | [] => []
  | node :: rest => anchored node ++ anchoredItems rest

private def anchoredEntries : List (Node × Node) → List (Nat × Node)
  | [] => []
  | (k, v) :: rest => anchored k ++ anchored v ++ anchoredEntries rest

end

/-- The nodes that aliases of each label mean: of nodes with one label, the last in the text. -/
def targets (root : Node) : List (Nat × Node) := (anchored root).reverse

mutual

/-- How many starts and ends of nodes a node holds. -/
private def eventCount : Node → Nat
  | .reference _ | .scalar .. => 1
  | .sequence _ items => 2 + eventCountItems items
  | .mapping _ entries => 2 + eventCountEntries entries

private def eventCountItems : List Node → Nat
  | [] => 0
  | node :: rest => eventCount node + eventCountItems rest

private def eventCountEntries : List (Node × Node) → Nat
  | [] => 0
  | (k, v) :: rest => eventCount k + eventCount v + eventCountEntries rest

end

/-- How many aliases may be followed while a node is read. -/
def aliasLimit (root : Node) : Nat := 100 * eventCount root

/-- How deep containers may be nested, counting those that aliases stand for. -/
def depthLimit : Nat := 128

/-- The name of a tag of its own: all after the mark, and without a second mark if more follows. -/
def ownTag? (props : Properties) : Option (List Char) :=
  match props.tag with
  | some ('!' :: '!' :: c :: rest) => some (c :: rest)
  | some ('!' :: rest) => some rest
  | _ => none

/-- A scalar's value under its tag, if it has one. The standard tags of truth values, numbers and
null ask for a text of that type; any other makes a string. -/
def scalarValue? (tag : Option (List Char)) (text : List Char) (plain : Bool) : Option Yaml :=
  let asString : Yaml := .string (String.ofList text)
  match tag with
  | none =>
    if plain then
      match Plain.ofText text with
      | .null => some .null
      | .bool b => some (.bool b)
      | .number n => some (.number n)
      | .tooLarge => none
      | .text => some asString
    else some asString
  | some tag =>
    if tag = "tag:yaml.org,2002:bool".toList then (Plain.bool? text).map .bool
    else if tag = "tag:yaml.org,2002:int".toList then
      match (Plain.whole? text).bind Plain.ofWhole? with
      | some (.number n) => some (.number n)
      | _ => none
    else if tag = "tag:yaml.org,2002:float".toList then
      (Plain.float? text).map fun x => .number (.float x)
    else if tag = "tag:yaml.org,2002:null".toList then
      if text ≠ [] && Plain.isNull text then some .null else none
    else some asString

/-- A value under the tag of its own that its node has, if that has not been taken already. -/
def underTag? (inTag : Bool) (props : Properties) (value : Yaml) : Option Yaml :=
  match ownTag? props with
  | some tag =>
    if inTag then some value
    else if tag = [] then none
    else some (.tagged (String.ofList tag) value)
  | none => some value

/-- The node that an alias means; the state is how many more aliases may be followed. -/
def follow? (targets : List (Nat × Node)) : Node → StateT Nat Option Node
  | .reference label => do
    let left ← get
    if left = 0 then failure
    set (left - 1)
    StateT.lift (targets.lookup label)
  | node => pure node

/-- The value of a node. `inTag` tells that a tag around the node has been taken, so that its own
does not count. -/
def value? (targets : List (Nat × Node)) (depth : Nat) (inTag : Bool) (node : Node) :
    StateT Nat Option Yaml := do
  match ← follow? targets node with
  | .reference _ => failure
  | .scalar props text plain =>
    let tag := if inTag || (ownTag? props).isSome then none else props.tag
    StateT.lift ((scalarValue? tag text plain).bind (underTag? inTag props))
  | .sequence props items =>
    match depth with
    | 0 => failure
    | depth + 1 =>
      let items ← items.mapM fun item => value? targets depth false item
      StateT.lift (underTag? inTag props (.sequence items))
  | .mapping props entries =>
    match depth with
    | 0 => failure
    | depth + 1 =>
      let inKeys := inTag || (ownTag? props).isSome
      let entries ← entries.mapM fun (k, v) => do
        let key ← value? targets depth inKeys k
        let value ← value? targets depth false v
        pure (key, value)
      if keysDiffer entries then StateT.lift (underTag? inTag props (.mapping entries))
      else failure

end Node

/-- The value of a text that holds at most one document; none at all counts as null. -/
def parse? (text : String) : Option Yaml :=
  match (tokens? text.toList).bind Node.ofTokens? with
  | none => none
  | some none => some null
  | some (some root) =>
    ((Node.value? root.targets Node.depthLimit false root).run root.aliasLimit).map (·.1)

/-! ## Texts in messages -/

mutual

/-- The text of a value in messages. Keys that are truth values, numbers or strings are written
without their type. -/
def description : Yaml → String
  | null => "Null"
  | bool b => "Bool(" ++ (if b then "true" else "false") ++ ")"
  | number n => "Number(" ++ n.text ++ ")"
  | string s => "String(" ++ Text.quote s ++ ")"
  | sequence items => "Sequence [" ++ ", ".intercalate (itemDescriptions items) ++ "]"
  | mapping entries =>
    "Mapping \x7b" ++ ", ".intercalate (entryDescriptions entries) ++ "\x7d"
  | tagged tag value =>
    "TaggedValue \x7b tag: !" ++ tag ++ ", value: " ++ description value ++ " \x7d"

private def itemDescriptions : List Yaml → List String
  | [] => []
  | v :: rest => description v :: itemDescriptions rest

private def entryDescriptions : List (Yaml × Yaml) → List String
  | [] => []
  | (k, v) :: rest =>
    let key := match k with
      | bool b => if b then "true" else "false"
      | number n => n.text
      | string s => Text.quote s
      | k => description k
    (key ++ ": " ++ description v) :: entryDescriptions rest

end

end Yaml
end NodeSettings
