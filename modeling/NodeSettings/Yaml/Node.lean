import NodeSettings.Yaml.Scanner

/-!
The nodes of a YAML text: its tokens as a tree, with anchors, tags and aliases still in place. Every
reader takes the tokens in front of it and returns the rest; `fuel` bounds their nesting.
-/

namespace NodeSettings.Yaml

/-- What may stand in front of a node. A tag is resolved: its handle has been replaced. -/
structure Properties where
  anchor : Option Nat := none
  tag : Option (List Char) := none

inductive Node where
  | reference (label : Nat)
  | scalar (props : Properties) (text : List Char) (plain : Bool)
  | sequence (props : Properties) (items : List Node)
  | mapping (props : Properties) (entries : List (Node × Node))

/-- What the handles of tags stand for. -/
abbrev Handles := List (List Char × List Char)

namespace Handles

/-- The handles that need no directive. -/
def standard : Handles := [(['!'], ['!']), (['!', '!'], "tag:yaml.org,2002:".toList)]

/-- The tag of a handle and a suffix; without a handle the suffix is all of it. -/
def resolve? (handles : Handles) (handle suffix : List Char) : Option (List Char) :=
  if handle.isEmpty then some suffix
  else (handles.lookup handle).map fun start => start ++ suffix

end Handles

namespace Node

/-- The node where none is written. -/
def empty : Node := scalar {} [] true

/-- A scalar loses the tag `!`, and counts as quoted then unless it is written plain. -/
def ofScalar (props : Properties) (text : List Char) (plain : Bool) : Node :=
  if props.tag = some ['!'] then scalar { props with tag := none } text plain
  else scalar props text plain

/-- An anchor and a tag in either order, each at most once. -/
def readProperties? (handles : Handles) (tokens : List Token) :
    Option (Properties × List Token) :=
  match tokens with
  | .anchor label :: .tag handle suffix :: rest
  | .tag handle suffix :: .anchor label :: rest =>
    (handles.resolve? handle suffix).map fun tag => (⟨some label, some tag⟩, rest)
  | .anchor label :: rest => some (⟨some label, none⟩, rest)
  | .tag handle suffix :: rest =>
    (handles.resolve? handle suffix).map fun tag => (⟨none, some tag⟩, rest)
  | _ => some ({}, tokens)

/-- Whether the next token, if there is one, is among the given ones. -/
def nextIsIn (tokens among : List Token) : Bool := (tokens.head?).any (among.contains ·)

mutual

/-- A node. Blocks may begin here if `inBlock`; with `indentless`, the entries of a sequence may
follow without a deeper indentation. -/
def read? (handles : Handles) (inBlock indentless : Bool) (fuel : Nat)
    (tokens : List Token) : Option (Node × List Token) :=
  match fuel with
  | 0 => none
  | fuel + 1 =>
    match tokens with
    | .reference label :: rest => some (reference label, rest)
    | _ =>
      match readProperties? handles tokens with
      | none => none
      | some (props, tokens) =>
        match tokens with
        | .scalar text plain :: rest => some (ofScalar props text plain, rest)
        | .flowSequenceStart :: rest =>
          (flowItems? handles true fuel rest).map fun (items, rest) => (sequence props items, rest)
        | .flowMappingStart :: rest =>
          (flowEntries? handles true fuel rest).map fun (es, rest) => (mapping props es, rest)
        | _ =>
          if indentless && nextIsIn tokens [.blockEntry] then
            (indentlessItems? handles fuel tokens).map fun (items, rest) =>
              (sequence props items, rest)
          else
            match inBlock, tokens with
            | true, .blockSequenceStart :: rest =>
              (blockItems? handles fuel rest).map fun (items, rest) => (sequence props items, rest)
            | true, .blockMappingStart :: rest =>
              (blockEntries? handles fuel rest).map fun (es, rest) => (mapping props es, rest)
            | _, _ =>
              if props.anchor.isSome || props.tag.isSome then some (scalar props [] true, tokens)
              else none

/-- A node, or the empty one where the next token is among those that may follow a missing node. -/
def readOrEmpty? (handles : Handles) (inBlock indentless : Bool) (ends : List Token)
    (fuel : Nat) (tokens : List Token) : Option (Node × List Token) :=
  match fuel with
  | 0 => none
  | fuel + 1 =>
    if nextIsIn tokens ends then some (empty, tokens)
    else read? handles inBlock indentless fuel tokens

/-- The value of an entry: what stands after its mark, and nothing if there is no mark. -/
def readValue? (handles : Handles) (inBlock : Bool) (ends : List Token) (fuel : Nat)
    (tokens : List Token) : Option (Node × List Token) :=
  match fuel with
  | 0 => none
  | fuel + 1 =>
    match tokens with
    | .value :: rest => readOrEmpty? handles inBlock inBlock ends fuel rest
    | _ => some (empty, tokens)

private def blockItems? (handles : Handles) (fuel : Nat) (tokens : List Token) :
    Option (List Node × List Token) :=
  match fuel with
  | 0 => none
  | fuel + 1 =>
    match tokens with
    | .blockEnd :: rest => some ([], rest)
    | .blockEntry :: rest =>
      match readOrEmpty? handles true false [.blockEntry, .blockEnd] fuel rest with
      | some (item, rest) =>
        (blockItems? handles fuel rest).map fun (items, rest) => (item :: items, rest)
      | none => none
    | _ => none

private def indentlessItems? (handles : Handles) (fuel : Nat) (tokens : List Token) :
    Option (List Node × List Token) :=
  match fuel with
  | 0 => none
  | fuel + 1 =>
    match tokens with
    | .blockEntry :: rest =>
      match readOrEmpty? handles true false [.blockEntry, .key, .value, .blockEnd] fuel rest with
      | some (item, rest) =>
        (indentlessItems? handles fuel rest).map fun (items, rest) => (item :: items, rest)
      | none => none
    | _ => some ([], tokens)

def blockEntries? (handles : Handles) (fuel : Nat) (tokens : List Token) :
    Option (List (Node × Node) × List Token) :=
  match fuel with
  | 0 => none
  | fuel + 1 =>
    match tokens with
    | .blockEnd :: rest => some ([], rest)
    | .key :: rest =>
      match readOrEmpty? handles true true [.key, .value, .blockEnd] fuel rest with
      | none => none
      | some (key, rest) =>
        match readValue? handles true [.key, .value, .blockEnd] fuel rest with
        | none => none
        | some (value, rest) =>
          (blockEntries? handles fuel rest).map fun (es, rest) => ((key, value) :: es, rest)
    | _ => none

/-- Items between commas, up to the closing bracket. An item with a mark of a key is a mapping of
one entry; where its key is missing, the token in its place is passed over. -/
private def flowItems? (handles : Handles) (isFirst : Bool) (fuel : Nat) (tokens : List Token) :
    Option (List Node × List Token) :=
  match fuel with
  | 0 => none
  | fuel + 1 =>
    match tokens with
    | .flowSequenceEnd :: rest => some ([], rest)
    | _ =>
      let tokens? := if isFirst then some tokens else
        match tokens with
        | .flowEntry :: rest => some rest
        | _ => none
      match tokens? with
      | none => none
      | some (.flowSequenceEnd :: rest) => some ([], rest)
      | some (.key :: rest) =>
        let key? :=
          if nextIsIn rest [.value, .flowEntry, .flowSequenceEnd] then some (empty, rest.drop 1)
          else read? handles false false fuel rest
        match key? with
        | none => none
        | some (key, rest) =>
          match readValue? handles false [.flowEntry, .flowSequenceEnd] fuel rest with
          | none => none
          | some (value, rest) =>
            (flowItems? handles false fuel rest).map fun (items, rest) =>
              (mapping {} [(key, value)] :: items, rest)
      | some tokens =>
        match read? handles false false fuel tokens with
        | none => none
        | some (item, rest) =>
          (flowItems? handles false fuel rest).map fun (items, rest) => (item :: items, rest)

/-- Entries between commas, up to the closing brace. A node without a mark is a key alone. -/
def flowEntries? (handles : Handles) (isFirst : Bool) (fuel : Nat) (tokens : List Token) :
    Option (List (Node × Node) × List Token) :=
  match fuel with
  | 0 => none
  | fuel + 1 =>
    match tokens with
    | .flowMappingEnd :: rest => some ([], rest)
    | _ =>
      let tokens? := if isFirst then some tokens else
        match tokens with
        | .flowEntry :: rest => some rest
        | _ => none
      match tokens? with
      | none => none
      | some (.flowMappingEnd :: rest) => some ([], rest)
      | some (.key :: rest) =>
        match readOrEmpty? handles false false [.value, .flowEntry, .flowMappingEnd] fuel rest with
        | none => none
        | some (key, rest) =>
          match readValue? handles false [.flowEntry, .flowMappingEnd] fuel rest with
          | none => none
          | some (value, rest) =>
            (flowEntries? handles false fuel rest).map fun (es, rest) => ((key, value) :: es, rest)
      | some tokens =>
        match read? handles false false fuel tokens with
        | none => none
        | some (key, rest) =>
          (flowEntries? handles false fuel rest).map fun (es, rest) => ((key, empty) :: es, rest)

end

/-- The directives in front of a document: one version at most, of a known layout, and each handle
at most once. -/
private def readDirectives? (hasVersion : Bool) (handles : Handles) :
    List Token → Option (Handles × List Token)
  | .versionDirective major minor :: rest =>
    if hasVersion || major ≠ 1 || (minor ≠ 1 && minor ≠ 2) then none
    else readDirectives? true handles rest
  | .tagDirective handle start :: rest =>
    if (handles.lookup handle).isSome then none
    else readDirectives? hasVersion (handles ++ [(handle, start)]) rest
  | rest => some (handles, rest)

private def endsDocument : Token → Bool
  | .versionDirective .. | .tagDirective .. | .documentStart | .documentEnd => true
  | _ => false

/-- The root node of tokens that hold at most one document; `none` inside if they hold none. -/
def ofTokens? (tokens : List Token) : Option (Option Node) :=
  let fuel := 4 * tokens.length + 4
  let root? : Option (Option Node × List Token) :=
    match tokens with
    | [] => some (none, [])
    | .versionDirective .. :: _ | .tagDirective .. :: _ | .documentStart :: _ =>
      match readDirectives? false [] tokens with
      | some (handles, .documentStart :: rest) =>
        if (rest.head?).all endsDocument then some (some empty, rest)
        else
          (read? (handles ++ Handles.standard) true false fuel rest).map fun (node, rest) =>
            (some node, rest)
      | _ => none
    | _ => (read? Handles.standard true false fuel tokens).map fun (node, rest) => (some node, rest)
  match root? with
  | some (root, rest) => if rest.all (· == .documentEnd) then some root else none
  | none => none

end Node
end NodeSettings.Yaml
