import NodeSettings.Document.Text
import NodeSettings.Proofs.JsonText
import NodeSettings.Proofs.Yaml.Entries

/-!
YAML texts of documents. The text that a document is written as in YAML is read as the document:
its tokens make one node, `Node.ofTokens?_document`, the node holds no value but strings,
`Node.value?_document`, and the strings are the names and texts of the document.
-/

namespace NodeSettings

namespace Yaml

/-! ## Nodes -/

namespace Node

/-- The node of a text. -/
def ofText (s : String) : Node := .scalar {} s.toList (Style.ofText s.toList = .plain)

/-- The node of a group. -/
def ofGroup (t : Table String) : Node :=
  .mapping {} (t.entries.map fun e => (ofText e.1, ofText e.2))

/-- The node of a document. -/
def ofDocument (d : Document) : Node :=
  .mapping {} (d.entries.map fun g => (ofText g.1, ofGroup g.2))

variable {handles : Handles} {fuel : Nat} {tokens rest : List Token} {node : Node}

theorem read?_text (inBlock indentless : Bool) (s : String) :
    read? handles inBlock indentless (fuel + 1) (scalarToken s.toList :: rest) =
      some (ofText s, rest) := by
  simp [read?, readProperties?, scalarToken, ofScalar, ofText]

theorem read?_block {indentless : Bool} (starts : tokens = .blockMappingStart :: rest) :
    read? handles true indentless (fuel + 1) tokens =
      (blockEntries? handles fuel rest).map fun (es, rest) => (.mapping {} es, rest) := by
  subst starts
  rw [read?]
  · simp [readProperties?, nextIsIn]
  · rintro label rest ⟨⟩

/-- One entry of a block is read: its key, and a node that is no empty one. -/
theorem blockEntries?_entry (key : String)
    (starts : nextIsIn tokens [.key, .value, .blockEnd] = false)
    (read : read? handles true true fuel tokens = some (node, rest)) :
    blockEntries? handles (fuel + 3) (.key :: scalarToken key.toList :: .value :: tokens) =
      (blockEntries? handles (fuel + 2) rest).map fun (es, rest) =>
        ((ofText key, node) :: es, rest) := by
  have first : nextIsIn (scalarToken key.toList :: .value :: tokens) [.key, .value, .blockEnd] =
      false := rfl
  have keyed : readOrEmpty? handles true true [.key, .value, .blockEnd] (fuel + 2)
      (scalarToken key.toList :: .value :: tokens) = some (ofText key, .value :: tokens) := by
    rw [readOrEmpty?, first, if_neg Bool.false_ne_true, read?_text]
  have valued : readValue? handles true [.key, .value, .blockEnd] (fuel + 2) (.value :: tokens) =
      some (node, rest) := by
    rw [readValue?, readOrEmpty?, starts, if_neg Bool.false_ne_true, read]
  rw [blockEntries?, keyed]
  simp only [valued]

theorem blockEntries?_texts (es : List (String × String)) (enough : es.length + 3 ≤ fuel) :
    blockEntries? handles fuel (es.flatMap textTokens ++ .blockEnd :: rest) =
      some (es.map fun e => (ofText e.1, ofText e.2), rest) := by
  induction es generalizing fuel with
  | nil =>
    obtain ⟨fuel, rfl⟩ : ∃ n, fuel = n + 1 := ⟨fuel - 1, by omega⟩
    rfl
  | cons e es ih =>
    rw [List.length_cons] at enough
    obtain ⟨fuel, rfl⟩ : ∃ n, fuel = n + 1 + 3 := ⟨fuel - 4, by omega⟩
    have shape : (e :: es).flatMap textTokens ++ .blockEnd :: rest =
        .key :: scalarToken e.1.toList :: .value :: scalarToken e.2.toList ::
          (es.flatMap textTokens ++ .blockEnd :: rest) := rfl
    rw [shape, blockEntries?_entry e.1 rfl (read?_text true true e.2), ih (by omega)]
    rfl

/-- A group is read whether it has texts or is a pair of braces. -/
theorem read?_group {g : String × Table String} (enough : g.2.entries.length + 4 ≤ fuel) :
    read? handles true true fuel ((groupTokens g).drop 3 ++ rest) = some (ofGroup g.2, rest) := by
  obtain ⟨fuel, rfl⟩ : ∃ n, fuel = n + 1 := ⟨fuel - 1, by omega⟩
  cases empty : g.2.entries.isEmpty with
  | true =>
    obtain ⟨fuel, rfl⟩ : ∃ n, fuel = n + 1 := ⟨fuel - 1, by omega⟩
    have none : g.2.entries = [] := by simpa using empty
    have shape : (groupTokens g).drop 3 ++ rest = .flowMappingStart :: .flowMappingEnd :: rest := by
      simp [groupTokens, empty]
    rw [shape, ofGroup, none]
    rfl
  | false =>
    have shape : (groupTokens g).drop 3 ++ rest =
        .blockMappingStart :: (g.2.entries.flatMap textTokens ++ .blockEnd :: rest) := by
      simp [groupTokens, empty]
    rw [shape, read?_block rfl, blockEntries?_texts g.2.entries (Nat.le_of_succ_le_succ enough)]
    rfl

theorem blockEntries?_groups (gs : List (String × Table String))
    (enough : (gs.flatMap groupTokens).length + 2 ≤ fuel) :
    blockEntries? handles fuel (gs.flatMap groupTokens ++ [.blockEnd]) =
      some (gs.map fun g => (ofText g.1, ofGroup g.2), []) := by
  induction gs generalizing fuel with
  | nil =>
    obtain ⟨fuel, rfl⟩ : ∃ n, fuel = n + 1 := ⟨fuel - 1, by omega⟩
    rfl
  | cons g gs ih =>
    -- A group has tokens enough to pay for reading its own entries.
    have size : g.2.entries.length + 5 ≤ (groupTokens g).length := by
      have each : (g.2.entries.flatMap textTokens).length = g.2.entries.length * 4 := by
        rw [List.length_flatMap]
        simp [textTokens]
      cases empty : g.2.entries.isEmpty with
      | true =>
        have none : g.2.entries = [] := by simpa using empty
        simp [groupTokens, none]
      | false =>
        simp only [groupTokens, empty, Bool.false_eq_true, if_false, List.length_append,
          List.length_cons, List.length_nil, each]
        omega
    rw [List.flatMap_cons, List.length_append] at enough
    obtain ⟨fuel, rfl⟩ : ∃ n, fuel = n + 3 := ⟨fuel - 3, by omega⟩
    have shape : (g :: gs).flatMap groupTokens ++ [.blockEnd] = .key :: scalarToken g.1.toList ::
        .value :: ((groupTokens g).drop 3 ++ (gs.flatMap groupTokens ++ [.blockEnd])) := by
      simp [groupTokens]
    have starts : nextIsIn ((groupTokens g).drop 3 ++ (gs.flatMap groupTokens ++ [.blockEnd]))
        [.key, .value, .blockEnd] = false := by
      cases empty : g.2.entries.isEmpty <;> simp [groupTokens, empty, nextIsIn]
    rw [shape, blockEntries?_entry g.1 starts (read?_group (by omega)), ih (by omega)]
    rfl

/-- Tokens that start with a mapping make the one node that is read there. -/
theorem ofTokens?_of_read {t : Token} (start : t = .blockMappingStart ∨ t = .flowMappingStart)
    (read : read? Handles.standard true false (4 * (t :: tokens).length + 4) (t :: tokens) =
      some (node, [])) : ofTokens? (t :: tokens) = some (some node) := by
  unfold ofTokens?
  rcases start with rfl | rfl <;>
    · simp only [read]
      rfl

/-- The tokens of a document make the node of the document. -/
theorem ofTokens?_document (d : Document) :
    ofTokens? (documentTokens d) = some (some (ofDocument d)) := by
  have enough : (d.entries.flatMap groupTokens).length + 2 ≤ 4 * (Token.blockMappingStart ::
      (d.entries.flatMap groupTokens ++ [.blockEnd])).length + 3 := by
    simp only [List.length_cons, List.length_append]
    omega
  refine ofTokens?_of_read (.inl rfl) ?_
  rw [read?_block rfl, blockEntries?_groups d.entries enough]
  rfl

theorem ofTokens?_braces :
    ofTokens? [.flowMappingStart, .flowMappingEnd] = some (some (.mapping {} [])) :=
  ofTokens?_of_read (.inr rfl) rfl

/-! ## Values -/

variable {targets : List (Nat × Node)} {inTag : Bool} {depth : Nat}

/-- A text is a string: it is written plain only where it means nothing else. -/
theorem value?_text (s : String) :
    value? targets depth false (ofText s) = pure (.string s) := by
  have value : scalarValue? none s.toList (Style.ofText s.toList = .plain) = some (.string s) := by
    unfold scalarValue?
    by_cases style : Style.ofText s.toList = .plain
    · simp [style, (Style.permits_plain style).2]
    · simp [style]
  have own : (ownTag? {}).isSome = false := rfl
  rw [value?, ofText, follow?, pure_bind]
  · simp only [own, Bool.or_false, Bool.false_eq_true, if_false, value, Option.bind_some]
    rfl
  · rintro label ⟨⟩

/-- The entries of a mapping whose keys are texts are read one by one. -/
theorem mapM_entries {α : Type} {node : α → Node} {value : α → Yaml}
    (each : ∀ a, value? targets depth false (node a) = pure (value a))
    (entries : List (String × α)) :
    (entries.map fun e => (ofText e.1, node e.2)).mapM (fun (k, v) => do
      let key ← value? targets depth false k
      let value ← value? targets depth false v
      pure (key, value)) =
        (pure (entries.map fun e => (.string e.1, value e.2)) :
          StateT Nat Option (List (Yaml × Yaml))) := by
  induction entries with
  | nil => rfl
  | cons e entries ih =>
    rw [List.map_cons, List.mapM_cons, ih]
    simp only [value?_text, each, pure_bind, List.map_cons]

theorem keysDiffer_entries {α : Type} (value : α → Yaml) {entries : List (String × α)}
    (sorted : entries.Pairwise fun a b => a.1 < b.1) :
    keysDiffer (entries.map fun e => (.string e.1, value e.2)) = true := by
  induction entries with
  | nil => rfl
  | cons a entries ih =>
    obtain ⟨first, later⟩ := List.pairwise_cons.1 sorted
    rw [List.map_cons, keysDiffer, ih later, Bool.and_true, Bool.not_eq_true', List.any_eq_false]
    intro e he
    obtain ⟨b, hb, rfl⟩ := List.mem_map.1 he
    have differs : a.1 ≠ b.1 := fun same => String.lt_irrefl b.1 (same ▸ first b hb)
    simpa [agrees] using differs

/-- A mapping whose keys are texts is the mapping of the values that are read. -/
theorem value?_mapping {α : Type} {node : α → Node} {value : α → Yaml}
    (each : ∀ a, value? targets depth false (node a) = pure (value a)) (t : Table α) :
    value? targets (depth + 1) false (.mapping {} (t.entries.map fun e => (ofText e.1, node e.2))) =
      pure (.mapping (t.entries.map fun e => (.string e.1, value e.2))) := by
  have own : (ownTag? {}).isSome = false := rfl
  rw [value?, follow?, pure_bind]
  · simp only [own, Bool.or_false]
    rw [mapM_entries each, pure_bind, keysDiffer_entries value t.sorted]
    rfl
  · rintro label ⟨⟩

end Node

/-! ## Documents -/

/-- The value of a group. -/
def ofGroup (t : Table String) : Yaml :=
  .mapping (t.entries.map fun e => (.string e.1, .string e.2))

/-- The value of a document. -/
def ofDocument (d : Document) : Yaml :=
  .mapping (d.entries.map fun g => (.string g.1, ofGroup g.2))

theorem value?_document {targets : List (Nat × Node)} (d : Document) :
    Node.value? targets Node.depthLimit false (.ofDocument d) = pure (ofDocument d) :=
  Node.value?_mapping (fun t => Node.value?_mapping Node.value?_text t) d

theorem parse?_yamlText (d : Document) : parse? d.yamlText = some (ofDocument d) := by
  cases empty : d.entries.isEmpty with
  | true =>
    have none : d.entries = [] := by simpa using empty
    have text : d.yamlText = "\x7b\x7d\n" := by rw [Document.yamlText, empty, if_pos rfl]
    have node : Node.ofDocument d = .mapping {} [] := by rw [Node.ofDocument, none]; rfl
    rw [parse?, text, tokens?_braces, Option.bind_some, Node.ofTokens?_braces, ← node]
    simp only [value?_document]
    rfl
  | false =>
    have some_ : d.entries ≠ [] := by simpa using empty
    rw [parse?, tokens?_yamlText some_, Option.bind_some, Node.ofTokens?_document]
    simp only [value?_document]
    rfl

end Yaml

namespace Document

theorem foldlM_string {ε α : Type} {step : Table α → Yaml × Yaml → Except ε (Table α)}
    (value : α → NodeSettings.Yaml)
    (each : ∀ t key a, step t (.string key, value a) = .ok (t.insert key a)) (t : Table α) :
    (t.entries.map fun e => (.string e.1, value e.2)).foldlM step ∅ = .ok t := by
  have inserted := foldlM_insert (fun t e => step t (.string e.1, e.2)) value each t
  rw [List.foldlM_map] at inserted ⊢
  exact inserted

theorem groupOfYaml_ofGroup (group : String) (t : Table String) :
    Yaml.groupOfYaml group (.ofGroup t) = .ok t :=
  foldlM_string .string (fun _ _ _ => rfl) t

theorem ofYaml_ofDocument (d : Document) : ofYaml (.ofDocument d) = .ok d := by
  refine foldlM_string .ofGroup (fun t key a => ?_) d
  have name : StoreError.within .readingGroupName (Yaml.scalarText (.string key)) = .ok key := rfl
  rw [name]
  show (do return t.insert key (← Yaml.groupOfYaml key (.ofGroup a))) = _
  rw [groupOfYaml_ofGroup]
  rfl

/-- The colon behind a name, or the braces of an empty document, are not blank. -/
theorem yamlText_not_blank (d : Document) : d.yamlText.toList.all Text.isBlank = false := by
  rw [yamlText]
  split
  · rfl
  · next some_ =>
    obtain ⟨g, gs, same⟩ := List.exists_cons_of_ne_nil
      (show d.entries ≠ [] by simpa using some_)
    have colon : ':' ∈ Yaml.writeKey [] 0 g.1.toList := by
      unfold Yaml.writeKey
      simp only []
      split <;> simp
    rw [String.toList_ofList, same, List.all_eq_false]
    refine ⟨':', ?_, by decide⟩
    simp [Yaml.writeGroup, colon]

/-- Whatever texts a document holds, what it is written as in YAML is read back as the document. -/
theorem decode_encode_yaml (d : Document) : decode (d.encode .yaml) .yaml = .ok d := by
  rw [decode, encode, yamlText_not_blank d, if_neg Bool.false_ne_true]
  simp only [Yaml.parse?_yamlText]
  exact ofYaml_ofDocument d

/-- The YAML text of a document gives the document back, so that different documents never have one
text. -/
theorem encode_yaml_faithful (d d' : Document) :
    decode (d.encode .yaml) .yaml = .ok d ∧ (d.encode .yaml = d'.encode .yaml ↔ d = d') := by
  refine ⟨decode_encode_yaml d, fun same => ?_, fun same => by rw [same]⟩
  have read : decode (d.encode .yaml) .yaml = .ok d' := by
    rw [same]
    exact decode_encode_yaml d'
  rw [decode_encode_yaml d] at read
  exact Except.ok.inj read

end Document
end NodeSettings
