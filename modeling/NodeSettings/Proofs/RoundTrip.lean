import NodeSettings.Configuration.Changes
import NodeSettings.Proofs.Reading
import NodeSettings.Proofs.Validity
import NodeSettings.Proofs.ValueText

/-!
Storing and loading. `text?_document` says where a configuration's texts stand in its document, and
`Reachable.load_document` what a load makes of the document: the configuration it was stored from,
whatever the loading one held before.
-/

namespace NodeSettings.Configuration

variable {c t : Configuration} {group : Group} {id : String} {p : Parameter}

/-! ## The stored document -/

theorem mem_parameters : p ∈ c.parameters group ↔ (⟨group, p⟩ : Setting) ∈ c.settings := by
  constructor
  · intro h
    obtain ⟨⟨g, q⟩, hs, rfl⟩ := List.mem_map.1 h
    obtain ⟨mem, same⟩ := List.mem_filter.1 hs
    rw [← of_decide_eq_true same]
    exact mem
  · intro h
    exact List.mem_map.2 ⟨_, List.mem_filter.2 ⟨h, decide_eq_true rfl⟩, rfl⟩

theorem ids_nodup (unique : c.keys.Nodup) (group : Group) :
    ((c.parameters group).map (·.id)).Nodup := by
  have keys : ((c.settings.filter (·.group = group)).map (·.key)).Nodup :=
    unique.sublist (List.filter_sublist.map _)
  have paired : (c.settings.filter (·.group = group)).map (·.key) =
      ((c.parameters group).map (·.id)).map (Prod.mk group) := by
    rw [parameters, List.map_map, List.map_map]
    refine List.map_congr_left fun s hs => ?_
    have same : s.group = group := of_decide_eq_true (List.mem_filter.1 hs).2
    exact Prod.ext same rfl
  rw [paired] at keys
  exact keys.of_map

theorem get?_groupTable (unique : c.keys.Nodup) (h : (⟨group, p⟩ : Setting) ∈ c.settings) :
    (c.groupTable group).get? p.id = some p.text := by
  refine Table.get?_ofList ?_ (List.mem_map.2 ⟨p, mem_parameters.2 h, rfl⟩)
  rw [List.map_map]
  exact ids_nodup unique group

theorem get?_document_root (c : Configuration) :
    Table.get? c.document "root" = some
      ((((c.groupTable .root).insert directoryKey c.directory).insert nativeKey
        (Value.bool c.isNative).text).insert versionKey Version.current.stamp) :=
  (Table.get?_insert _ _ _ _).trans (if_pos rfl)

theorem get?_document_service (c : Configuration) (h : group ∈ Group.services) :
    Table.get? c.document group.key = some (c.groupTable group) := by
  have other : group.key ≠ Group.root.key := by
    intro same
    rw [Group.key_injective same] at h
    exact absurd h (by decide)
  have keys : ((Group.services.map fun g => (g.key, c.groupTable g)).map (·.1)).Nodup := by
    rw [List.map_map]
    show (Group.services.map Group.key).Nodup
    decide
  have found := Table.get?_ofList keys (List.mem_map_of_mem h)
  rw [Table.ofList, List.foldl_map] at found
  exact (Table.get?_insert _ _ _ _).trans ((if_neg other).trans found)

/-- No parameter has one of the ids that the document adds to the top-level group. -/
theorem not_mem_keys : ∀ id ∈ [directoryKey, nativeKey, versionKey],
    (Group.root, id) ∉ Catalog.keys := by
  decide

/-- Every setting has its text in the document. -/
theorem text?_document (known : c.outline = Catalog.outline)
    (h : (⟨group, p⟩ : Setting) ∈ c.settings) :
    c.document.text? group.key p.id = some p.text := by
  have unique := keys_nodup known
  have found := get?_groupTable unique h
  have key : (group, p.id) ∈ Catalog.keys := keys_eq known ▸ List.mem_map_of_mem h
  unfold Document.text?
  by_cases root : group = .root
  · subst root
    have other (id : String) (added : id ∈ [directoryKey, nativeKey, versionKey]) : p.id ≠ id := by
      rintro rfl
      exact not_mem_keys _ added key
    rw [show Group.root.key = "root" from rfl, get?_document_root, Option.bind_some,
      Table.get?_insert, if_neg (other _ (by simp)), Table.get?_insert, if_neg (other _ (by simp)),
      Table.get?_insert, if_neg (other _ (by simp)), found]
  · have service : group ∈ Group.services := by
      have := Group.mem_all group
      simpa [Group.all, root] using this
    rw [get?_document_service c service, Option.bind_some, found]

theorem text?_document_version (c : Configuration) :
    c.document.text? "root" "version" = some Version.current.stamp := by
  rw [Document.text?, get?_document_root, Option.bind_some, Table.get?_insert]
  exact if_pos rfl

theorem text?_document_native (c : Configuration) :
    c.document.text? "root" nativeKey = some (Value.bool c.isNative).text := by
  rw [Document.text?, get?_document_root, Option.bind_some, Table.get?_insert,
    if_neg (by decide), Table.get?_insert]
  exact if_pos rfl

theorem text?_document_directory (c : Configuration) :
    c.document.text? "root" directoryKey = some c.directory := by
  rw [Document.text?, get?_document_root, Option.bind_some, Table.get?_insert,
    if_neg (by decide), Table.get?_insert, if_neg (by decide), Table.get?_insert]
  exact if_pos rfl

/-! ## Reading the document back -/

theorem Reachable.isValid_of_relocates (h : c.Reachable Edit.Relocates) : c.IsValid :=
  (h.mono fun _ => Edit.KeepsChoices.of_relocates).isValid

theorem rebased_isValid {s : Setting} (valid : s.parameter.IsValid) (directory : String) :
    (s.rebased directory).parameter.IsValid := by
  unfold Setting.rebased
  split
  · exact valid.mono rfl (List.Subset.refl _)
  · exact valid

/-- A document with the text of a valid setting gives the setting back. -/
theorem setting_of_text {m : Document} {s : Setting} (valid : s.parameter.IsValid)
    (finite : s.parameter.value.IsFinite) (network : Network)
    (text : m.text? s.group.key s.parameter.id = some s.parameter.text) :
    m.Gives network s.declaration ∧ m.setting network s.declaration = s := by
  have denoted : s.parameter.denoted? (some s.parameter.text) network = some s.parameter.value := by
    rw [Declaration.denoted?, ← valid.kind]
    exact Value.parse?_text finite
  rw [← text] at denoted
  refine ⟨⟨_, denoted, valid⟩, ?_⟩
  unfold Document.setting Setting.declaration
  rw [denoted]
  rfl

/-- The network of a configuration is the one that its setting names, and one to choose from. -/
theorem Reachable.network_selected (h : c.Reachable Edit.Relocates) :
    ∃ p, ⟨.smartnode, p⟩ ∈ c.settings ∧ p.id = "network" ∧ p.value = .ofNamed c.network ∧
      c.network ≠ .all := by
  obtain ⟨base, declared⟩ := h.declarations_eq
  obtain ⟨d, mem, id, kind, -, choices⟩ := Catalog.network_mem base
  rw [← declared] at mem
  obtain ⟨⟨group, p⟩, hs, same⟩ := List.mem_map.1 mem
  obtain ⟨rfl, rfl⟩ := Prod.mk.inj same
  -- A valid choice is one of those offered, and those are networks by name.
  obtain ⟨choice, offered, value⟩ := (h.isValid_of_relocates _ hs).choice kind
  obtain ⟨n, selectable, named⟩ := choices choice offered
  have found : c.find? .smartnode "network" = some p :=
    (find?_eq_some_iff h.keys_nodup).2 ⟨hs, id⟩
  have network : c.network = n := by
    rw [Configuration.network, named?, value?, found, Option.map_some, Option.bind_some, ← value,
      named]
    show ((Named.find? n.name).getD _ : Network) = n
    rw [Network.find?_name, Option.getD_some]
  exact ⟨p, hs, id, by rw [← value, named, network], network ▸ selectable⟩

/-- The network of a configuration is the one that its document names. -/
theorem storedNetwork_document (h : c.Reachable Edit.Relocates) :
    storedNetwork c.document = .ok c.network := by
  obtain ⟨p, hs, id, value, -⟩ := h.network_selected
  have stored : c.document.text? Group.smartnode.key "network" = some c.network.name := by
    have text := text?_document h.outline_eq hs
    rw [id] at text
    rw [text, Parameter.text, value]
    rfl
  rw [storedNetwork_eq_ok_iff, stored]
  exact Network.find?_name c.network

/-- The document gives every setting the value that it has. -/
theorem setting_document (h : c.Reachable Edit.Relocates) {s : Setting} (hs : s ∈ c.settings)
    (finite : s.parameter.value.IsFinite) (directory : String) (network : Network) :
    c.document.Gives network (s.rebased directory).declaration ∧
      c.document.setting network (s.rebased directory).declaration = s.rebased directory := by
  have value := Setting.rebased_value directory s
  obtain ⟨group, id⟩ := Prod.mk.inj (Setting.rebased_key directory s)
  refine setting_of_text (rebased_isValid (h.isValid_of_relocates s hs) directory)
    (value ▸ finite) network ?_
  rw [group, id, Parameter.text, value]
  exact text?_document h.outline_eq hs

/-- A load of a stored configuration makes that configuration, with the data path's default below
its base directory. -/
theorem Reachable.load_document (h : c.Reachable Edit.Relocates) (h' : t.Reachable Edit.Relocates)
    (finite : ∀ s ∈ c.settings, s.parameter.value.IsFinite) :
    t.load c.document = .ok { c.rebase with version := Version.current.stamp } := by
  obtain ⟨base, declared⟩ := h.declarations_eq
  have directory : storedDirectory c.document t.directory = c.directory := by
    rw [storedDirectory, show Group.root.key = "root" from rfl, text?_document_directory,
      Option.getD_some]
  have all : Catalog.all c.directory =
      c.settings.map fun s => (s.rebased c.directory).declaration := by
    rw [← Catalog.map_rebased_all base, ← declared, declarations, List.map_map]
    exact List.map_congr_left fun s _ => (rebased_declaration c.directory s).symm
  refine h'.load_eq_ok_iff.2 ⟨c.document, c.network, c.isNative,
    Document.upgrade_of_current (text?_document_version c), storedNetwork_document h, ?_, ?_, ?_⟩
  · rw [storedNative_eq_ok_iff, show Group.root.key = "root" from rfl, text?_document_native]
    exact Value.parse?_text (v := .bool c.isNative)
      (Value.isFinite_of_kind (show Kind.bool ≠ .float by decide))
  · rw [directory, all]
    exact List.forall_mem_map.2 fun s hs => (setting_document h hs (finite s hs) _ _).1
  · have settings : (Catalog.all c.directory).map (c.document.setting c.network) =
        c.settings.map (Setting.rebased c.directory) := by
      rw [all, List.map_map]
      exact List.map_congr_left fun s hs => (setting_document h hs (finite s hs) _ _).2
    rw [rebase_eq, directory, ofDocument, settings, h.profiles_eq]

/-! ## What rebasing leaves alone -/

theorem parameters_rebase {α : Type} {f : Parameter → α}
    (blind : ∀ (s : Setting) (directory : String),
      f (s.rebased directory).parameter = f s.parameter) (c : Configuration) (group : Group) :
    (c.rebase.parameters group).map f = (c.parameters group).map f := by
  have groups : (fun s : Setting => decide ((s.rebased c.directory).group = group)) =
      fun s => decide (s.group = group) := by
    funext s
    rw [Setting.rebased_group]
  rw [rebase_eq, parameters, parameters, List.map_map, List.map_map, List.filter_map]
  simp only [Function.comp_def, groups, List.map_map, blind]

theorem groupTable_rebase (c : Configuration) (group : Group) :
    c.rebase.groupTable group = c.groupTable group := by
  unfold groupTable
  rw [parameters_rebase fun s directory => ?_]
  rw [Parameter.text, Setting.rebased_value, (Prod.mk.inj (Setting.rebased_key directory s)).2]
  rfl

theorem document_rebase (c : Configuration) : c.rebase.document = c.document := by
  simp only [document, groupTable_rebase]
  rfl

theorem value?_rebase (c : Configuration) (group : Group) (id : String) :
    c.rebase.value? group id = c.value? group id := by
  have value? (d : Configuration) : d.value? group id =
      (((d.parameters group).map fun p => (p.id, p.value)).find? (·.1 = id)).map (·.2) := by
    rw [List.find?_map, Option.map_map]
    rfl
  rw [value?, value?, parameters_rebase fun s directory => ?_]
  rw [Setting.rebased_value, (Prod.mk.inj (Setting.rebased_key directory s)).2]

theorem network_rebase (c : Configuration) : c.rebase.network = c.network := by
  simp only [network, named?, value?_rebase]

theorem text_of_mem (unique : c.keys.Nodup) (h : (⟨group, p⟩ : Setting) ∈ c.settings) :
    c.text group p.id = p.text := by
  rw [Configuration.text, (find?_eq_some_iff unique).2 ⟨h, rfl⟩]
  rfl

theorem changesIn_rebase (unique : c.keys.Nodup) (group : Group) :
    c.rebase.changesIn c group = [] := by
  refine List.filterMap_eq_nil_iff.2 fun p hp => if_pos ?_
  have listed : (p.id, p.text) ∈ (c.rebase.parameters group).map fun p => (p.id, p.text) :=
    List.mem_map_of_mem hp
  rw [parameters_rebase fun s directory => ?_] at listed
  · obtain ⟨q, hq, same⟩ := List.mem_map.1 listed
    obtain ⟨id, text⟩ := Prod.mk.inj same
    rw [← id, ← text]
    exact text_of_mem unique (mem_parameters.1 hq)
  · rw [Parameter.text, Setting.rebased_value, (Prod.mk.inj (Setting.rebased_key directory s)).2]
    rfl

theorem changesSince_rebase (unique : c.keys.Nodup) : (c.rebase.changesSince c).isEmpty = true := by
  have groups : ((Group.all.map fun g => (g, c.rebase.changesIn c g)).filter fun entry =>
      !entry.2.isEmpty) = [] := by
    simp [changesIn_rebase unique]
  simp only [changesSince, Changes.isEmpty, groups, value?_rebase]
  simp

/-- Whatever a configuration held before, once it has loaded the document of another one it stores
the same document, differs from the other one in no setting, and has its directory, its network
and its way of running. -/
theorem Reachable.load_stored (h : c.Reachable Edit.Relocates) (h' : t.Reachable Edit.Relocates)
    (finite : ∀ s ∈ c.settings, ∀ x, s.parameter.value = .float x → x.isFinite = true) :
    ∃ t', t.load c.document = .ok t' ∧ t'.document = c.document ∧
      (t'.changesSince c).isEmpty = true ∧ t'.directory = c.directory ∧
      t'.isNative = c.isNative ∧ t'.network = c.network :=
  ⟨_, h.load_document h' finite, document_rebase c, changesSince_rebase h.keys_nodup, rfl, rfl,
    network_rebase c⟩

/-- A node at another place takes over a test node's settings, a fee of one tenth among them. -/
theorem load_stored_fee : ∃ c t t' : Configuration, c.Reachable Edit.Relocates ∧
    t.Reachable Edit.Relocates ∧ (c.text .smartnode "manualMaxFee" = "0.1" ∧ c.network = .prater) ∧
    t.load c.document = .ok t' ∧ t'.document = c.document ∧ t'.network = .prater := by
  let ops (c : Configuration) : Configuration :=
    (c.after (.switchNetwork .prater)).after (.assignText .smartnode "manualMaxFee" " 1e-1")
  have facts : ((fresh "/srv/node" false).toOption.map fun c =>
      ((ops c).text .smartnode "manualMaxFee", (ops c).network,
        (ops c).settings.all fun s => decide s.parameter.value.IsFinite)) =
        some ("0.1", .prater, true) := by decide +kernel
  have other : (fresh "/srv/other" true).isOk = true := by decide +kernel
  cases h : fresh "/srv/node" false with
  | error e => simp [h, Except.toOption] at facts
  | ok c =>
    cases h' : fresh "/srv/other" true with
    | error e => simp [h', Except.isOk, Except.toBool] at other
    | ok t =>
      simp only [h, Except.toOption, Option.map_some, Option.some.injEq, Prod.mk.injEq] at facts
      obtain ⟨fee, network, finite⟩ := facts
      have reached : (ops c).Reachable Edit.Relocates :=
        .operation _ (.operation _ (.fresh h))
      obtain ⟨t', loaded, same, -, -, -, network'⟩ :=
        reached.load_stored (.fresh h') fun s hs =>
          of_decide_eq_true (p := s.parameter.value.IsFinite) (List.all_eq_true.1 finite s hs)
      exact ⟨ops c, t, t', reached, .fresh h', ⟨fee, network⟩, loaded, same,
        network'.trans network⟩

end NodeSettings.Configuration
