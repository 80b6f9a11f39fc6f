import NodeSettings.Proofs.Declared
import NodeSettings.Proofs.Upgrade

/-!
What a load means. `Reachable.load_eq_ok_iff`: a load makes a configuration out of the document and
the catalog; of what was there before only the base directory and the way the node is run enter it,
and those only where the document does not say. `Reachable.load_reads` spells out what is made.
-/

namespace NodeSettings

/-- A declared parameter has a value in an upgraded document, and may hold it. -/
def Document.Gives (m : Document) (network : Network) (d : Group × Declaration) : Prop :=
  ∃ v, d.2.denoted? (m.text? d.1.key d.2.id) network = some v ∧ d.2.Allows v

/-- A declared parameter with its value in an upgraded document. -/
def Document.setting (m : Document) (network : Network) (d : Group × Declaration) : Setting :=
  ⟨d.1, ⟨d.2, (d.2.denoted? (m.text? d.1.key d.2.id) network).getD (.zero d.2.kind)⟩⟩

@[simp] theorem Document.setting_declaration (m : Document) (network : Network)
    (d : Group × Declaration) : (m.setting network d).declaration = d := rfl

theorem Document.setting_of_denoted {m : Document} {network : Network} {d : Group × Declaration}
    {v : Value} (denoted : d.2.denoted? (m.text? d.1.key d.2.id) network = some v) :
    m.setting network d = ⟨d.1, ⟨d.2, v⟩⟩ := by
  rw [setting, denoted, Option.getD_some]

namespace Configuration

variable {c c' : Configuration} {m stored : Document} {network : Network}

theorem exists_load_iff {s : Setting} {directory : String} :
    (∃ p, (s.rebased directory).parameter.load
        (m.text? s.group.key s.parameter.id) network = .ok p) ↔
      m.Gives network (Catalog.rebased directory s.declaration) := by
  have key := Prod.mk.inj (Setting.rebased_key directory s)
  rw [← rebased_declaration, Document.Gives, Setting.declaration, key.1, key.2]
  constructor
  · rintro ⟨p, hp⟩
    obtain ⟨v, denoted, allowed, -⟩ := Parameter.load_eq_ok_iff.1 hp
    exact ⟨v, denoted, allowed⟩
  · rintro ⟨v, denoted, allowed⟩
    exact ⟨_, Parameter.load_eq_ok_iff.2 ⟨v, denoted, allowed, rfl⟩⟩

theorem loaded_eq_setting {s : Setting} {directory : String}
    (gives : m.Gives network (Catalog.rebased directory s.declaration)) :
    (s.rebased directory).loaded m network =
      m.setting network (Catalog.rebased directory s.declaration) := by
  obtain ⟨p, hp⟩ := exists_load_iff.2 gives
  obtain ⟨v, denoted, -, rfl⟩ := Parameter.load_eq_ok_iff.1 hp
  have key := Prod.mk.inj (Setting.rebased_key directory s)
  rw [loaded_of_ok hp, ← rebased_declaration, Document.setting, Setting.declaration, key.1, key.2,
    denoted]
  rfl

theorem load_eq_ok_iff_declared :
    c.load stored = .ok c' ↔ ∃ m network isNative,
      stored.upgrade = .ok m ∧ storedNetwork m = .ok network ∧
      storedNative m c.isNative = .ok isNative ∧
      (∀ d ∈ c.declarations.map (Catalog.rebased (storedDirectory m c.directory)),
        m.Gives network d) ∧
      c' = { c with
        version := (m.text? Group.root.key versionKey).getD c.version
        directory := storedDirectory m c.directory
        isNative
        settings := (c.declarations.map
          (Catalog.rebased (storedDirectory m c.directory))).map (m.setting network) } := by
  have settings (m : Document) (network : Network) (directory : String)
      (gives : ∀ s ∈ c.settings, m.Gives network (Catalog.rebased directory s.declaration)) :
      c.settings.map (fun s => (s.rebased directory).loaded m network) =
        (c.declarations.map (Catalog.rebased directory)).map (m.setting network) := by
    simp only [declarations, List.map_map]
    exact List.map_congr_left fun s hs => loaded_eq_setting (gives s hs)
  rw [load_eq_ok_iff]
  simp only [declarations, List.forall_mem_map, exists_load_iff]
  constructor
  · rintro ⟨m, network, isNative, upgraded, named, native, gives, rfl⟩
    exact ⟨m, network, isNative, upgraded, named, native, gives,
      by rw [settings m network _ gives]; rfl⟩
  · rintro ⟨m, network, isNative, upgraded, named, native, gives, rfl⟩
    exact ⟨m, network, isNative, upgraded, named, native, gives,
      by rw [settings m network _ gives]; rfl⟩

end Configuration

/-! ## With the catalog's declarations -/

namespace Catalog

theorem mem_all {directory : String} {group : Group} {d : Declaration} :
    (group, d) ∈ all directory ↔ d ∈ declarations directory group := by
  simp [all, Group.mem_all]

theorem network_mem (directory : String) : ∃ d, (Group.smartnode, d) ∈ all directory ∧
    d.id = "network" ∧ d.kind = .choice ∧
    (∀ n, d.defaults.resolve? n = some (.ofNamed Network.primary)) ∧
    ∀ choice ∈ d.choices, ∃ n : Network, n ≠ .all ∧ choice.value = .ofNamed n := by
  have declared : ∃ d ∈ smartnode directory, d.id = "network" ∧ d.kind = .choice ∧
      d.defaults = .always (.ofNamed Network.primary) ∧
      d.choices.map (·.value) = [.ofNamed Network.mainnet, .ofNamed Network.prater] := by
    simp [smartnode]
  obtain ⟨d, mem, id, kind, default, choices⟩ := declared
  refine ⟨d, mem_all.2 mem, id, kind, fun n => ?_, fun choice among => ?_⟩
  · rw [default]
    cases n <;> rfl
  · have value := List.mem_map_of_mem (f := (·.value)) among
    rw [choices] at value
    rcases List.mem_pair.1 value with mainnet | prater
    · exact ⟨.mainnet, by decide, mainnet⟩
    · exact ⟨.prater, by decide, prater⟩

theorem dataPath_mem (directory : String) : ∃ d, (Group.smartnode, d) ∈ all directory ∧
    d.id = "dataPath" ∧ d.kind = .string ∧
    ∀ n, d.defaults.resolve? n = some (.string (dataPath directory)) := by
  have declared : ∃ d ∈ smartnode directory, d.id = "dataPath" ∧ d.kind = .string ∧
      d.defaults = .always (.string (dataPath directory)) := by
    simp [smartnode]
  obtain ⟨d, mem, id, kind, default⟩ := declared
  refine ⟨d, mem_all.2 mem, id, kind, fun n => ?_⟩
  rw [default]
  cases n <;> rfl

end Catalog

/-- Two documents say the same at every place that a load looks at. -/
def Document.Agrees (m m' : Document) : Prop :=
  (∀ key ∈ Catalog.keys, m.text? key.1.key key.2 = m'.text? key.1.key key.2) ∧
    ∀ id ∈ [Configuration.directoryKey, Configuration.nativeKey],
      m.text? Group.root.key id = m'.text? Group.root.key id

namespace Configuration

variable {c c' : Configuration} {m stored : Document} {network : Network}

/-- The configuration that an upgraded document makes. -/
def ofDocument (m : Document) (network : Network) (directory : String) (isNative : Bool) :
    Configuration where
  version := Version.current.stamp
  directory := directory
  isNative := isNative
  settings := (Catalog.all directory).map (m.setting network)
  profiles := fun _ => ⟨ConsensusClient.all, 25000⟩

theorem Reachable.load_eq_ok_iff (h : c.Reachable Edit.Relocates) :
    c.load stored = .ok c' ↔ ∃ m network isNative,
      stored.upgrade = .ok m ∧ storedNetwork m = .ok network ∧
      storedNative m c.isNative = .ok isNative ∧
      (∀ d ∈ Catalog.all (storedDirectory m c.directory), m.Gives network d) ∧
      c' = ofDocument m network (storedDirectory m c.directory) isNative := by
  obtain ⟨base, declared⟩ := h.declarations_eq
  rw [load_eq_ok_iff_declared]
  simp only [declared, Catalog.map_rebased_all, h.profiles_eq]
  refine exists_congr fun m => exists_congr fun network => exists_congr fun isNative =>
    and_congr_right fun upgraded => ?_
  have stamped : m.text? Group.root.key versionKey = some Version.current.stamp :=
    Document.text?_version_of_upgrade upgraded
  rw [stamped]
  rfl

@[simp] theorem ofDocument_declarations (directory : String) (isNative : Bool) :
    (ofDocument m network directory isNative).declarations = Catalog.all directory := by
  simp [ofDocument, declarations, Function.comp_def]

/-- A declared parameter is found with the value that the document gives it. -/
theorem find?_ofDocument {directory : String} {isNative : Bool} {group : Group} {d : Declaration}
    (declared : (group, d) ∈ Catalog.all directory) :
    (ofDocument m network directory isNative).find? group d.id =
      some (m.setting network (group, d)).parameter := by
  have unique : (ofDocument m network directory isNative).keys.Nodup := by
    refine keys_nodup ?_
    rw [outline_eq_of_declarations, ofDocument_declarations, Catalog.outline_eq]
  exact (find?_eq_some_iff unique).2 ⟨List.mem_map_of_mem declared, rfl⟩

theorem storedNetwork_eq_ok_iff :
    storedNetwork m = .ok network ↔
      match m.text? Group.smartnode.key "network" with
      | some raw => Named.find? raw = some network
      | none => network = .mainnet := by
  unfold storedNetwork
  cases m.text? Group.smartnode.key "network" with
  | none => simp [Network.primary, eq_comm]
  | some raw =>
    cases found : (Named.find? raw : Option Network) <;> simp [Named.parse, found]

theorem storedNative_eq_ok_iff {otherwise isNative : Bool} :
    storedNative m otherwise = .ok isNative ↔
      match m.text? Group.root.key nativeKey with
      | some raw => Value.parse? .bool raw = some (.bool isNative)
      | none => isNative = otherwise := by
  unfold storedNative
  cases m.text? Group.root.key nativeKey with
  | none => simp [eq_comm]
  | some raw =>
    cases parsed : Value.parseBool? (Text.trim raw) <;> simp [Value.parse?, parsed, Value.asBool?]

/-- The network of the settings is the one that was read off the document first. -/
theorem network_ofDocument {directory : String} {isNative : Bool}
    (named : storedNetwork m = .ok network) :
    (ofDocument m network directory isNative).network = network := by
  obtain ⟨d, declared, id, kind, default, -⟩ := Catalog.network_mem directory
  have found : (ofDocument m network directory isNative).find? .smartnode d.id =
      some (m.setting network (.smartnode, d)).parameter := find?_ofDocument declared
  rw [storedNetwork_eq_ok_iff] at named
  rw [Configuration.network, named?, value?, ← id, found]
  unfold Document.setting Declaration.denoted?
  rw [id, kind]
  cases stored : m.text? Group.smartnode.key "network" with
  | none =>
    rw [stored] at named
    simp only [default, named, Option.getD_some, Option.map_some, Option.bind_some]
    rfl
  | some raw =>
    rw [stored] at named
    simp [Value.parse?, Value.named?, Value.asString?, named]

/-! ## What a load reads -/

/-- What a document says at the places that a load looks at is all that a load depends on. -/
theorem Reachable.load_of_agrees {t : Configuration} {stored' : Document} {m' : Document}
    (h : c.Reachable Edit.Relocates) (h' : t.Reachable Edit.Relocates)
    (directory : t.directory = c.directory) (native : t.isNative = c.isNative)
    (upgraded : stored.upgrade = .ok m) (upgraded' : stored'.upgrade = .ok m')
    (agree : m.Agrees m') (loaded : c.load stored = .ok c') : t.load stored' = .ok c' := by
  obtain ⟨n, network, isNative, is, named, flag, gives, rfl⟩ := h.load_eq_ok_iff.1 loaded
  obtain rfl : m = n := Except.ok.inj (upgraded.symm.trans is)
  obtain ⟨texts, top⟩ := agree
  have declared {directory : String} {d : Group × Declaration} (hd : d ∈ Catalog.all directory) :
      m.text? d.1.key d.2.id = m'.text? d.1.key d.2.id :=
    texts _ (Catalog.key_mem hd)
  have sameDirectory : storedDirectory m' t.directory = storedDirectory m c.directory := by
    rw [storedDirectory, storedDirectory, directory, top directoryKey List.mem_cons_self]
  refine h'.load_eq_ok_iff.2 ⟨m', network, isNative, upgraded', ?_, ?_, ?_, ?_⟩
  · rw [storedNetwork_eq_ok_iff] at named ⊢
    rwa [← texts (.smartnode, "network") (by decide)]
  · rw [storedNative_eq_ok_iff] at flag ⊢
    rwa [← top nativeKey (List.mem_cons_of_mem _ List.mem_cons_self), native]
  · intro d hd
    rw [sameDirectory] at hd
    obtain ⟨v, denoted, allowed⟩ := gives d hd
    exact ⟨v, declared hd ▸ denoted, allowed⟩
  · rw [sameDirectory, ofDocument, ofDocument]
    congr 1
    refine List.map_congr_left fun d hd => ?_
    rw [Document.setting, Document.setting, declared hd]

/-- What a successful load makes of a configuration. The network, every value, the base directory
and the way the node is run are what the upgraded document says; what it leaves out is the default
for the network, or as it was. Nothing else of the document matters, nor of what was there. -/
theorem Reachable.load_reads (h : c.Reachable Edit.Relocates) (loaded : c.load stored = .ok c') :
    ∃ m, stored.upgrade = .ok m ∧
      (match m.text? "smartnode" "network" with
        | some raw => Named.find? raw = some c'.network
        | none => c'.network = .mainnet) ∧
      (∀ s ∈ c'.settings,
        match m.text? s.group.key s.parameter.id with
        | some raw => Value.parse? s.parameter.kind raw = some s.parameter.value
        | none => s.parameter.defaults.resolve? c'.network = some s.parameter.value) ∧
      c'.declarations = Catalog.all c'.directory ∧
      (∃ p, c'.find? .smartnode "dataPath" = some p ∧
        ∀ n, p.defaults.resolve? n = some (.string (Path.join c'.directory "data"))) ∧
      c'.directory = (m.text? "root" "rpDir").getD c.directory ∧
      (match m.text? "root" "isNative" with
        | some raw => Value.parse? .bool raw = some (.bool c'.isNative)
        | none => c'.isNative = c.isNative) ∧
      c'.version = "v1.5.0" ∧
      ∀ (t : Configuration) (stored' m' : Document), t.Reachable Edit.Relocates →
        t.directory = c.directory → t.isNative = c.isNative → stored'.upgrade = .ok m' →
        m.Agrees m' → t.load stored' = .ok c' := by
  obtain ⟨m, network, isNative, upgraded, named, native, gives, made⟩ :=
    h.load_eq_ok_iff.1 loaded
  have sameNetwork : c'.network = network := made ▸ network_ofDocument named
  refine ⟨m, upgraded, ?_, ?_, ?_, ?_, ?_, ?_, ?_, ?_⟩
  · rw [sameNetwork]
    exact storedNetwork_eq_ok_iff.1 named
  · rw [sameNetwork, made]
    refine List.forall_mem_map.2 fun d hd => ?_
    obtain ⟨v, denoted, -⟩ := gives d hd
    have value : (m.setting network d).parameter.value = v := by simp [Document.setting, denoted]
    rw [value]
    show match m.text? d.1.key d.2.id with
      | some raw => Value.parse? d.2.kind raw = some v
      | none => d.2.defaults.resolve? network = some v
    revert denoted
    cases m.text? d.1.key d.2.id with
    | none => exact id
    | some raw => exact id
  · rw [made, ofDocument_declarations]
    rfl
  · obtain ⟨d, declared, id, -, default⟩ := Catalog.dataPath_mem c'.directory
    subst made
    exact ⟨_, id ▸ find?_ofDocument declared, default⟩
  · rw [made]
    rfl
  · rw [made]
    exact storedNative_eq_ok_iff.1 native
  · rw [made]
    show Version.current.stamp = "v1.5.0"
    decide +kernel
  · intro t stored' m' h' directory native upgraded' agree
    exact h.load_of_agrees h' directory native upgraded upgraded' agree loaded

/-- A document of few texts moves a node to another network and directory. -/
theorem load_reads_partial : ∃ (c c' : Configuration) (stored : Document),
    c.Reachable Edit.Relocates ∧ c.load stored = .ok c' ∧ c'.network = .prater ∧
    c'.directory = "/data" ∧ ∃ p, c'.find? .smartnode "dataPath" = some p ∧
      ∀ n, p.defaults.resolve? n = some (.string "/data/data") := by
  let stored : Document := .ofList
    [("root", .ofList [("network", "prater"), ("rpDir", "/data")]),
      ("unknown", .ofList [("a", "b")])]
  have succeeds : ((fresh "/srv/node" false).toOption.bind fun c =>
      (c.load stored).toOption).isSome = true := by decide +kernel
  have texts : (stored.upgrade.toOption.map fun m =>
      (m.text? "smartnode" "network", m.text? "root" "rpDir")) =
        some (some "prater", some "/data") := by decide +kernel
  have joined : Path.join "/data" "data" = "/data/data" := by decide +kernel
  cases h : fresh "/srv/node" false with
  | error e => simp [h, Except.toOption] at succeeds
  | ok c =>
    have reached : c.Reachable Edit.Relocates := .fresh h
    cases loaded : c.load stored with
    | error e => simp [h, loaded, Except.toOption] at succeeds
    | ok c' =>
      obtain ⟨m, upgraded, network, -, -, ⟨p, found, default⟩, directory, -⟩ :=
        reached.load_reads loaded
      simp only [upgraded, Except.toOption, Option.map_some, Option.some.injEq,
        Prod.mk.injEq] at texts
      rw [texts.2, Option.getD_some] at directory
      rw [texts.1] at network
      rw [directory, joined] at default
      have named : Named.find? "prater" = some Network.prater := by decide
      exact ⟨c, c', stored, reached, loaded, Option.some.inj (network.symm.trans named), directory,
        p, found, default⟩

end Configuration
end NodeSettings
