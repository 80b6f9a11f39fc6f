import NodeSettings.Proofs.Traversal

/-!
Loading in one pass. A load goes over the top-level settings first, then reads what says where the
node lives, then goes over the other groups. `load_eq_ok_iff` says that this comes to one change of
every setting: its data path rebased to the loaded directory, its value read from the document.
-/

namespace NodeSettings

/-- The setting as an upgraded document for a network has it. -/
def Setting.loaded (d : Document) (network : Network) (s : Setting) : Setting :=
  s.changed fun group p => p.load (d.text? group.key p.id) network

namespace Configuration

variable {c c' : Configuration} {d stored : Document} {network : Network}

/-- The base directory after a load: the stored one, if there is one. -/
def storedDirectory (d : Document) (otherwise : String) : String :=
  (d.text? Group.root.key directoryKey).getD otherwise

/-- The pass over the top-level settings. -/
def takeTop (d : Document) (network : Network) (group : Group) (p : Parameter) :
    Except SettingError Parameter :=
  if group = .root then p.load (d.text? group.key p.id) network else .ok p

/-- The pass over the other groups. -/
def takeRest (d : Document) (network : Network) (group : Group) (p : Parameter) :
    Except SettingError Parameter :=
  if group = .root then .ok p else p.load (d.text? group.key p.id) network

/-- Between the passes the data path is rebased, which leaves the top-level settings alone. -/
theorem changed_takeRest {s : Setting} {directory : String} :
    ((s.changed (takeTop d network)).rebased directory).changed (takeRest d network) =
      (s.rebased directory).loaded d network := by
  by_cases h : s.group = .root
  · have top : s.changed (takeTop d network) = s.loaded d network := by
      simp [Setting.loaded, Setting.changed, takeTop, h]
    have group : (s.loaded d network).group = .root := (Setting.changed_group _ s).trans h
    rw [top, Setting.rebased_of_root h, Setting.rebased_of_root group]
    exact Setting.changed_of_ok (p := (s.loaded d network).parameter) (if_pos group)
  · have top : s.changed (takeTop d network) = s :=
      Setting.changed_of_ok (by simp [takeTop, h])
    rw [top]
    simp [Setting.loaded, Setting.changed, takeRest, h]

theorem takes_iff {s : Setting} {directory : String} :
    (∃ p, takeTop d network s.group s.parameter = .ok p) ∧
        (∃ p, takeRest d network s.group
          ((s.changed (takeTop d network)).rebased directory).parameter = .ok p) ↔
      ∃ p, (s.rebased directory).parameter.load
        (d.text? s.group.key s.parameter.id) network = .ok p := by
  by_cases h : s.group = .root
  · simp [takeTop, takeRest, h, Setting.rebased_of_root h]
  · have top : s.changed (takeTop d network) = s :=
      Setting.changed_of_ok (by simp [takeTop, h])
    have id : (s.rebased directory).parameter.id = s.parameter.id :=
      (Prod.mk.inj (Setting.rebased_key directory s)).2
    rw [top]
    simp [takeTop, takeRest, h, id]

theorem loaded_of_ok {s : Setting} {directory : String} {p : Parameter}
    (h : (s.rebased directory).parameter.load
      (d.text? s.group.key s.parameter.id) network = .ok p) :
    (s.rebased directory).loaded d network = ⟨s.group, p⟩ := by
  have group : (s.rebased directory).group = s.group := Setting.rebased_group directory s
  have id : (s.rebased directory).parameter.id = s.parameter.id :=
    (Prod.mk.inj (Setting.rebased_key directory s)).2
  rw [Setting.loaded, Setting.changed_of_ok (p := p) (by rw [group, id, h]), group]

/-- What a load needs to succeed, and what it makes of a configuration. -/
theorem load_eq_ok_iff :
    c.load stored = .ok c' ↔ ∃ d network isNative,
      stored.upgrade = .ok d ∧ storedNetwork d = .ok network ∧
      storedNative d c.isNative = .ok isNative ∧
      (∀ s ∈ c.settings, ∃ p, (s.rebased (storedDirectory d c.directory)).parameter.load
        (d.text? s.group.key s.parameter.id) network = .ok p) ∧
      c' = { c with
        version := (d.text? Group.root.key versionKey).getD c.version
        directory := storedDirectory d c.directory
        isNative
        settings := c.settings.map fun s =>
          (s.rebased (storedDirectory d c.directory)).loaded d network } := by
  -- The same steps with the binds in sight.
  show (stored.upgrade >>= fun d => storedNetwork d >>= fun network =>
    c.traverse (takeTop d network) >>= fun top => storedNative d c.isNative >>= fun isNative =>
    (Configuration.rebase { top with
      isNative
      directory := storedDirectory d c.directory
      version := (d.text? Group.root.key versionKey).getD c.version }).traverse
        (takeRest d network)) = .ok c' ↔ _
  simp only [bind_eq_ok_iff, traverse_eq_ok_iff, rebase_eq, List.forall_mem_map]
  constructor
  · rintro ⟨d, upgraded, network, named, top, ⟨first, rfl⟩, isNative, native, second, rfl⟩
    refine ⟨d, network, isNative, upgraded, named, native, fun s hs => ?_, ?_⟩
    · have rest := second (s.changed (takeTop d network)) (List.mem_map_of_mem hs)
      exact takes_iff.1 ⟨first s hs, by simpa using rest⟩
    · simp only [List.map_map, Function.comp_def, changed_takeRest]
  · rintro ⟨d, network, isNative, upgraded, named, native, each, rfl⟩
    refine ⟨d, upgraded, network, named, _, ⟨fun s hs => ?_, rfl⟩, isNative, native, ?_, ?_⟩
    · exact (takes_iff.2 (each s hs)).1
    · refine List.forall_mem_map.2 fun s hs => ?_
      simpa using (takes_iff.2 (each s hs)).2
    · simp only [List.map_map, Function.comp_def, changed_takeRest]

end Configuration
end NodeSettings
