import NodeSettings.Proofs.Reading

/-!
The data path and the base directory. The default of the data path lies below the base directory: a
load that changes the directory brings the default along, and nothing else changes either of them.
Only a directory that is written directly leaves the default behind, until the next reset or load.
`Reachable.dataPath_follows` says so of every run, and what the data path is after a load.
-/

namespace NodeSettings

namespace Edit

/-- Edits of anything but the defaults of the data path. -/
def SparesDataPath : Edit → Prop
  | default group id _ _ => (group, id) ≠ (.smartnode, "dataPath")
  | _ => True

/-- Edits of neither the defaults of the data path nor the base directory. -/
def StaysPut : Edit → Prop
  | directory _ => False
  | e => e.SparesDataPath

theorem SparesDataPath.of_staysPut {e : Edit} (h : e.StaysPut) : e.SparesDataPath := by
  cases e with
  | directory path => exact absurd h not_false
  | isNative | default | addChoice | choices | profile => exact h

end Edit

namespace Catalog

variable {directory : String} {d : Group × Declaration}

/-- The data path has the same default on every network. -/
theorem defaults_of_dataPath (h : d ∈ all directory)
    (key : (d.1, d.2.id) = (.smartnode, "dataPath")) :
    d.2.defaults = .always (.string (dataPath directory)) := by
  have each : ∀ d ∈ smartnode directory, d.id = "dataPath" →
      d.defaults = .always (.string (dataPath directory)) := by
    simp [smartnode]
  obtain ⟨group, id⟩ := Prod.mk.inj key
  obtain ⟨g, d⟩ := d
  subst group
  exact each d (mem_all.1 h) id

end Catalog

namespace Configuration

variable {c c' : Configuration} {base : String} {o : Operation} {e : Edit}

/-- The default of the data path lies below the base directory, on every network. -/
def DataPathFollows (c : Configuration) : Prop :=
  ∃ p, c.find? .smartnode "dataPath" = some p ∧
    ∀ n, p.defaults.resolve? n = some (.string (Path.join c.directory "data"))

/-- The data path has one default for all networks, which lies below some directory. -/
def HasDataBelow (c : Configuration) (base : String) : Prop :=
  ∀ d ∈ c.declarations, (d.1, d.2.id) = (.smartnode, "dataPath") →
    d.2.defaults = .always (.string (Catalog.dataPath base))

theorem find?_dataPath (known : c.outline = Catalog.outline) (below : c.HasDataBelow base) :
    ∃ p, c.find? .smartnode "dataPath" = some p ∧ p.kind = .string ∧
      p.defaults = .always (.string (Catalog.dataPath base)) := by
  obtain ⟨d, declared, id, kind, -⟩ := Catalog.dataPath_mem ""
  obtain ⟨p, found, bare⟩ := exists_find? known .smartnode (Catalog.mem_all.1 declared)
  rw [id] at found
  obtain ⟨mem, is⟩ := mem_of_find? found
  refine ⟨p, found, (congrArg (·.kind) bare).trans kind, ?_⟩
  exact below _ (List.mem_map_of_mem mem) (Prod.ext rfl is)

/-- The default follows if the directory that it lies below is the base directory. -/
theorem dataPathFollows_iff (known : c.outline = Catalog.outline) (below : c.HasDataBelow base) :
    c.DataPathFollows ↔ c.HasDataBelow c.directory := by
  obtain ⟨p, found, -, defaults⟩ := find?_dataPath known below
  have resolved (n : Network) : p.defaults.resolve? n = some (.string (Catalog.dataPath base)) := by
    rw [defaults]
    cases n <;> rfl
  constructor
  · rintro ⟨q, found', follows⟩
    obtain rfl : p = q := Option.some.inj (found.symm.trans found')
    have same := (resolved .all).symm.trans (follows .all)
    intro d hd key
    rw [below d hd key]
    exact congrArg Defaults.always (Option.some.inj same)
  · intro own
    obtain ⟨q, found', -, defaults'⟩ := find?_dataPath known own
    refine ⟨q, found', fun n => ?_⟩
    rw [defaults']
    cases n <;> rfl

/-! ## Steps -/

theorem HasDataBelow.of_rebased {directory : String} (below : c.HasDataBelow base)
    (based : c'.declarations = c.declarations.map (Catalog.rebased directory)) :
    c'.HasDataBelow directory := by
  rw [HasDataBelow, based, List.forall_mem_map]
  intro d hd key
  by_cases is : d.1 = .smartnode ∧ d.2.id = "dataPath"
  · have defaults := below d hd (Prod.ext is.1 is.2)
    simp [Catalog.rebased, is, defaults, Defaults.set, Defaults.always]
  · rw [Catalog.rebased, if_neg is] at key
    exact absurd (Prod.mk.inj key) is

/-- A fresh configuration has its data below the directory that it was made for. -/
theorem hasDataBelow_of_fresh {directory : String} {isNative : Bool}
    (h : fresh directory isNative = .ok c) : c.HasDataBelow c.directory := by
  intro d hd key
  rw [declarations_of_resetAll h, declared_declarations, Catalog.map_rebased_all] at hd
  exact Catalog.defaults_of_dataPath hd key

/-- A load puts the default below the directory that it leads to; no other operation leads to
another directory. -/
theorem HasDataBelow.run (unique : c.keys.Nodup) (below : c.HasDataBelow base)
    (ran : c.run o = .ok c') :
    (c'.HasDataBelow base ∧ c'.directory = c.directory) ∨ c'.HasDataBelow c'.directory := by
  rcases declarations_run unique ran with kept | based
  · by_cases load : ∃ stored, o = .load stored
    · obtain ⟨stored, rfl⟩ := load
      exact .inr (below.of_rebased (declarations_of_load ran))
    · obtain ⟨settings, same⟩ := exists_settings_of_run ran (not_exists.1 load)
      refine .inl ⟨?_, by rw [same]⟩
      rw [HasDataBelow, kept]
      exact below
  · exact .inr (below.of_rebased based)

theorem HasDataBelow.modify {group : Group} {id : String} {f : Parameter → Parameter}
    (below : c.HasDataBelow base) (named : ∀ p, (f p).id = p.id)
    (spares : (group, id) = (.smartnode, "dataPath") → ∀ p, (f p).defaults = p.defaults) :
    (c.modify group id f).HasDataBelow base := by
  simp only [HasDataBelow, declarations, modify_settings, List.map_map, List.forall_mem_map,
    Function.comp_apply]
  intro s hs
  have kept := below _ (List.mem_map_of_mem hs)
  by_cases here : s.key = (group, id)
  · rw [if_pos here]
    intro key
    have key : s.key = (.smartnode, "dataPath") := by rw [← key]; exact Prod.ext rfl (named _).symm
    exact (spares (here.symm.trans key) s.parameter).trans (kept key)
  · rw [if_neg here]
    exact kept

theorem HasDataBelow.edit (below : c.HasDataBelow base) (spares : e.SparesDataPath) :
    (c.edit e).HasDataBelow base := by
  cases e with
  | directory | isNative | profile => exact below
  | default group id network v =>
    exact below.modify (fun _ => rfl) fun is => absurd is spares
  | addChoice | choices => exact below.modify (fun _ => rfl) fun _ _ => rfl

/-! ## Runs -/

theorem Reachable.exists_hasDataBelow (h : c.Reachable Edit.SparesDataPath) :
    ∃ base, c.HasDataBelow base := by
  refine h.induct (P := fun c => ∃ base, c.HasDataBelow base)
    (fun _ _ c fresh => ⟨_, hasDataBelow_of_fresh fresh⟩) ?_ ?_
  · rintro c o c' reached ⟨base, below⟩ ran
    rcases below.run reached.keys_nodup ran with ⟨kept, -⟩ | based
    · exact ⟨base, kept⟩
    · exact ⟨c'.directory, based⟩
  · rintro c e ⟨base, below⟩ spares
    exact ⟨base, below.edit spares⟩

theorem Reachable.dataPathFollows_iff (h : c.Reachable Edit.SparesDataPath) :
    c.DataPathFollows ↔ c.HasDataBelow c.directory := by
  obtain ⟨base, below⟩ := h.exists_hasDataBelow
  exact Configuration.dataPathFollows_iff h.outline_eq below

theorem DataPathFollows.after (h : c.Reachable Edit.SparesDataPath) (follows : c.DataPathFollows)
    (o : Operation) : (c.after o).DataPathFollows := by
  cases ran : c.run o with
  | error e =>
    rw [after_of_error ran]
    exact follows
  | ok c' =>
    rw [after_of_ok ran, (h.of_run ran).dataPathFollows_iff]
    rcases (h.dataPathFollows_iff.1 follows).run h.keys_nodup ran with ⟨kept, same⟩ | based
    · rwa [same]
    · exact based

theorem DataPathFollows.edit (h : c.Reachable Edit.SparesDataPath) (follows : c.DataPathFollows)
    (stays : e.StaysPut) : (c.edit e).DataPathFollows := by
  have spares := Edit.SparesDataPath.of_staysPut stays
  have same : (c.edit e).directory = c.directory := by
    cases e with
    | directory path => exact absurd stays not_false
    | isNative | default | addChoice | choices | profile => rfl
  rw [(h.edit spares).dataPathFollows_iff, same]
  exact (h.dataPathFollows_iff.1 follows).edit spares

theorem Reachable.dataPathFollows_of_staysPut (h : c.Reachable Edit.StaysPut) :
    c.DataPathFollows := by
  have spares {c : Configuration} (h : c.Reachable Edit.StaysPut) :
      c.Reachable Edit.SparesDataPath := h.mono fun _ => .of_staysPut
  induction h with
  | @fresh directory isNative c made =>
    exact (spares (.fresh made)).dataPathFollows_iff.2 (hasDataBelow_of_fresh made)
  | operation o reached follows => exact follows.after (spares reached) o
  | edit stays reached follows => exact follows.edit (spares reached) stays

/-! ## Loads -/

/-- A load reads the base directory as it is stored, in whatever layout. -/
theorem directory_of_load {stored : Document} (loaded : c.load stored = .ok c') :
    c'.directory = (stored.text? "root" "rpDir").getD c.directory := by
  obtain ⟨m, _, _, upgraded, -, -, -, rfl⟩ := load_eq_ok_iff.1 loaded
  have kept : m.text? "root" "rpDir" = stored.text? "root" "rpDir" :=
    Document.at?_of_upgrade (p := ("root", "rpDir")) (by decide) (by decide) upgraded
  show storedDirectory m c.directory = _
  rw [storedDirectory, ← kept]
  rfl

/-- The data path is what is stored of it, in whatever layout, and else its default. -/
theorem Reachable.value?_dataPath_of_load {stored : Document}
    (h : c.Reachable Edit.SparesDataPath) (loaded : c.load stored = .ok c') :
    c'.value? .smartnode "dataPath" = some (.string
      ((stored.text? "smartnode" "dataPath").getD (Path.join c'.directory "data"))) := by
  have reached : c'.Reachable Edit.SparesDataPath := h.of_run (o := .load stored) loaded
  obtain ⟨base, below⟩ := h.exists_hasDataBelow
  obtain ⟨p, found, kind, defaults⟩ :=
    find?_dataPath reached.outline_eq (below.of_rebased (declarations_of_load loaded))
  obtain ⟨mem, id⟩ := mem_of_find? found
  obtain ⟨m, network, isNative, upgraded, -, -, gives, made⟩ := load_eq_ok_iff_declared.1 loaded
  have kept : m.text? "smartnode" "dataPath" = stored.text? "smartnode" "dataPath" :=
    Document.at?_of_upgrade (p := ("smartnode", "dataPath")) (by decide) (by decide) upgraded
  have value : p.denoted? (m.text? "smartnode" p.id) network = some p.value := by
    rw [made] at mem
    obtain ⟨⟨group, d⟩, hd, is⟩ := List.mem_map.1 mem
    obtain ⟨v, denoted, -⟩ := gives _ hd
    rw [Document.setting_of_denoted denoted] at is
    cases is
    exact denoted
  rw [id, kept] at value
  rw [value?, found, Option.map_some]
  cases text : stored.text? "smartnode" "dataPath" with
  | some raw =>
    rw [text, Declaration.denoted?, kind] at value
    exact value.symm
  | none =>
    rw [text, Declaration.denoted?, defaults] at value
    exact value.symm.trans (by cases network <;> rfl)

/-- The default of the data path lies below the base directory as long as the directory is not
written directly. Operations keep it there, whether they succeed or fail, as do other edits; and
where the directory was written, a reset or a load puts the default below it again. A load reads the
directory, and the data path itself is what was stored of it, wherever that is, or else its default.
-/
theorem Reachable.dataPath_follows (h : c.Reachable Edit.SparesDataPath) :
    (c.Reachable Edit.StaysPut → c.DataPathFollows) ∧
    (∀ o, c.DataPathFollows → (c.after o).DataPathFollows) ∧
    (∀ e : Edit, e.StaysPut → c.DataPathFollows → (c.edit e).DataPathFollows) ∧
    (∀ c', c.resetAll = .ok c' → c'.DataPathFollows) ∧
    ∀ stored c', c.load stored = .ok c' → c'.DataPathFollows ∧
      c'.directory = (stored.text? "root" "rpDir").getD c.directory ∧
      c'.value? .smartnode "dataPath" = some (.string
        ((stored.text? "smartnode" "dataPath").getD (Path.join c'.directory "data"))) := by
  obtain ⟨base, below⟩ := h.exists_hasDataBelow
  refine ⟨Reachable.dataPathFollows_of_staysPut, fun o follows => follows.after h o,
    fun e stays follows => follows.edit h stays, fun c' reset => ?_, fun stored c' loaded =>
      ⟨?_, directory_of_load loaded, h.value?_dataPath_of_load loaded⟩⟩
  · rw [(h.of_run (o := .resetAll) reset).dataPathFollows_iff]
    exact below.of_rebased (declarations_of_resetAll reset)
  · rw [(h.of_run (o := .load stored) loaded).dataPathFollows_iff]
    exact below.of_rebased (declarations_of_load loaded)

/-- A node whose directory was written directly has its data elsewhere by default, until it is reset
or reads a document. The document is an old one, and names places of its own for both. -/
theorem dataPath_follows_moved : ∃ (c r c' : Configuration) (stored : Document),
    c.Reachable Edit.SparesDataPath ∧ c.directory = "/mnt/node" ∧ ¬ c.DataPathFollows ∧
    c.resetAll = .ok r ∧ r.DataPathFollows ∧
    stored.version = .ok .unstamped ∧ c.load stored = .ok c' ∧ c'.DataPathFollows ∧
    c'.directory = "/opt/rp" ∧
    c'.value? .smartnode "dataPath" = some (.string "/var/lib/rp") := by
  let stored : Document := .ofList
    [("root", .ofList [("eth1Client", "besu"), ("rpDir", "/opt/rp")]),
      ("smartnode", .ofList [("dataPath", "/var/lib/rp")])]
  obtain ⟨c, reached, directory, default, resets, loads⟩ :=
    exists_reachable Edit.SparesDataPath "/srv/node" false
      (fun _ h => .edit (e := .directory "/mnt/node") trivial h)
      (P := fun c => c.directory = "/mnt/node" ∧
        (c.find? .smartnode "dataPath").bind (·.defaults.resolve? .mainnet) =
          some (.string "/srv/node/data") ∧
        c.resetAll.toOption.isSome ∧ (c.load stored).toOption.isSome)
      (by decide +kernel)
  obtain ⟨-, -, -, afterReset, afterLoad⟩ := reached.dataPath_follows
  obtain ⟨r, reset⟩ := Option.isSome_iff_exists.1 resets
  obtain ⟨c', loaded⟩ := Option.isSome_iff_exists.1 loads
  obtain ⟨follows, read, value⟩ := afterLoad stored c' (eq_ok_of_toOption loaded)
  have stale : ¬ c.DataPathFollows := by
    rintro ⟨p, found, below⟩
    rw [found, Option.bind_some, below, directory] at default
    exact absurd default (by decide +kernel)
  have rpDir : stored.text? "root" "rpDir" = some "/opt/rp" := by decide +kernel
  have dataPath : stored.text? "smartnode" "dataPath" = some "/var/lib/rp" := by decide +kernel
  rw [rpDir, Option.getD_some] at read
  rw [dataPath, Option.getD_some] at value
  exact ⟨c, r, c', stored, reached, directory, stale, eq_ok_of_toOption reset,
    afterReset r (eq_ok_of_toOption reset), by decide +kernel, eq_ok_of_toOption loaded, follows,
    read, value⟩

end Configuration
end NodeSettings
