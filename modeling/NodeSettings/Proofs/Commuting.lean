import NodeSettings.Proofs.Returning

/-!
What commutes with the choice of a network. A refresh does (`Reachable.refresh_commutes`): the
settings that track the software's version have the same default everywhere, and a switch leaves
them there. So does a load (`Reachable.load_choosing`): a node that is loaded and then sent to
another network has the settings of one that is loaded from the document with that network in it,
unless the document spells out a default that is not the same there.
-/

namespace NodeSettings

namespace Catalog

/-- What tracks the software's version has a default that it may hold, the same on all networks, and
is not the network itself. -/
theorem exists_default_of_tracks {directory : String} {d : Group × Declaration}
    (declared : d ∈ all directory) (tracks : d.2.overwriteOnUpgrade = true) :
    (d.1, d.2.id) ≠ (.smartnode, "network") ∧
      ∃ v, (∀ n, d.2.defaults.resolve? n = some v) ∧ d.2.Allows v ∧ v.IsFinite := by
  have apart : ∀ d ∈ outline, d.2.overwriteOnUpgrade = true →
      (d.1, d.2.id) ∉ perNetwork ∧ (d.1, d.2.id) ≠ (.smartnode, "network") := by
    have each (group : Group) : ∀ d ∈ declarations "" group, d.overwriteOnUpgrade = true →
        (group, d.id) ∉ perNetwork ∧ (group, d.id) ≠ (.smartnode, "network") := by
      cases group <;> decide
    intro d hd tracks
    obtain ⟨⟨group, e⟩, mem, rfl⟩ := List.mem_map.1 hd
    exact each group e (mem_all.1 mem) tracks
  have listed : (d.1, d.2.bare) ∈ outline := outline_eq directory ▸ List.mem_map_of_mem declared
  obtain ⟨shared, other⟩ := apart _ listed tracks
  obtain ⟨v, default, allowed⟩ :=
    exists_default declared (.inl (by decide : Network.mainnet ≠ .all))
  exact ⟨other, v, fun n => (resolve?_eq declared shared n .mainnet).trans default, allowed,
    isFinite_of_default declared default⟩

end Catalog

namespace Setting

variable {s t : Setting} {v : Value} {network home away : Network} {base : String}

theorem moved_declaration
    (follows : ∃ p, (s.chosen away).parameter.follow home away = .ok p) :
    (s.moved home away).declaration = s.declaration := by
  obtain ⟨followed, group⟩ := exists_moved follows
  refine Prod.ext group ((Parameter.declaration_of_follow followed).trans ?_)
  unfold chosen
  split <;> rfl

theorem holding_of_declaration (same : t.declaration = s.declaration) :
    t.holding v = s.holding v := by
  obtain ⟨group, declaration⟩ := Prod.mk.inj same
  rw [holding, holding, group, declaration]

/-! ## Settings that track the software's version -/

/-- What a refresh makes of a setting. -/
def refreshed (network : Network) (s : Setting) : Setting :=
  s.changed fun _ p => if p.overwriteOnUpgrade then p.reset network else .ok p

/-- The setting tracks the software's version, and `v` is its default. -/
structure Tracks (s : Setting) (v : Value) : Prop where
  overwrites : s.parameter.overwriteOnUpgrade = true
  other : s.key ≠ (.smartnode, "network")
  default : ∀ n, s.parameter.defaults.resolve? n = some v
  allowed : s.parameter.Allows v
  finite : v.IsFinite

theorem tracks_or_stays (declared : s.declaration ∈ Catalog.all base) :
    (∃ v, s.Tracks v) ∨ s.parameter.overwriteOnUpgrade = false := by
  cases overwrites : s.parameter.overwriteOnUpgrade with
  | false => exact .inr rfl
  | true =>
    obtain ⟨other, v, default, allowed, finite⟩ :=
      Catalog.exists_default_of_tracks declared overwrites
    exact .inl ⟨v, overwrites, other, default, allowed, finite⟩

theorem Tracks.of_declaration (h : s.Tracks v) (same : t.declaration = s.declaration) :
    t.Tracks v := by
  obtain ⟨-, declaration⟩ := Prod.mk.inj same
  exact
    { overwrites := declaration ▸ h.overwrites
      other := key_of_declaration same ▸ h.other
      default := declaration ▸ h.default
      allowed := declaration ▸ h.allowed
      finite := h.finite }

theorem refreshed_of_stays (stays : s.parameter.overwriteOnUpgrade = false) :
    s.refreshed network = s :=
  changed_of_ok (by rw [stays, if_neg Bool.false_ne_true])

theorem Tracks.refreshed (h : s.Tracks v) (network : Network) :
    s.refreshed network = s.holding v :=
  changed_of_ok ((if_pos h.overwrites).trans
    (Parameter.reset_eq_ok_iff.2 ⟨v, h.default network, h.allowed, rfl⟩))

/-- A switch leaves the setting at its default. -/
theorem Tracks.moved (h : s.Tracks v) (ne : home ≠ away) :
    (s.holding v).moved home away = s.holding v := by
  have held : (s.holding v).Tracks v := h.of_declaration rfl
  have at_default : (s.holding v).parameter.isAtDefault home = true :=
    Parameter.isAtDefault_of_value (held.default home) h.finite rfl
  have followed : (s.holding v).parameter.follow home away = .ok (s.holding v).parameter := by
    rw [Parameter.follow_of_isAtDefault ne at_default]
    exact Parameter.reset_eq_ok_iff.2 ⟨v, held.default away, held.allowed, rfl⟩
  rw [Setting.moved, chosen_of_ne held.other]
  exact changed_of_ok followed

theorem refreshed_refreshed (declared : s.declaration ∈ Catalog.all base) :
    (s.refreshed network).refreshed network = s.refreshed network := by
  rcases tracks_or_stays declared with ⟨v, tracks⟩ | stays
  · rw [tracks.refreshed, (tracks.of_declaration (t := s.holding v) rfl).refreshed]
    rfl
  · rw [refreshed_of_stays stays, refreshed_of_stays stays]

/-- What tracks the software's version ends at its default, whichever comes first; the rest only
follows the network. -/
theorem refreshed_moved_comm (declared : s.declaration ∈ Catalog.all base) (ne : home ≠ away)
    (follows : ∃ p, (s.chosen away).parameter.follow home away = .ok p) :
    (s.refreshed home).moved home away = (s.moved home away).refreshed away := by
  have same := moved_declaration follows
  rcases tracks_or_stays declared with ⟨v, tracks⟩ | stays
  · rw [tracks.refreshed, tracks.moved ne, (tracks.of_declaration same).refreshed,
      holding_of_declaration same]
  · have stays' : (s.moved home away).parameter.overwriteOnUpgrade = false :=
      (congrArg (·.2.overwriteOnUpgrade) same).trans stays
    rw [refreshed_of_stays stays, refreshed_of_stays stays']

end Setting

namespace Configuration

variable {c r t : Configuration} {home away : Network}

/-- The configuration with each setting changed. -/
def mapped (c : Configuration) (f : Setting → Setting) : Configuration :=
  { c with settings := c.settings.map f }

theorem mapped_mapped {f g k : Setting → Setting} (same : ∀ s ∈ c.settings, g (f s) = k s) :
    (c.mapped f).mapped g = c.mapped k := by
  have settings : (c.settings.map f).map g = c.settings.map k := by
    rw [List.map_map]
    exact List.map_congr_left same
  rw [mapped, mapped, mapped, settings]

theorem refresh_eq_ok (h : c.refresh = .ok r) : r = c.mapped (Setting.refreshed c.network) :=
  (traverse_eq_ok_iff.1 h).2

/-- The network does not track the software's version. -/
theorem network_of_refresh (h : c.Reachable Edit.Relocates) (refreshed : c.refresh = .ok r) :
    r.network = c.network := by
  obtain ⟨base, listed⟩ := h.exists_listed
  obtain ⟨p, hs, id, -, -⟩ := h.network_selected
  have reached : r.Reachable Edit.Relocates := h.of_run (o := .refresh) refreshed
  have stays : (⟨.smartnode, p⟩ : Setting).refreshed c.network = ⟨.smartnode, p⟩ := by
    rcases Setting.tracks_or_stays (listed _ hs) with ⟨v, tracks⟩ | stays
    · exact absurd (congrArg (Prod.mk Group.smartnode) id) tracks.other
    · exact Setting.refreshed_of_stays stays
  have hs' : ⟨.smartnode, p⟩ ∈ r.settings := by
    rw [refresh_eq_ok refreshed, ← stays]
    exact List.mem_map_of_mem hs
  have same : r.find? .smartnode "network" = c.find? .smartnode "network" :=
    ((find?_eq_some_iff reached.keys_nodup).2 ⟨hs', id⟩).trans
      ((find?_eq_some_iff h.keys_nodup).2 ⟨hs, id⟩).symm
  rw [network, network, named?, named?, value?, value?, same]

/-- In the catalog the network has the same default everywhere. -/
theorem Reachable.network_of_switchNetwork (h : c.Reachable Edit.Relocates)
    (switched : c.switchNetwork away = .ok t) : t.network = away := by
  by_cases same : c.network = away
  · rw [switchNetwork_of_eq same] at switched
    rw [← Except.ok.inj switched, same]
  · obtain ⟨base, listed⟩ := h.exists_listed
    refine Configuration.network_of_switchNetwork h.outline_eq same switched fun p found => ?_
    obtain ⟨hs, id⟩ := mem_of_find? found
    exact defaults_of_mem_smartnode (Catalog.mem_all.1 (listed _ hs)) id

theorem Reachable.refresh_again (h : c.Reachable Edit.Relocates) (refreshed : c.refresh = .ok r) :
    r.refresh = .ok r := by
  obtain ⟨base, listed⟩ := h.exists_listed
  have reached : r.Reachable Edit.Relocates := h.of_run (o := .refresh) refreshed
  obtain ⟨u, refreshed'⟩ := reached.exists_refresh
  rw [refreshed', refresh_eq_ok refreshed', network_of_refresh h refreshed, refresh_eq_ok refreshed,
    mapped_mapped fun s hs => Setting.refreshed_refreshed (listed s hs)]

/-- A switch and a refresh meet, in whichever order they are made. -/
theorem Reachable.switchNetwork_of_refresh (h : c.Reachable Edit.Relocates)
    (refreshed : c.refresh = .ok r) (selectable : away ≠ .all) :
    ∃ t u, c.switchNetwork away = .ok t ∧ t.refresh = .ok u ∧ r.switchNetwork away = .ok u := by
  obtain ⟨base, listed⟩ := h.exists_listed
  have reached : r.Reachable Edit.Relocates := h.of_run (o := .refresh) refreshed
  have network := network_of_refresh h refreshed
  by_cases same : c.network = away
  · exact ⟨c, r, switchNetwork_of_eq same, refreshed, switchNetwork_of_eq (network.trans same)⟩
  · obtain ⟨t, switched⟩ := h.exists_switchNetwork selectable
    obtain ⟨u, refreshed'⟩ := (h.of_run (o := .switchNetwork away) switched).exists_refresh
    obtain ⟨u', switched'⟩ := reached.exists_switchNetwork selectable
    obtain ⟨follows, went⟩ := switchNetwork_eq_ok h.outline_eq same switched
    obtain ⟨-, went'⟩ := switchNetwork_eq_ok reached.outline_eq (network ▸ same) switched'
    have comm : ∀ s ∈ c.settings, (s.refreshed c.network).moved c.network away =
        (s.moved c.network away).refreshed away := fun s hs =>
      Setting.refreshed_moved_comm (listed s hs) same (follows s hs)
    have meets : u' = u := calc
      u' = (c.mapped (Setting.refreshed c.network)).mapped (Setting.moved c.network away) := by
        rw [went', network, refresh_eq_ok refreshed]
        rfl
      _ = (c.mapped (Setting.moved c.network away)).mapped (Setting.refreshed away) := by
        rw [mapped_mapped comm, mapped_mapped fun _ _ => rfl]
      _ = u := by
        rw [refresh_eq_ok refreshed', h.network_of_switchNetwork switched, went]
        rfl
    exact ⟨t, u, switched, refreshed', meets ▸ switched'⟩

/-- A refresh succeeds. It gives the settings that track the software's version their defaults for
the network, and leaves everything else, the network too. A second one changes nothing. Before or
after a switch to any supported network it leads to the same configuration. -/
theorem Reachable.refresh_commutes (h : c.Reachable Edit.Relocates) :
    ∃ r, c.refresh = .ok r ∧ c.Refreshes r ∧ r.network = c.network ∧ r.refresh = .ok r ∧
      ∀ n ∈ Network.supported, ∃ t u, c.switchNetwork n = .ok t ∧ t.refresh = .ok u ∧
        r.switchNetwork n = .ok u := by
  obtain ⟨r, refreshed⟩ := h.exists_refresh
  exact ⟨r, refreshed, refreshes_of_refresh refreshed, network_of_refresh h refreshed,
    h.refresh_again refreshed, fun n supported =>
      h.switchNetwork_of_refresh refreshed (Network.ne_all_of_supported supported)⟩

/-- A node with an image of its own for Geth and fewer peers, refreshed and sent to Prater in either
order: the image is the default again, and the peers stay. -/
theorem refresh_commutes_geth : ∃ c r t u : Configuration, c.Reachable Edit.Relocates ∧
    c.text .geth "containerTag" = "registry.local/geth:1" ∧ c.refresh = .ok r ∧
    c.switchNetwork .prater = .ok t ∧ t.refresh = .ok u ∧ r.switchNetwork .prater = .ok u ∧
    u.text .geth "containerTag" = "ethereum/client-go:v1.10.21" ∧
    u.text .geth "maxPeers" = "7" := by
  obtain ⟨c, reached, image, image', peers⟩ :=
    exists_reachable Edit.Relocates "/srv/node" false
      (fun _ h => h.operations [.assignText .geth "containerTag" "registry.local/geth:1",
        .assignText .geth "maxPeers" "7"])
      (P := fun c => c.text .geth "containerTag" = "registry.local/geth:1" ∧
        ((c.after (.switchNetwork .prater)).after .refresh).text .geth "containerTag" =
          "ethereum/client-go:v1.10.21" ∧
        ((c.after (.switchNetwork .prater)).after .refresh).text .geth "maxPeers" = "7")
      (by decide +kernel)
  obtain ⟨r, refreshed, -, -, -, commutes⟩ := reached.refresh_commutes
  obtain ⟨t, u, switched, refreshed', switched'⟩ := commutes .prater (by decide)
  rw [after_of_ok (o := .switchNetwork .prater) switched,
    after_of_ok (o := .refresh) refreshed'] at image' peers
  exact ⟨c, r, t, u, reached, image, refreshed, switched, refreshed', switched', image', peers⟩

end Configuration

/-! ## Documents with another network in them -/

namespace Document

variable {m : Document} {network : Network}

/-- The document with a network chosen in it. -/
def choosing (m : Document) (network : Network) : Document :=
  m.insert "smartnode" (((m.get? "smartnode").getD ∅).insert "network" network.name)

theorem text?_choosing (m : Document) (network : Network) (group id : String) :
    (m.choosing network).text? group id =
      if (group, id) = ("smartnode", "network") then some network.name else m.text? group id := by
  show (m.choosing network).at? (group, id) = _
  unfold choosing
  rw [at?_insert, Table.get?_insert]
  by_cases smartnode : group = "smartnode"
  · subst smartnode
    have same : ((m.get? "smartnode").getD ∅).get? id = m.at? ("smartnode", id) :=
      get?_getD m ("smartnode", id)
    by_cases named : id = "network"
    · simp [named]
    · simp [named, same, at?]
  · simp [smartnode, at?]

/-- The network that a document selects: the one that it names, or else the main network. -/
def Selects (m : Document) (network : Network) : Prop :=
  match m.text? "smartnode" "network" with
  | some raw => Named.find? raw = some network
  | none => network = .mainnet

/-- Whether a text of a document spells out the default that its setting has on a network. -/
def storesDefault (m : Document) (network : Network) (d : Group × Declaration) : Bool :=
  ((m.text? d.1.key d.2.id).bind (Value.parse? d.2.kind)).any fun v =>
    Parameter.isAtDefault ⟨d.2, v⟩ network

theorem choosing_selects (m : Document) (network : Network) :
    (m.choosing network).Selects network := by
  unfold Selects
  rw [text?_choosing, if_pos rfl]
  exact Network.find?_name network

/-- The choice of a network is no matter of the layout. -/
theorem upgrade_choosing (upgraded : m.upgrade = .ok m) :
    (m.choosing network).upgrade = .ok (m.choosing network) := by
  refine upgrade_of_current ?_
  rw [text?_choosing, if_neg (by decide)]
  exact text?_version_of_upgrade upgraded

end Document

/-- What a text, or its absence, denotes on a network, once it has followed to another one, agrees
with what it denotes there, if it does not spell out a default that is another one there. -/
theorem Parameter.exists_denoted_of_follow {d : Declaration} {stored : Option String} {v : Value}
    {q : Parameter} {home away : Network} (ne : home ≠ away)
    (denoted : d.denoted? stored home = some v) (allowed : d.Allows v)
    (default : ∃ w, d.defaults.resolve? away = some w ∧ d.Allows w)
    (finite : ∀ n w, d.defaults.resolve? n = some w → w.IsFinite)
    (clear : stored.isSome → d.defaults.resolve? home ≠ d.defaults.resolve? away →
      isAtDefault ⟨d, v⟩ home = false)
    (followed : follow ⟨d, v⟩ home away = .ok q) :
    ∃ w, d.denoted? stored away = some w ∧ d.Allows w ∧ q.value.agrees w = true := by
  have went := value_of_follow ne followed
  cases stored with
  | none =>
    have default_home : d.defaults.resolve? home = some v := denoted
    obtain ⟨w, default, allowed⟩ := default
    rw [if_pos (isAtDefault_of_value default_home (finite home v default_home) rfl)] at went
    obtain rfl := Option.some.inj (default.symm.trans went)
    exact ⟨q.value, default, allowed, Value.agrees_self (finite away _ default)⟩
  | some raw =>
    refine ⟨v, denoted, allowed, ?_⟩
    by_cases at_home : isAtDefault ⟨d, v⟩ home = true
    · -- The default that is spelled out is the same there.
      rw [if_pos at_home] at went
      have same : d.defaults.resolve? home = d.defaults.resolve? away := by
        by_contra differ
        exact absurd at_home (by simp [clear rfl differ])
      exact agrees_of_isAtDefault at_home (same.trans went)
    · rw [if_neg at_home] at went
      rw [went]
      exact Value.agrees_self (Value.isFinite_of_parse? denoted)

/-- Two settings are declared alike, and their values agree. -/
structure Setting.Agrees (s t : Setting) : Prop where
  declaration : t.declaration = s.declaration
  value : s.parameter.value.agrees t.parameter.value = true

namespace Configuration

variable {a c : Configuration} {m : Document} {home away : Network} {isNative : Bool}

/-- A setting that is read from a document and then follows to another network, and one that is read
from the document with that network in it: the two ways to fill in a default come to the same. -/
theorem agrees_moved {directory : String} {d : Group × Declaration}
    (declared : d ∈ Catalog.all directory) (ne : home ≠ away) (selectable : away ≠ .all)
    (gives : m.Gives home d)
    (clear : d.2.defaults.resolve? home ≠ d.2.defaults.resolve? away →
      m.storesDefault home d = false)
    (follows : ∃ p, ((m.setting home d).chosen away).parameter.follow home away = .ok p)
    (valid : ((m.setting home d).moved home away).parameter.IsValid) :
    (m.choosing away).Gives away d ∧
      ((m.setting home d).moved home away).Agrees ((m.choosing away).setting away d) := by
  have same := Setting.moved_declaration follows
  obtain ⟨group, d⟩ := d
  suffices found : ∃ w, d.denoted? ((m.choosing away).text? group.key d.id) away = some w ∧
      d.Allows w ∧ ((m.setting home (group, d)).moved home away).parameter.value.agrees w = true by
    obtain ⟨w, denoted, allowed, agrees⟩ := found
    refine ⟨⟨w, denoted, allowed⟩, same.symm, ?_⟩
    rwa [Document.setting_of_denoted (d := (group, d)) denoted]
  by_cases key : (group, d.id) = (.smartnode, "network")
  · obtain ⟨rfl, id⟩ := Prod.mk.inj key
    have moved : (m.setting home (.smartnode, d)).moved home away =
        (m.setting home (.smartnode, d)).holding (.ofNamed away) :=
      Setting.moved_network ne key (fun n => by
        rw [Document.setting, defaults_of_mem_smartnode (Catalog.mem_all.1 declared) id]
        cases n <;> rfl) follows
    rw [moved] at valid ⊢
    have finite : (Value.ofNamed away).IsFinite :=
      Value.isFinite_of_kind (show Kind.choice ≠ .float by decide)
    refine ⟨.ofNamed away, ?_, valid, Value.agrees_self finite⟩
    have kind : Kind.choice = d.kind := valid.kind
    rw [Document.text?_choosing, id, if_pos (by rfl), Declaration.denoted?, ← kind]
    rfl
  · have text : (m.choosing away).text? group.key d.id = m.text? group.key d.id := by
      refine (Document.text?_choosing m away _ _).trans (if_neg fun place => key ?_)
      obtain ⟨smartnode, id⟩ := Prod.mk.inj place
      exact Prod.ext (Group.key_injective smartnode) id
    obtain ⟨v, denoted, allowed⟩ := gives
    rw [text]
    rw [Document.setting_of_denoted denoted] at follows ⊢
    obtain ⟨followed, -⟩ := Setting.exists_moved follows
    rw [Setting.chosen_of_ne (s := ⟨group, ⟨d, v⟩⟩) key] at followed
    refine Parameter.exists_denoted_of_follow ne denoted allowed
      (Catalog.exists_default declared (.inl selectable))
      (fun n w => Catalog.isFinite_of_default declared) (fun stored differ => ?_) followed
    obtain ⟨raw, stored⟩ := Option.isSome_iff_exists.1 stored
    have parsed : Value.parse? d.kind raw = some v := by
      rwa [stored] at denoted
    simpa [Document.storesDefault, stored, parsed] using clear differ

/-- The document with another network in it says the same of where and how the node is run. -/
theorem Reachable.load_of_choosing (h : c.Reachable Edit.Relocates) (upgraded : m.upgrade = .ok m)
    (native : storedNative m c.isNative = .ok isNative)
    (gives : ∀ d ∈ Catalog.all (storedDirectory m c.directory), (m.choosing away).Gives away d) :
    c.load (m.choosing away) =
      .ok (ofDocument (m.choosing away) away (storedDirectory m c.directory) isNative) := by
  have top {id : String} : (m.choosing away).text? Group.root.key id = m.text? Group.root.key id :=
    (Document.text?_choosing m away _ id).trans (if_neg fun place =>
      absurd (Prod.mk.inj place).1 (by decide))
  have directory :
      storedDirectory (m.choosing away) c.directory = storedDirectory m c.directory := by
    rw [storedDirectory, storedDirectory, top]
  have native' : storedNative (m.choosing away) c.isNative = .ok isNative := by
    rw [storedNative_eq_ok_iff] at native ⊢
    rwa [top]
  exact h.load_eq_ok_iff.2 ⟨_, away, isNative, Document.upgrade_choosing upgraded,
    storedNetwork_eq_ok_iff.2 (m.choosing_selects away), native', directory ▸ gives,
    by rw [directory]⟩

/-- Loading and switching commute. A document of the current layout selects a network and is loaded.
Then the node can be sent to the other network, and from the same start the document can be loaded
with that network in it. Both ways lead to the same node, on that network, in which every value of
the one agrees with that of the other, as long as the document spells out no default for the network
it selects that is another one there. -/
theorem Reachable.load_choosing (h : c.Reachable Edit.Relocates) (upgraded : m.upgrade = .ok m)
    (selects : m.Selects home) (loaded : c.load m = .ok a) (supported : away ∈ Network.supported)
    (other : away ≠ home)
    (clear : ∀ d ∈ a.declarations, d.2.defaults.resolve? home ≠ d.2.defaults.resolve? away →
      m.storesDefault home d = false) :
    ∃ t b, a.switchNetwork away = .ok t ∧ c.load (m.choosing away) = .ok b ∧
      b = { t with settings := b.settings } ∧ t.network = away ∧ b.network = away ∧
      List.Forall₂ Setting.Agrees t.settings b.settings := by
  have reached : a.Reachable Edit.Relocates := h.of_run (o := .load m) loaded
  have selectable := Network.ne_all_of_supported supported
  obtain ⟨n, network, isNative, is, named, native, gives, made⟩ := h.load_eq_ok_iff.1 loaded
  obtain rfl : m = n := Except.ok.inj (upgraded.symm.trans is)
  have chosen : storedNetwork m = .ok home := storedNetwork_eq_ok_iff.2 selects
  obtain rfl : home = network := Except.ok.inj (chosen.symm.trans named)
  have here : a.network = home := made ▸ network_ofDocument named
  obtain ⟨t, switched⟩ := reached.exists_switchNetwork selectable
  have reached' : t.Reachable Edit.Relocates := reached.of_run (o := .switchNetwork away) switched
  obtain ⟨follows, went⟩ := switchNetwork_eq_ok reached.outline_eq (here ▸ other.symm) switched
  rw [here, made] at follows
  rw [here, made] at went
  have each (d : Group × Declaration) (hd : d ∈ Catalog.all (storedDirectory m c.directory)) :
      (m.choosing away).Gives away d ∧
        ((m.setting home d).moved home away).Agrees ((m.choosing away).setting away d) := by
    have hs : m.setting home d ∈ (ofDocument m home (storedDirectory m c.directory)
        isNative).settings := List.mem_map_of_mem hd
    refine agrees_moved hd other.symm selectable (gives d hd) (clear d ?_) (follows _ hs)
      (reached'.isValid_of_relocates _ ?_)
    · rw [made, ofDocument_declarations]
      exact hd
    · rw [went]
      exact List.mem_map_of_mem hs
  refine ⟨t, ofDocument (m.choosing away) away (storedDirectory m c.directory) isNative, switched,
    h.load_of_choosing upgraded native fun d hd => (each d hd).1, ?_,
    reached.network_of_switchNetwork switched,
    network_ofDocument (storedNetwork_eq_ok_iff.2 (m.choosing_selects away)), ?_⟩
  · rw [went]
    rfl
  · rw [went]
    show List.Forall₂ _ (((Catalog.all _).map (m.setting home)).map _) ((Catalog.all _).map _)
    rw [List.map_map]
    exact List.forall₂_map_left_iff.2 (List.forall₂_map_right_iff.2
      (List.forall₂_same.2 fun d hd => (each d hd).2))

/-- A document with a gateway of its own and fewer peers, that leaves the gateway to fall back on to
the default: on Prater the own gateway and the peers stay, and the other gateway is Prater's. -/
theorem load_choosing_gateway : ∃ (c a t b : Configuration) (m : Document),
    c.Reachable Edit.Relocates ∧ c.load m = .ok a ∧ a.switchNetwork .prater = .ok t ∧
    c.load (m.choosing .prater) = .ok b ∧ List.Forall₂ Setting.Agrees t.settings b.settings ∧
    t.directory = "/data" ∧ t.text .pocket "gatewayID" = "lb/0123456789abcdef01234567" ∧
    t.text .fallbackPocket "gatewayID" = "lb/6126b4a783e49000343a3a47" ∧
    t.text .geth "maxPeers" = "7" := by
  let m : Document := .ofList
    [("root", .ofList [("rpDir", "/data"), ("version", "v1.5.0")]),
      ("geth", .ofList [("maxPeers", "7")]),
      ("pocket", .ofList [("gatewayID", "lb/0123456789abcdef01234567")])]
  let there (a : Configuration) : Configuration := a.after (.switchNetwork .prater)
  obtain ⟨c, reached, isOk, clear, texts⟩ :=
    exists_reachable Edit.Relocates "/srv/node" false (fun _ h => h)
      (P := fun c => (c.load m).isOk = true ∧
        (∀ d ∈ (c.after (.load m)).declarations,
          d.2.defaults.resolve? .mainnet ≠ d.2.defaults.resolve? .prater →
            m.storesDefault .mainnet d = false) ∧
        (there (c.after (.load m))).directory = "/data" ∧
        (there (c.after (.load m))).text .pocket "gatewayID" = "lb/0123456789abcdef01234567" ∧
        (there (c.after (.load m))).text .fallbackPocket "gatewayID" =
          "lb/6126b4a783e49000343a3a47" ∧
        (there (c.after (.load m))).text .geth "maxPeers" = "7") (by decide +kernel)
  cases loaded : c.load m with
  | error e => simp [loaded, Except.isOk, Except.toBool] at isOk
  | ok a =>
    rw [after_of_ok (o := .load m) loaded] at clear texts
    have upgraded : m.upgrade = .ok m := Document.upgrade_of_current (by decide +kernel)
    have silent : m.text? "smartnode" "network" = none := by decide +kernel
    have selects : m.Selects .mainnet := by rw [Document.Selects, silent]
    obtain ⟨t, b, switched, loaded', -, -, -, agrees⟩ :=
      reached.load_choosing upgraded selects loaded (by decide : Network.prater ∈ Network.supported)
        (by decide) clear
    rw [show there a = t from after_of_ok (o := .switchNetwork .prater) switched] at texts
    exact ⟨c, a, t, b, m, reached, loaded, switched, loaded', agrees, texts⟩

end Configuration
end NodeSettings
