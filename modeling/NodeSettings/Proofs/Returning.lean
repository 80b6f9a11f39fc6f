import NodeSettings.Proofs.Maintenance

/-!
There and back. A node that is sent to another network and back has its settings again, but those
that stood at the other network's default without being at the one at home: they are taken for
settings that nobody changed. `Reachable.switchNetwork_returns` says so of every setting; in the
catalog that can happen to the gateways alone.
-/

namespace NodeSettings

/-- Every value but `nan` agrees with itself. -/
theorem Value.agrees_self {v : Value} (finite : v.IsFinite) : v.agrees v = true := by
  cases v with
  | float x =>
    cases x with
    | finite negative rank => simp [Value.agrees, Binary64.agrees, Binary64.place?]
    | infinite _ | nan => exact absurd (finite _ rfl) Bool.false_ne_true
  | bool _ | int _ | uint _ | uint16 _ | string _ | choice _ => simp [Value.agrees]

namespace Parameter

variable {p q r : Parameter} {home away : Network}

/-- The value is the other network's default, but not the one at home. -/
def IsMistaken (p : Parameter) (home away : Network) : Prop :=
  p.isAtDefault home = false ∧ p.isAtDefault away = true

/-- What becomes of a parameter on the way to another network and back. -/
structure Returns (home away : Network) (p r : Parameter) : Prop where
  declaration : r.toDeclaration = p.toDeclaration
  mistaken : p.IsMistaken home away →
    p.defaults.resolve? home = some r.value ∧ r.value.agrees p.value = false
  kept : ¬ p.IsMistaken home away → r.value = p.value ∨ r.value.agrees p.value = true

theorem declaration_of_follow (h : p.follow home away = .ok q) :
    q.toDeclaration = p.toDeclaration := by
  rcases eq_or_takes_of_follow h with rfl | taken
  · rfl
  · exact taken.toDeclaration_eq

theorem eq_of_declaration_of_value (declaration : q.toDeclaration = p.toDeclaration)
    (value : q.value = p.value) : q = p := by
  cases p
  cases q
  cases declaration
  cases value
  rfl

theorem agrees_of_isAtDefault {v : Value} (h : p.isAtDefault home = true)
    (default : p.defaults.resolve? home = some v) : v.agrees p.value = true := by
  rw [isAtDefault, default] at h
  exact h

theorem isAtDefault_of_value {v : Value} (default : p.defaults.resolve? home = some v)
    (finite : v.IsFinite) (value : p.value = v) : p.isAtDefault home = true := by
  rw [isAtDefault, default, value]
  exact Value.agrees_self finite

/-- A parameter that follows to the other network and then back. -/
theorem returns_of_follow (ne : home ≠ away)
    (finite : ∀ v, p.defaults.resolve? away = some v → v.IsFinite)
    (there : p.follow home away = .ok q) (back : q.follow away home = .ok r) :
    Returns home away p r := by
  have declared := declaration_of_follow there
  have declared' : r.toDeclaration = p.toDeclaration := (declaration_of_follow back).trans declared
  have went := value_of_follow ne there
  have came := value_of_follow ne.symm back
  rw [congrArg (·.defaults) declared] at came
  by_cases at_home : p.isAtDefault home = true
  · -- The default at home has become the other one, and becomes itself again.
    rw [if_pos at_home] at went
    have defaults : q.defaults.resolve? away = some q.value :=
      (congrArg (·.defaults.resolve? away) declared).trans went
    rw [if_pos (isAtDefault_of_value defaults (finite _ went) rfl)] at came
    exact ⟨declared', fun ⟨elsewhere, _⟩ => absurd at_home (by simp [elsewhere]),
      fun _ => .inr (agrees_of_isAtDefault at_home came)⟩
  · rw [if_neg at_home] at went
    obtain rfl := eq_of_declaration_of_value declared went
    have elsewhere : q.isAtDefault home = false := Bool.eq_false_iff.2 at_home
    by_cases at_away : q.isAtDefault away = true
    · rw [if_pos at_away] at came
      refine ⟨declared', fun _ => ⟨came, ?_⟩, fun kept => absurd ⟨elsewhere, at_away⟩ kept⟩
      rwa [isAtDefault, came] at elsewhere
    · rw [if_neg at_away] at came
      exact ⟨declared', fun ⟨_, mistaken⟩ => absurd mistaken at_away, fun _ => .inl came⟩

/-- With the same default everywhere, a chosen network follows no default but its own. -/
theorem eq_of_follow_of_always (ne : home ≠ away)
    (always : ∀ n, p.defaults.resolve? n = some (.ofNamed Network.primary))
    (h : p.follow home away = .ok q) : q = p := by
  have value := value_of_follow ne h
  refine eq_of_declaration_of_value (declaration_of_follow h) ?_
  split at value
  · next at_default =>
    have agrees := agrees_of_isAtDefault at_default (always home)
    rw [← Option.some.inj ((always away).symm.trans value)]
    simpa [Value.ofNamed, Value.agrees] using agrees
  · exact value

end Parameter

namespace Setting

variable {home away : Network} {s : Setting}

/-- The setting with another value. -/
def holding (v : Value) (s : Setting) : Setting := ⟨s.group, ⟨s.parameter.toDeclaration, v⟩⟩

/-- The setting as the choice of a network leaves it. -/
def chosen (network : Network) (s : Setting) : Setting :=
  if s.key = (.smartnode, "network") then s.holding (.ofNamed network) else s

/-- What a switch makes of a setting. -/
def moved (home away : Network) (s : Setting) : Setting :=
  (s.chosen away).changed fun _ p => p.follow home away

/-- What becomes of a setting on the way to another network and back. -/
def Returns (home away : Network) (s t : Setting) : Prop :=
  t.group = s.group ∧ s.parameter.Returns home away t.parameter

theorem chosen_of_ne (other : s.key ≠ (.smartnode, "network")) : s.chosen home = s := if_neg other

theorem key_of_declaration {t : Setting} (h : t.declaration = s.declaration) : t.key = s.key :=
  congrArg (fun d : Group × Declaration => (d.1, d.2.id)) h

theorem exists_moved (follows : ∃ p, (s.chosen away).parameter.follow home away = .ok p) :
    (s.chosen away).parameter.follow home away = .ok (s.moved home away).parameter ∧
      (s.moved home away).group = s.group := by
  obtain ⟨p, hp⟩ := follows
  have group : (s.chosen away).group = s.group := by
    unfold chosen
    split <;> rfl
  rw [moved, changed_of_ok hp]
  exact ⟨hp, group⟩

/-- A setting that has the same default everywhere stays where the choice of the network puts it. -/
theorem moved_network (ne : home ≠ away) (network : s.key = (.smartnode, "network"))
    (always : ∀ n, s.parameter.defaults.resolve? n = some (.ofNamed Network.primary))
    (follows : ∃ p, (s.chosen away).parameter.follow home away = .ok p) :
    s.moved home away = s.holding (.ofNamed away) := by
  have chosen : s.chosen away = s.holding (.ofNamed away) := if_pos network
  rw [chosen] at follows
  obtain ⟨p, hp⟩ := follows
  rw [moved, chosen, changed_of_ok hp,
    Parameter.eq_of_follow_of_always (p := ⟨_, .ofNamed away⟩) ne always hp]
  rfl

/-- Every setting returns, whether it is the network or follows to it. -/
theorem returns_of_moved (ne : home ≠ away)
    (finite : ∀ v, s.parameter.defaults.resolve? away = some v → v.IsFinite)
    (network : s.key = (.smartnode, "network") → s.parameter.value = .ofNamed home ∧
      ∀ n, s.parameter.defaults.resolve? n = some (.ofNamed Network.primary))
    (there : ∃ p, (s.chosen away).parameter.follow home away = .ok p)
    (back : ∃ p, ((s.moved home away).chosen home).parameter.follow away home = .ok p) :
    s.Returns home away ((s.moved home away).moved away home) := by
  by_cases key : s.key = (.smartnode, "network")
  · obtain ⟨value, always⟩ := network key
    rw [moved_network ne key always there] at back ⊢
    rw [moved_network (s := s.holding (.ofNamed away)) ne.symm key always back]
    refine ⟨rfl, rfl, fun ⟨elsewhere, mistaken⟩ => ?_, fun _ => .inl value.symm⟩
    rw [Parameter.isAtDefault, always] at elsewhere mistaken
    exact absurd (elsewhere.symm.trans mistaken) Bool.false_ne_true
  · obtain ⟨went, group⟩ := exists_moved there
    obtain ⟨came, group'⟩ := exists_moved back
    rw [chosen_of_ne key] at went
    have key' : (s.moved home away).key ≠ (.smartnode, "network") := by
      rwa [key_of_declaration (Prod.ext group (Parameter.declaration_of_follow went))]
    rw [chosen_of_ne key'] at came
    exact ⟨group'.trans group, Parameter.returns_of_follow ne finite went came⟩

end Setting

namespace Configuration

variable {c r t : Configuration} {away : Network}

theorem switchNetwork_eq_ok (known : c.outline = Catalog.outline) (ne : c.network ≠ away)
    (switched : c.switchNetwork away = .ok t) :
    (∀ s ∈ c.settings, ∃ p, (s.chosen away).parameter.follow c.network away = .ok p) ∧
      t = { c with settings := c.settings.map (Setting.moved c.network away) } := by
  have offered := ((exists_switchNetwork_iff known ne).1 ⟨t, switched⟩).1
  have settings : (c.choosing away).settings = c.settings.map (Setting.chosen away) := by
    rw [choosing, modify_settings]
    rfl
  rw [switchNetwork_of_offered known ne offered, traverse_eq_ok_iff, settings,
    List.forall_mem_map, List.map_map] at switched
  exact switched

/-- Only a setting with a default of its own on each network can be mistaken for one that was left
alone. -/
theorem perNetwork_of_isMistaken (h : c.Reachable Edit.Relocates) {s : Setting}
    (hs : s ∈ c.settings) {home away : Network} (mistaken : s.parameter.IsMistaken home away) :
    s.key ∈ Catalog.perNetwork := by
  obtain ⟨base, listed⟩ := h.exists_listed
  by_contra shared
  have same : s.parameter.defaults.resolve? home = s.parameter.defaults.resolve? away :=
    Catalog.resolve?_eq (listed s hs) shared home away
  obtain ⟨elsewhere, at_away⟩ := mistaken
  rw [Parameter.isAtDefault, same] at elsewhere
  exact absurd (elsewhere.symm.trans at_away) Bool.false_ne_true

/-- A node can be sent to the other network and back. Then every setting holds its value again, or
one that agrees with it, unless that value was the other network's default without being the one at
home: such a setting ends at its default at home. Only the gateways have such values. -/
theorem Reachable.switchNetwork_returns (h : c.Reachable Edit.Relocates)
    (supported : away ∈ Network.supported) (other : away ≠ c.network) :
    ∃ t r, c.switchNetwork away = .ok t ∧ t.network = away ∧ t.switchNetwork c.network = .ok r ∧
      r = { c with settings := r.settings } ∧
      List.Forall₂ (Setting.Returns c.network away) c.settings r.settings ∧
      ∀ s ∈ c.settings, s.parameter.IsMistaken c.network away →
        s.key ∈ [(.pocket, "gatewayID"), (.fallbackPocket, "gatewayID")] := by
  obtain ⟨base, declared⟩ := h.declarations_eq
  have listed {s : Setting} (hs : s ∈ c.settings) : s.declaration ∈ Catalog.all base :=
    declared ▸ List.mem_map_of_mem hs
  obtain ⟨p, network, id, value, selectable⟩ := h.network_selected
  have default {q : Parameter} (hq : ⟨.smartnode, q⟩ ∈ c.settings) (id : q.id = "network") :
      q.defaults = .always (.ofNamed Network.primary) :=
    defaults_of_mem_smartnode (Catalog.mem_all.1 (listed hq)) id
  have ne : c.network ≠ away := other.symm
  have selectable' : away ≠ .all := by
    rintro rfl
    exact absurd supported (by decide)
  obtain ⟨t, there⟩ := h.exists_switchNetwork selectable'
  have reached : t.Reachable Edit.Relocates := h.of_run (o := .switchNetwork away) there
  obtain ⟨r, back⟩ := reached.exists_switchNetwork selectable
  have arrived : t.network = away := network_of_switchNetwork h.outline_eq ne there
    fun q found => default (mem_of_find? found).1 (mem_of_find? found).2
  obtain ⟨each, made⟩ := switchNetwork_eq_ok h.outline_eq ne there
  obtain ⟨each', made'⟩ := switchNetwork_eq_ok reached.outline_eq (arrived ▸ other) back
  rw [arrived] at each' made'
  have settings : r.settings =
      c.settings.map fun s => (s.moved c.network away).moved away c.network := by
    rw [made', made, List.map_map]
    rfl
  refine ⟨t, r, there, arrived, back, by rw [made', made], ?_,
    fun s hs => perNetwork_of_isMistaken h hs⟩
  rw [settings]
  refine List.forall₂_map_right_iff.2 (List.forall₂_same.2 fun s hs => ?_)
  refine Setting.returns_of_moved ne (fun v => Catalog.isFinite_of_default (listed hs))
    (fun key => ?_) (each s hs) (each' _ (made ▸ List.mem_map_of_mem hs))
  have same : s = ⟨.smartnode, p⟩ :=
    eq_of_key_eq h.keys_nodup hs network (key.trans (Prod.ext rfl id.symm))
  subst same
  refine ⟨value, fun n => ?_⟩
  rw [default hs id]
  cases n <;> rfl

/-- The gateway of Prater, given to a node on the main network, is taken for a default there: back
home the node has the main network's gateway. Its peers stay. -/
theorem switchNetwork_returns_gateway : ∃ c t r : Configuration, c.Reachable Edit.Relocates ∧
    c.network = .mainnet ∧ c.text .pocket "gatewayID" = "lb/6126b4a783e49000343a3a47" ∧
    c.switchNetwork .prater = .ok t ∧ t.switchNetwork c.network = .ok r ∧
    List.Forall₂ (Setting.Returns c.network .prater) c.settings r.settings ∧
    r.text .pocket "gatewayID" = "lb/613bb4ae8c124d00353c40a1" ∧ r.text .geth "maxPeers" = "7" := by
  let again (c : Configuration) : Configuration :=
    (c.after (.switchNetwork .prater)).after (.switchNetwork .mainnet)
  obtain ⟨c, reached, main, gateway, gateway', peers⟩ :=
    exists_reachable Edit.Relocates "/srv/node" false
      (fun _ h => .operation (.assignText .pocket "gatewayID" "lb/6126b4a783e49000343a3a47")
        (.operation (.assignText .geth "maxPeers" "7") h))
      (P := fun c => c.network = .mainnet ∧
        c.text .pocket "gatewayID" = "lb/6126b4a783e49000343a3a47" ∧
        (again c).text .pocket "gatewayID" = "lb/613bb4ae8c124d00353c40a1" ∧
        (again c).text .geth "maxPeers" = "7") (by decide +kernel)
  have supported : Network.prater ∈ Network.supported := by decide
  obtain ⟨t, r, there, -, back, -, returns, -⟩ :=
    reached.switchNetwork_returns supported (main ▸ nofun)
  have same : again c = r := by
    show (c.after (.switchNetwork .prater)).after (.switchNetwork .mainnet) = r
    rw [after_of_ok (o := .switchNetwork .prater) there, ← main,
      after_of_ok (o := .switchNetwork c.network) back]
  rw [same] at gateway' peers
  exact ⟨c, t, r, reached, main, gateway, there, back, returns, gateway', peers⟩

end Configuration
end NodeSettings
