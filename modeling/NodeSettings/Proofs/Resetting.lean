import NodeSettings.Proofs.Maintenance

/-!
Resets. A reset takes the defaults of the network that it finds, and the network is one of the
settings that it resets, so that every reset leads to the main network.
`Reachable.resetAll_settles`: from the main network one reset is final, from another one the second.
-/

namespace NodeSettings.Configuration

variable {c r : Configuration} {network : Network}

/-- Every setting holds its default for a network. -/
def IsAtDefaults (c : Configuration) (network : Network) : Prop :=
  ∀ s ∈ c.settings, s.parameter.defaults.resolve? network = some s.parameter.value

theorem isAtDefaults_of_resetAll (h : c.resetAll = .ok r) : r.IsAtDefaults c.network := by
  refine forall_of_traverse h fun s _ p hp => ?_
  obtain ⟨v, default, -, rfl⟩ := Parameter.reset_eq_ok_iff.1 hp
  exact default

/-- The main network is the default of the network on each of them. -/
theorem network_of_isAtDefaults (h : c.Reachable Edit.Relocates)
    (settled : c.IsAtDefaults network) : c.network = .mainnet := by
  obtain ⟨base, listed⟩ := h.exists_listed
  obtain ⟨p, hs, id, value, -⟩ := h.network_selected
  have default := settled _ hs
  rw [defaults_of_mem_smartnode (Catalog.mem_all.1 (listed _ hs)) id, value] at default
  have name : Network.primary.name = c.network.name := by
    cases network <;> exact Value.choice.inj (Option.some.inj default)
  have found := congrArg (Named.find? (α := Network)) name
  rw [Network.find?_name, Network.find?_name] at found
  exact (Option.some.inj found).symm

/-- Where every setting holds its default for the network, a reset changes nothing. -/
theorem resetAll_of_isAtDefaults (h : c.Reachable Edit.Relocates)
    (known : c.declarations = Catalog.all c.directory) (settled : c.IsAtDefaults c.network) :
    c.resetAll = .ok c := by
  have stays (s : Setting) (hs : s ∈ c.settings) :
      s.parameter.reset c.network = .ok s.parameter :=
    Parameter.reset_eq_ok_iff.2
      ⟨s.parameter.value, settled s hs, h.isValid_of_relocates s hs, rfl⟩
  unfold resetAll
  rw [rebase_of_declarations known, traverse_eq_ok_iff]
  refine ⟨fun s hs => ⟨_, stays s hs⟩, ?_⟩
  have same (s : Setting) (hs : s ∈ c.settings) :
      s.changed (fun _ p => p.reset c.network) = s := Setting.changed_of_ok (stays s hs)
  rw [List.map_congr_left same, List.map_id']

/-- A reset has put the data path's default below the base directory. -/
theorem declarations_eq_of_resetAll (h : c.Reachable Edit.Relocates) (reset : c.resetAll = .ok r) :
    r.declarations = Catalog.all r.directory := by
  obtain ⟨base, declared⟩ := h.declarations_eq
  rw [declarations_of_resetAll reset, declared, Catalog.map_rebased_all]

/-- What a reset leads to when it finds the main network is left alone by the next one. -/
theorem resetAll_again (h : c.Reachable Edit.Relocates) (main : c.network = .mainnet)
    (reset : c.resetAll = .ok r) : r.IsAtDefaults r.network ∧ r.resetAll = .ok r := by
  have reached : r.Reachable Edit.Relocates := h.of_run (o := .resetAll) reset
  have settled := isAtDefaults_of_resetAll reset
  rw [main, ← network_of_isAtDefaults reached settled] at settled
  exact ⟨settled,
    resetAll_of_isAtDefaults reached (declarations_eq_of_resetAll h reset) settled⟩

/-- Every setting that has the same default on all networks is at its default, whichever network
the defaults were taken for. -/
theorem IsAtDefaults.of_not_perNetwork (h : c.Reachable Edit.Relocates)
    (settled : c.IsAtDefaults network) {s : Setting} (hs : s ∈ c.settings)
    (shared : s.key ∉ Catalog.perNetwork) (other : Network) :
    s.parameter.defaults.resolve? other = some s.parameter.value := by
  obtain ⟨base, listed⟩ := h.exists_listed
  rw [← settled s hs]
  exact Catalog.resolve?_eq (listed s hs) shared other network

/-- A reset succeeds, gives every setting its default for the network that was chosen, and chooses
the main network. All settings but those with a default of their own on each network are then at
their defaults for the network that is chosen now. One that finds the main network is final; after
any other the next one is. -/
theorem Reachable.resetAll_settles (h : c.Reachable Edit.Relocates) :
    ∃ r s, c.resetAll = .ok r ∧ r.IsAtDefaults c.network ∧ r.network = .mainnet ∧
      (∀ t ∈ r.settings, t.key ∉ Catalog.perNetwork →
        t.parameter.defaults.resolve? r.network = some t.parameter.value) ∧
      (c.network = .mainnet → r.IsAtDefaults r.network ∧ r.resetAll = .ok r) ∧
      r.resetAll = .ok s ∧ s.IsAtDefaults s.network ∧ s.resetAll = .ok s := by
  obtain ⟨r, reset⟩ := h.exists_resetAll
  have reached : r.Reachable Edit.Relocates := h.of_run (o := .resetAll) reset
  have settled := isAtDefaults_of_resetAll reset
  have main := network_of_isAtDefaults reached settled
  obtain ⟨s, again⟩ := reached.exists_resetAll
  obtain ⟨final, stays⟩ := resetAll_again reached main again
  exact ⟨r, s, reset, settled, main,
    fun t ht shared => settled.of_not_perNetwork reached ht shared r.network,
    fun found => resetAll_again h found reset, again, final, stays⟩

/-- A node on Prater whose peers were limited: after a reset it has the usual number of peers and is
on the main network. -/
theorem resetAll_settles_prater : ∃ c r s : Configuration, c.Reachable Edit.Relocates ∧
    c.network = .prater ∧ c.text .geth "maxPeers" = "7" ∧ c.resetAll = .ok r ∧
    r.IsAtDefaults .prater ∧ r.network = .mainnet ∧ r.resetAll = .ok s ∧
    s.IsAtDefaults s.network ∧ s.resetAll = .ok s := by
  obtain ⟨c, reached, prater, peers⟩ :=
    exists_reachable Edit.Relocates "/srv/node" false
      (fun _ h => .operation (.assignText .geth "maxPeers" "7")
        (.operation (.switchNetwork .prater) h))
      (P := fun c => c.network = .prater ∧ c.text .geth "maxPeers" = "7") (by decide +kernel)
  obtain ⟨r, s, reset, settled, main, -, -, again, final, stays⟩ := reached.resetAll_settles
  exact ⟨c, r, s, reached, prater, peers, reset, prater ▸ settled, main, again, final, stays⟩

/-- A node on Prater that is reset runs against the main network with Prater's gateway, which is not
its default there; the next reset replaces it. -/
theorem resetAll_leaves_gateway : ∃ c r s : Configuration, c.Reachable Edit.Relocates ∧
    c.network = .prater ∧ c.resetAll = .ok r ∧ r.network = .mainnet ∧
    ¬ r.IsAtDefaults r.network ∧ r.resetAll = .ok s ∧
    r.text .pocket "gatewayID" = "lb/6126b4a783e49000343a3a47" ∧
    s.text .pocket "gatewayID" = "lb/613bb4ae8c124d00353c40a1" := by
  let gateway (c : Configuration) : String := c.text .pocket "gatewayID"
  obtain ⟨c, reached, prater, first, second⟩ :=
    exists_reachable Edit.Relocates "/srv/node" false
      (fun _ h => .operation (.switchNetwork .prater) h)
      (P := fun c => c.network = .prater ∧
        gateway (c.after .resetAll) = "lb/6126b4a783e49000343a3a47" ∧
        gateway ((c.after .resetAll).after .resetAll) = "lb/613bb4ae8c124d00353c40a1")
      (by decide +kernel)
  obtain ⟨r, reset⟩ := reached.exists_resetAll
  have reached' : r.Reachable Edit.Relocates := reached.of_run (o := .resetAll) reset
  obtain ⟨s, again⟩ := reached'.exists_resetAll
  rw [after_of_ok (o := .resetAll) reset] at first second
  rw [after_of_ok (o := .resetAll) again] at second
  refine ⟨c, r, s, reached, prater, reset,
    network_of_isAtDefaults reached' (isAtDefaults_of_resetAll reset), fun settled => ?_, again,
    first, second⟩
  have stays :=
    resetAll_of_isAtDefaults reached' (declarations_eq_of_resetAll reached reset) settled
  rw [← Except.ok.inj (stays.symm.trans again)] at second
  exact absurd (first.symm.trans second) (by decide)

end NodeSettings.Configuration
