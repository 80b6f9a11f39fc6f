import NodeSettings.Proofs.Faults
import NodeSettings.Proofs.Reading

/-!
Choosing another network. `Reachable.switchNetwork_outcome` says, whatever was written into the
tables of defaults and choices, when a switch succeeds, what it makes of every setting, and what it
fails with. The network itself is a setting like the others: once chosen it may follow its default.
-/

namespace NodeSettings

namespace Parameter

variable {p q : Parameter} {before after : Network} {e : SettingError}

/-- The parameter is at its default for one network and has none for another that it may hold. -/
def IsStuck (p : Parameter) (before after : Network) : Prop :=
  p.isAtDefault before = true ∧
    ¬ ∃ v, p.defaults.resolve? after = some v ∧ p.toDeclaration.Allows v

theorem follow_of_isAtDefault (ne : before ≠ after) (h : p.isAtDefault before = true) :
    p.follow before after = p.reset after := by
  rw [follow, if_neg ne, if_pos h]

theorem follow_of_not_isAtDefault (h : ¬ p.isAtDefault before = true) :
    p.follow before after = .ok p := by
  unfold follow
  rw [if_neg h, ite_self]

/-- What a parameter that may be changed holds once it has followed. -/
theorem value_of_follow (ne : before ≠ after) (h : p.follow before after = .ok q) :
    if p.isAtDefault before = true then p.defaults.resolve? after = some q.value
    else q.value = p.value := by
  split
  · next at_default =>
    rw [follow_of_isAtDefault ne at_default] at h
    obtain ⟨v, default, -, rfl⟩ := reset_eq_ok_iff.1 h
    exact default
  · next elsewhere =>
    rw [follow_of_not_isAtDefault elsewhere] at h
    rw [Except.ok.inj h]

theorem exists_follow_iff (ne : before ≠ after) :
    (∃ q, p.follow before after = .ok q) ↔ ¬ p.IsStuck before after := by
  unfold IsStuck
  by_cases h : p.isAtDefault before = true
  · simp [follow_of_isAtDefault ne h, h, reset_eq_ok_iff]
  · simp [follow_of_not_isAtDefault h, h]

theorem reset_of_follow_error (ne : before ≠ after) (h : p.follow before after = .error e) :
    p.IsStuck before after ∧ p.reset after = .error e := by
  have stuck : p.IsStuck before after := by
    by_contra free
    obtain ⟨q, hq⟩ := (exists_follow_iff ne).2 free
    rw [hq] at h
    cases h
  exact ⟨stuck, (follow_of_isAtDefault ne stuck.1).symm.trans h⟩

end Parameter

namespace Configuration

variable {c c' : Configuration} {network : Network} {e : SettingError}

/-! ## Choosing the network -/

/-- The network is among those to choose from. -/
def Offers (c : Configuration) (network : Network) : Prop :=
  ∃ p, c.find? .smartnode "network" = some p ∧ ∃ choice ∈ p.choices, choice.value = .ofNamed network

/-- The configuration with a network chosen, and nothing else changed. -/
def choosing (c : Configuration) (network : Network) : Configuration :=
  c.modify .smartnode "network" fun p => { p with value := .ofNamed network }

/-- The first step of a switch. -/
def choose (network : Network) (group : Group) (p : Parameter) : Except SettingError Parameter :=
  if group = .smartnode ∧ p.id = "network" then p.assign (.ofNamed network) else .ok p

theorem exists_network (known : c.outline = Catalog.outline) :
    ∃ p, c.find? .smartnode "network" = some p ∧ p.id = "network" ∧ p.kind = .choice ∧
      p.range = none := by
  obtain ⟨p, found, bare⟩ :=
    exists_find? known .smartnode (List.mem_cons_self : _ ∈ Catalog.smartnode "")
  exact ⟨p, found, congrArg (·.id) bare, congrArg (·.kind) bare, congrArg (·.range) bare⟩

theorem allows_network_iff {p : Parameter} (kind : p.kind = .choice) (range : p.range = none) :
    p.toDeclaration.Allows (.ofNamed network) ↔
      ∃ choice ∈ p.choices, choice.value = .ofNamed network :=
  ⟨fun allowed => allowed.choice kind, fun offered =>
    ⟨kind.symm, fun _ => offered, nofun, nofun, fun r bounds => by simp [range] at bounds⟩⟩

/-- A choice that is not offered is told by its name. -/
theorem assign_of_not_offered {p : Parameter} (kind : p.kind = .choice)
    (none : ¬ ∃ choice ∈ p.choices, choice.value = .ofNamed network) :
    p.assign (.ofNamed network) = .error (.violation p.id (.notAnOption network.name)) := by
  have any : (p.choices.any fun choice => choice.value.agrees (.ofNamed network)) = false := by
    rw [Bool.eq_false_iff, ne_eq, List.any_eq_true]
    exact fun ⟨choice, offered, agrees⟩ => none ⟨choice, offered, Value.agrees_choice.1 agrees⟩
  have checked : p.check (.ofNamed network) =
      .error (.violation p.id (.notAnOption network.name)) := by
    have same : (Value.ofNamed network).kind = p.kind := kind.symm
    unfold Declaration.check
    rw [if_neg (not_not.2 same)]
    show (do p.checkChoice (.ofNamed network); p.checkRange (.ofNamed network)) = _
    rw [Declaration.checkChoice, any]
    rfl
  rw [Parameter.assign, checked]
  rfl

theorem traverse_choose (known : c.outline = Catalog.outline) (offered : c.Offers network) :
    c.traverse (choose network) = .ok (c.choosing network) := by
  obtain ⟨p, found, id, kind, range⟩ := exists_network known
  obtain ⟨_, same, offered⟩ := offered
  obtain rfl := Option.some.inj (found.symm.trans same)
  have assigned : p.assign (.ofNamed network) = .ok { p with value := .ofNamed network } :=
    Parameter.assign_eq_ok_iff.2 ⟨(allows_network_iff kind range).2 offered, rfl⟩
  obtain ⟨mem, -⟩ := mem_of_find? found
  have step (s : Setting) (hs : s ∈ c.settings) : choose network s.group s.parameter =
      .ok (if s.key = (.smartnode, "network") then { s.parameter with value := .ofNamed network }
        else s.parameter) := by
    unfold choose
    by_cases key : s.key = (.smartnode, "network")
    · have := eq_of_key_eq (keys_nodup known) hs mem (key.trans (Prod.ext rfl id.symm))
      subst this
      rw [if_pos ⟨rfl, id⟩, if_pos key, assigned]
    · rw [if_neg fun h => key (Prod.ext h.1 h.2), if_neg key]
  refine traverse_eq_ok_iff.2 ⟨fun s hs => ⟨_, step s hs⟩, ?_⟩
  have settings : (c.choosing network).settings =
      c.settings.map (Setting.changed (choose network)) := by
    rw [choosing, modify_settings]
    refine List.map_congr_left fun s hs => ?_
    rw [Setting.changed_of_ok (step s hs)]
    split <;> rfl
  rw [← settings]
  rfl

theorem traverse_choose_error (known : c.outline = Catalog.outline)
    (refused : ¬ c.Offers network) :
    c.traverse (choose network) =
      .error (.inGroup .smartnode (.violation "network" (.notAnOption network.name))) := by
  obtain ⟨p, found, id, kind, range⟩ := exists_network known
  obtain ⟨mem, -⟩ := mem_of_find? found
  have none : ¬ ∃ choice ∈ p.choices, choice.value = .ofNamed network :=
    fun offered => refused ⟨p, found, offered⟩
  have rejected : p.assign (.ofNamed network) =
      .error (.violation "network" (.notAnOption network.name)) :=
    id ▸ assign_of_not_offered kind none
  -- Only the setting of the network is touched, so that only it can be at fault.
  cases outcome : c.traverse (choose network) with
  | ok c' =>
    obtain ⟨q, assigned⟩ := (traverse_eq_ok_iff.1 outcome).1 _ mem
    rw [choose, if_pos ⟨rfl, id⟩, rejected] at assigned
    cases assigned
  | error e =>
    rw [traverse_eq_error_iff, List.head?_filterMap] at outcome
    obtain ⟨s, hs, fault⟩ := List.exists_of_findSome?_eq_some outcome
    unfold Setting.fault? choose at fault
    split at fault
    · next key =>
      have := eq_of_key_eq (keys_nodup known) hs mem
        (Prod.ext key.1 (key.2.trans id.symm))
      subst this
      rw [rejected] at fault
      rw [← Option.some.inj fault]
    · cases fault

/-! ## The switch -/

theorem switchNetwork_of_eq (same : c.network = network) : c.switchNetwork network = .ok c := by
  unfold switchNetwork
  exact if_pos same

/-- Once the network is chosen every setting follows. -/
theorem switchNetwork_of_offered (known : c.outline = Catalog.outline) (ne : c.network ≠ network)
    (offered : c.Offers network) :
    c.switchNetwork network =
      (c.choosing network).traverse fun _ p => p.follow c.network network := by
  unfold switchNetwork
  simp only [if_neg ne]
  show (c.traverse (choose network) >>= _) = _
  rw [traverse_choose known offered]
  rfl

theorem switchNetwork_of_not_offered (known : c.outline = Catalog.outline)
    (ne : c.network ≠ network) (refused : ¬ c.Offers network) :
    c.switchNetwork network =
      .error (.inGroup .smartnode (.violation "network" (.notAnOption network.name))) := by
  unfold switchNetwork
  simp only [if_neg ne]
  show (c.traverse (choose network) >>= _) = _
  rw [traverse_choose_error known refused]
  rfl

theorem exists_switchNetwork_iff (known : c.outline = Catalog.outline)
    (ne : c.network ≠ network) :
    (∃ c', c.switchNetwork network = .ok c') ↔ c.Offers network ∧
      ∀ s ∈ (c.choosing network).settings, ¬ s.parameter.IsStuck c.network network := by
  by_cases offered : c.Offers network
  · simp only [switchNetwork_of_offered known ne offered, traverse_eq_ok_iff, offered, true_and,
      Parameter.exists_follow_iff ne, exists_and_left, exists_eq, and_true]
  · simp [switchNetwork_of_not_offered known ne offered, offered]

theorem outline_choosing (c : Configuration) (network : Network) :
    (c.choosing network).outline = c.outline :=
  outline_modify fun _ => rfl

/-- After a switch every setting has followed, from where the choice of the network left it. -/
theorem switched_eq (known : c.outline = Catalog.outline) (ne : c.network ≠ network)
    (switched : c.switchNetwork network = .ok c') :
    (∀ s ∈ (c.choosing network).settings,
      ∃ p, s.parameter.follow c.network network = .ok p ∧ (⟨s.group, p⟩ : Setting) ∈ c'.settings) ∧
    c' = { c with settings := c'.settings } := by
  have offered := ((exists_switchNetwork_iff known ne).1 ⟨c', switched⟩).1
  rw [switchNetwork_of_offered known ne offered] at switched
  obtain ⟨each, rfl⟩ := traverse_eq_ok_iff.1 switched
  refine ⟨fun s hs => ?_, rfl⟩
  obtain ⟨p, hp⟩ := each s hs
  refine ⟨p, hp, ?_⟩
  rw [← Setting.changed_of_ok (f := fun _ p => p.follow c.network network) hp]
  exact List.mem_map_of_mem hs

/-- What a setting holds after a switch: its default for the new network if it was at that for the
old one, and else what it held once the network was chosen. -/
theorem value_of_switchNetwork (known : c.outline = Catalog.outline) (ne : c.network ≠ network)
    (switched : c.switchNetwork network = .ok c') {s : Setting}
    (hs : s ∈ (c.choosing network).settings) :
    ∃ p, c'.find? s.group s.parameter.id = some p ∧
      if s.parameter.isAtDefault c.network = true
      then s.parameter.defaults.resolve? network = some p.value
      else p.value = s.parameter.value := by
  obtain ⟨p, followed, mem⟩ := (switched_eq known ne switched).1 s hs
  have unique : c'.keys.Nodup :=
    keys_nodup ((outline_run (o := .switchNetwork network) (keys_nodup known) switched).trans known)
  have id : p.id = s.parameter.id := by
    rcases Parameter.eq_or_takes_of_follow followed with rfl | taken
    · rfl
    · rw [taken.toDeclaration_eq]
  exact ⟨p, (find?_eq_some_iff unique).2 ⟨mem, id⟩, Parameter.value_of_follow ne followed⟩

/-- With the catalog's default for it, the network that was chosen stays. -/
theorem network_of_switchNetwork (known : c.outline = Catalog.outline) (ne : c.network ≠ network)
    (switched : c.switchNetwork network = .ok c')
    (default : ∀ p, c.find? .smartnode "network" = some p →
      p.defaults = .always (.ofNamed Network.primary)) :
    c'.network = network := by
  obtain ⟨p, found, id, -, -⟩ := exists_network known
  obtain ⟨mem, -⟩ := mem_of_find? found
  have chosen : (⟨.smartnode, { p with value := .ofNamed network }⟩ : Setting) ∈
      (c.choosing network).settings := by
    rw [choosing, modify_settings]
    have key : (⟨.smartnode, p⟩ : Setting).key = (.smartnode, "network") := Prod.ext rfl id
    exact List.mem_map.2 ⟨_, mem, if_pos key⟩
  obtain ⟨q, found', value⟩ := value_of_switchNetwork known ne switched chosen
  have is : q.value = .ofNamed network := by
    have resolve (n : Network) : p.defaults.resolve? n = some (.ofNamed Network.primary) := by
      rw [default p found]
      cases n <;> rfl
    split at value
    · next at_default =>
      simp only [resolve, Parameter.isAtDefault, Option.any_some] at at_default value
      rw [← Option.some.inj value]
      exact Value.agrees_choice.1 at_default
    · exact value
  rw [Configuration.network, named?, value?, ← id, found', Option.map_some, Option.bind_some, is]
  show ((Named.find? network.name).getD _ : Network) = network
  rw [Network.find?_name, Option.getD_some]

/-- A switch to a network that is offered fails in the first group that has a stuck setting. -/
theorem stuck_of_switchNetwork (known : c.outline = Catalog.outline) (ne : c.network ≠ network)
    (offered : c.Offers network) (failed : c.switchNetwork network = .error e) :
    ∃ before group after, Group.all = before ++ group :: after ∧
      (∀ g ∈ before, ∀ p ∈ (c.choosing network).parameters g, ¬ p.IsStuck c.network network) ∧
      ∃ p ∈ (c.choosing network).parameters group, p.IsStuck c.network network ∧
        ∃ cause, p.reset network = .error cause ∧ cause.IsBare ∧ e = .inGroup group cause := by
  rw [switchNetwork_of_offered known ne offered, traverse_eq_error_iff,
    filterMap_settings ((outline_choosing c network).trans known), List.head?_flatMap,
    List.findSome?_eq_some_iff] at failed
  obtain ⟨before, group, after, all, here, none⟩ := failed
  refine ⟨before, group, after, all, fun g hg p hp => ?_, ?_⟩
  · have := List.filterMap_eq_nil_iff.1 (List.head?_eq_none_iff.1 (none g hg)) p hp
    rw [← Parameter.exists_follow_iff ne]
    cases followed : p.follow c.network network with
    | ok q => exact ⟨q, rfl⟩
    | error cause => simp [Setting.fault?, followed] at this
  · obtain ⟨p, hp, fault⟩ := List.mem_filterMap.1 (List.mem_of_mem_head? here)
    cases followed : p.follow c.network network with
    | ok q => simp [Setting.fault?, followed] at fault
    | error cause =>
      obtain ⟨stuck, reset⟩ := Parameter.reset_of_follow_error ne followed
      refine ⟨p, hp, stuck, cause, reset, ?_, ?_⟩
      · exact SettingError.isBare_of_subject (Parameter.subject_of_reset reset)
      · simpa [Setting.fault?, followed, eq_comm] using fault

/-- The network's default in the catalog. -/
theorem defaults_of_mem_smartnode {directory : String} {d : Declaration}
    (declared : d ∈ Catalog.smartnode directory) (id : d.id = "network") :
    d.defaults = .always (.ofNamed Network.primary) := by
  have every : ∀ d ∈ Catalog.smartnode directory, d.id = "network" →
      d.defaults = .always (.ofNamed Network.primary) := by
    simp [Catalog.smartnode]
  exact every d declared id

/-- A switch to the network that is chosen already changes nothing. To another one it succeeds if
that is offered and no setting is stuck; then every setting that was at its default for the old
network has that for the new one, and all else is as the choice of the network left it. A switch
that fails changes nothing, and names the smartnode group if the network is not offered, and else
the first group with a stuck setting. -/
theorem Reachable.switchNetwork_outcome {permitted : Edit → Prop} (h : c.Reachable permitted)
    (network : Network) :
    (c.network = network → c.switchNetwork network = .ok c) ∧
    (c.network ≠ network →
      ((∃ c', c.switchNetwork network = .ok c') ↔ c.Offers network ∧
        ∀ s ∈ (c.choosing network).settings, ¬ s.parameter.IsStuck c.network network) ∧
      (∀ c', c.switchNetwork network = .ok c' →
        (∀ s ∈ (c.choosing network).settings, ∃ p, c'.find? s.group s.parameter.id = some p ∧
          if s.parameter.isAtDefault c.network = true
          then s.parameter.defaults.resolve? network = some p.value
          else p.value = s.parameter.value) ∧
        c'.declarations = c.declarations ∧ c'.directory = c.directory ∧
        c'.isNative = c.isNative ∧ c'.version = c.version ∧ c'.profiles = c.profiles ∧
        ((∀ p, c.find? .smartnode "network" = some p →
            p.toDeclaration ∈ Catalog.smartnode c.directory) → c'.network = network)) ∧
      ∀ e, c.switchNetwork network = .error e →
        c.after (.switchNetwork network) = c ∧
        (¬ c.Offers network →
          e = .inGroup .smartnode (.violation "network" (.notAnOption network.name))) ∧
        (c.Offers network →
          ∃ before group after, Group.all = before ++ group :: after ∧
            (∀ g ∈ before, ∀ p ∈ (c.choosing network).parameters g,
              ¬ p.IsStuck c.network network) ∧
            ∃ p ∈ (c.choosing network).parameters group, p.IsStuck c.network network ∧
              ∃ cause, p.reset network = .error cause ∧ cause.IsBare ∧
                e = .inGroup group cause)) := by
  have known := h.outline_eq
  refine ⟨switchNetwork_of_eq, fun ne => ⟨exists_switchNetwork_iff known ne, ?_, ?_⟩⟩
  · intro c' switched
    have same := (switched_eq known ne switched).2
    refine ⟨fun s => value_of_switchNetwork known ne switched,
      declarations_of_switchNetwork switched, by rw [same], by rw [same], by rw [same],
      by rw [same], fun catalog => network_of_switchNetwork known ne switched fun p found => ?_⟩
    exact defaults_of_mem_smartnode (catalog p found) (mem_of_find? found).2
  · intro e failed
    refine ⟨after_of_error failed, fun refused => ?_, fun offered => ?_⟩
    · rw [switchNetwork_of_not_offered known ne refused] at failed
      exact (Except.error.inj failed).symm
    · exact stuck_of_switchNetwork known ne offered failed

/-- Where the defaults of the network are swapped, a node that is sent to Prater stays on the main
network: it follows the default for the network that it was just given. -/
theorem switchNetwork_swapped_defaults : ∃ c c' : Configuration, c.Reachable (fun _ => True) ∧
    c.network = .mainnet ∧ c.switchNetwork .prater = .ok c' ∧
    c'.value? .smartnode "network" = some (.ofNamed Network.mainnet) := by
  let toPrater : Edit := .default .smartnode "network" .mainnet (some (.ofNamed Network.prater))
  let toMain : Edit := .default .smartnode "network" .prater (some (.ofNamed Network.mainnet))
  obtain ⟨c, reached, main, isOk, found⟩ :=
    exists_reachable (fun _ => True) "/srv/node" false
      (fun _ h => .edit (e := toMain) trivial (.edit (e := toPrater) trivial h))
      (P := fun c => c.network = .mainnet ∧ (c.switchNetwork .prater).isOk = true ∧
        ((c.choosing .prater).find? .smartnode "network").map (fun p =>
          (p.isAtDefault .mainnet, p.defaults.resolve? .prater)) =
            some (true, some (.ofNamed Network.mainnet))) (by decide +kernel)
  obtain ⟨p, found, moves⟩ := Option.map_eq_some_iff.1 found
  obtain ⟨at_default, default⟩ := Prod.mk.inj moves
  have ne : c.network ≠ .prater := main ▸ nofun
  cases switched : c.switchNetwork .prater with
  | error e => simp [switched, Except.isOk, Except.toBool] at isOk
  | ok c' =>
    obtain ⟨-, made, -⟩ := (reached.switchNetwork_outcome .prater).2 ne
    obtain ⟨values, -⟩ := made c' switched
    obtain ⟨mem, id⟩ := mem_of_find? found
    obtain ⟨q, found', value⟩ := values _ mem
    rw [main, if_pos at_default, default] at value
    refine ⟨c, c', reached, main, switched, ?_⟩
    rw [value?, ← id, found', Option.map_some, ← Option.some.inj value]

end Configuration
end NodeSettings
