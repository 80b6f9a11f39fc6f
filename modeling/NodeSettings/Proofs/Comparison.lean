import NodeSettings.Proofs.Faults
import NodeSettings.Proofs.RoundTrip

/-!
What differs between two configurations: `Reachable.changesSince_exact`. Two configurations have the
same settings, so that a setting of the one is compared with its counterpart; groups have different
titles, so that no group's changes get lost among those of another one.
-/

namespace NodeSettings

namespace Group

theorem title_injective {g h : Group} (same : g.title = h.title) : g = h := by
  have titles : (all.map title).Nodup := by decide +kernel
  exact List.inj_on_of_nodup_map titles (mem_all g) (mem_all h) same

end Group

namespace Configuration

variable {c old : Configuration} {group : Group} {p : Parameter}

/-- Two configurations store different texts for a key. -/
def StoredApart (c old : Configuration) (group : Group) (id : String) : Prop :=
  c.document.text? group.key id ≠ old.document.text? group.key id

instance (c old : Configuration) (group : Group) (id : String) :
    Decidable (c.StoredApart old group id) :=
  inferInstanceAs (Decidable (_ ≠ _))

/-- The beacon node does the validator's work. -/
def MergesValidator (c : Configuration) : Prop :=
  c.isNative = false ∧ c.consensusMode = .locallyManaged ∧ c.consensusClient = .nimbus

instance (c : Configuration) : Decidable c.MergesValidator :=
  inferInstanceAs (Decidable (_ ∧ _ ∧ _))

/-- The container to restart where another one is declared. -/
def standIn (c : Configuration) (declared : Container) : Container :=
  if c.MergesValidator ∧ declared = .validator then .eth2 else declared

/-- What is said of a changed setting. -/
structure Reports (c old : Configuration) (group : Group) (p : Parameter) (change : Change) :
    Prop where
  name : change.name = p.name
  before : old.document.text? group.key p.id = some change.before
  after : c.document.text? group.key p.id = some change.after
  restarts : ∀ container, container ∈ change.restarts ↔
    ∃ declared ∈ p.affects, c.standIn declared = container

/-! ## Restarts -/

theorem redirects_of_merges (merges : c.MergesValidator) :
    c.redirects = [⟨.validator, .eth2⟩] := by
  obtain ⟨native, mode, client⟩ := merges
  simp [redirects, native, mode, client, redirectsOf, ConsensusClient.group]

theorem redirects_of_not_merges (apart : ¬ c.MergesValidator) : c.redirects = [] := by
  unfold redirects
  cases native : c.isNative with
  | true => rfl
  | false =>
    cases mode : c.consensusMode with
    | locallyManaged =>
      cases client : c.consensusClient with
      | nimbus => exact absurd ⟨native, mode, client⟩ apart
      | lighthouse | prysm | teku => rfl
    | externallyManaged => rfl

theorem standIn_eq (c : Configuration) (declared : Container) :
    ((c.redirects.find? (·.source = declared)).map (·.target)).getD declared =
      c.standIn declared := by
  unfold standIn
  by_cases merges : c.MergesValidator
  · by_cases validator : declared = .validator
    · simp [redirects_of_merges merges, merges, validator]
    · simp [redirects_of_merges merges, validator, Ne.symm validator]
  · simp [redirects_of_not_merges merges, merges]

theorem mem_redirect {container : Container} {containers : List Container} :
    container ∈ redirect c.redirects containers ↔
      ∃ declared ∈ containers, c.standIn declared = container := by
  simp only [redirect, Container.mem_inOrder, List.mem_map, standIn_eq]

/-- Where the validator is merged it is never restarted on its own. -/
theorem standIn_ne_validator (merges : c.MergesValidator) (declared : Container) :
    c.standIn declared ≠ .validator := by
  unfold standIn
  by_cases validator : declared = .validator <;> simp [merges, validator]

/-! ## Changes of a group -/

theorem mem_keys_iff (known : c.outline = Catalog.outline) {id : String} :
    (group, id) ∈ Catalog.keys ↔ ∃ p ∈ c.parameters group, p.id = id := by
  rw [← keys_eq known, keys, List.mem_map]
  constructor
  · rintro ⟨⟨_, p⟩, hs, same⟩
    obtain ⟨rfl, rfl⟩ := Prod.mk.inj same
    exact ⟨p, mem_parameters.2 hs, rfl⟩
  · rintro ⟨p, hp, rfl⟩
    exact ⟨_, mem_parameters.1 hp, rfl⟩

theorem stored_eq_text (known : c.outline = Catalog.outline) {id : String}
    (key : (group, id) ∈ Catalog.keys) :
    c.document.text? group.key id = some (c.text group id) := by
  obtain ⟨p, hp, rfl⟩ := (mem_keys_iff known).1 key
  have hs := mem_parameters.1 hp
  rw [text?_document known hs, text_of_mem (keys_nodup known) hs]

/-- The changes of a group are those of its settings that are stored apart, in order. -/
theorem changesIn_eq (known : c.outline = Catalog.outline) (known' : old.outline = Catalog.outline)
    (group : Group) :
    c.changesIn old group =
      ((c.parameters group).filter fun p => c.StoredApart old group p.id).map fun p =>
        ⟨p.name, old.text group p.id, p.text, redirect c.redirects p.affects⟩ := by
  rw [← List.filterMap_eq_map, List.filterMap_filter]
  refine List.filterMap_congr fun p hp => ?_
  have key := (mem_keys_iff known).2 ⟨p, hp, rfl⟩
  have own := text_of_mem (keys_nodup known) (mem_parameters.1 hp)
  have apart : c.StoredApart old group p.id ↔ old.text group p.id ≠ p.text := by
    rw [StoredApart, stored_eq_text known key, stored_eq_text known' key, own, ne_comm]
    exact (Option.some_injective _).ne_iff
  by_cases same : old.text group p.id = p.text <;> simp [apart, same]

theorem reports_changesIn (known : c.outline = Catalog.outline)
    (known' : old.outline = Catalog.outline) (group : Group) :
    List.Forall₂ (c.Reports old group)
      ((c.parameters group).filter fun p => c.StoredApart old group p.id)
      (c.changesIn old group) := by
  rw [changesIn_eq known known', List.forall₂_map_right_iff, List.forall₂_same]
  intro p hp
  have hp := (List.mem_filter.1 hp).1
  exact ⟨rfl, stored_eq_text known' ((mem_keys_iff known).2 ⟨p, hp, rfl⟩),
    text?_document known (mem_parameters.1 hp), fun container => mem_redirect⟩

theorem changesIn_eq_nil_iff (known : c.outline = Catalog.outline)
    (known' : old.outline = Catalog.outline) :
    c.changesIn old group = [] ↔ ∀ p ∈ c.parameters group, ¬ c.StoredApart old group p.id := by
  rw [changesIn_eq known known', List.map_eq_nil_iff, List.filter_eq_nil_iff]
  simp

/-! ## Changes of all groups -/

theorem mem_groups {list : List Change} :
    (group, list) ∈ (c.changesSince old).groups ↔ list = c.changesIn old group ∧ list ≠ [] := by
  simp only [changesSince, List.mem_filter, List.mem_map, Prod.mk.injEq, Bool.not_eq_true',
    List.isEmpty_eq_false_iff]
  constructor
  · rintro ⟨⟨_, -, rfl, rfl⟩, some⟩
    exact ⟨rfl, some⟩
  · rintro ⟨rfl, some⟩
    exact ⟨⟨group, Group.mem_all group, rfl, rfl⟩, some⟩

theorem groups_eq_nil_iff :
    (c.changesSince old).groups = [] ↔ ∀ group, c.changesIn old group = [] := by
  constructor
  · intro none group
    by_contra some
    have := mem_groups.2 ⟨rfl, some⟩
    rw [none] at this
    cases this
  · intro none
    refine List.eq_nil_iff_forall_not_mem.2 fun entry mem => ?_
    obtain ⟨same, some⟩ := mem_groups.1 mem
    exact some (same.trans (none entry.1))

theorem titles_nodup (c old : Configuration) :
    (((c.changesSince old).groups.map fun entry => (entry.1.title, entry.2)).map (·.1)).Nodup := by
  have titles : (Group.all.map Group.title).Nodup := by decide +kernel
  have groups := (List.filter_sublist (l := Group.all.map fun g => (g, c.changesIn old g))
    (p := fun entry => !entry.2.isEmpty)).map fun entry => entry.1.title
  rw [List.map_map] at groups ⊢
  exact titles.sublist groups

/-- Under a title stand the changes of the one group that has it, if there are any. -/
theorem get?_byTitle {title : String} {list : List Change} :
    (c.changesSince old).byTitle.get? title = some list ↔
      ∃ group : Group, group.title = title ∧ list = c.changesIn old group ∧ list ≠ [] := by
  rw [Changes.byTitle, Table.get?_ofList_iff (titles_nodup c old), List.mem_map]
  constructor
  · rintro ⟨⟨group, _⟩, mem, same⟩
    obtain ⟨rfl, rfl⟩ := Prod.mk.inj same
    exact ⟨group, rfl, mem_groups.1 mem⟩
  · rintro ⟨group, rfl, some⟩
    exact ⟨(group, list), mem_groups.2 some, rfl⟩

theorem getD_byTitle (c old : Configuration) (group : Group) :
    ((c.changesSince old).byTitle.get? group.title).getD [] = c.changesIn old group := by
  cases found : (c.changesSince old).byTitle.get? group.title with
  | none =>
    by_contra some
    have := get?_byTitle.2 ⟨group, rfl, rfl, Ne.symm some⟩
    rw [found] at this
    cases this
  | some list =>
    obtain ⟨g, same, rfl, -⟩ := get?_byTitle.1 found
    rw [Group.title_injective same, Option.getD_some]

theorem mem_restarts {container : Container} :
    container ∈ (c.changesSince old).restarts ↔
      ∃ group, ∃ change ∈ c.changesIn old group, container ∈ change.restarts := by
  show container ∈ Container.inOrder ((c.changesSince old).groups.flatMap _) ↔ _
  simp only [Container.mem_inOrder, List.mem_flatMap]
  constructor
  · rintro ⟨⟨group, list⟩, mem, change, hchange, restarts⟩
    obtain ⟨rfl, -⟩ := mem_groups.1 mem
    exact ⟨group, change, hchange, restarts⟩
  · rintro ⟨group, change, hchange, restarts⟩
    exact ⟨(group, c.changesIn old group),
      mem_groups.2 ⟨rfl, List.ne_nil_of_mem hchange⟩, change, hchange, restarts⟩

theorem count_eq (c old : Configuration) :
    (c.changesSince old).count = (Group.all.flatMap (c.changesIn old)).length := by
  have all (groups : List Group) :
      ((groups.map fun g => (g, c.changesIn old g)).filter fun entry =>
        !entry.2.isEmpty).flatMap (·.2) = groups.flatMap (c.changesIn old) := by
    induction groups with
    | nil => rfl
    | cons g groups ih =>
      -- A group that is left out would count nothing.
      rw [List.map_cons, List.flatMap_cons, ← ih]
      cases changes : c.changesIn old g with
      | nil => rfl
      | cons change rest => rfl
  exact congrArg List.length (all Group.all)

theorem keys_eq_parameters (known : c.outline = Catalog.outline) :
    c.keys = Group.all.flatMap fun group => (c.parameters group).map fun p => (group, p.id) := by
  rw [keys, settings_eq known, List.map_flatMap]
  exact List.flatMap_congr fun group _ => List.map_map

/-- As many changes are told as there are settings that are stored apart. -/
theorem count_eq_keys (known : c.outline = Catalog.outline)
    (known' : old.outline = Catalog.outline) :
    (c.changesSince old).count =
      (Catalog.keys.filter fun key => c.StoredApart old key.1 key.2).length := by
  have group (g : Group) : (c.changesIn old g).length =
      (((c.parameters g).map fun p => (g, p.id)).filter fun key =>
        c.StoredApart old key.1 key.2).length := by
    simp only [changesIn_eq known known', List.length_map, List.filter_map, Function.comp_def]
  rw [count_eq, ← keys_eq known, keys_eq_parameters known, List.filter_flatMap,
    List.length_flatMap, List.length_flatMap]
  exact congrArg List.sum (List.map_congr_left fun g _ => group g)

/-! ## The network -/

theorem value?_choice {permitted : Edit → Prop} (h : c.Reachable permitted) (group : Group)
    {d : Declaration} (declared : d ∈ Catalog.declarations "" group) (kind : d.kind = .choice) :
    ∃ s, c.value? group d.id = some (.choice s) ∧ c.document.text? group.key d.id = some s := by
  obtain ⟨p, found, bare⟩ := exists_find? h.outline_eq group declared
  obtain ⟨mem, id⟩ := mem_of_find? found
  -- Not every value is told by its text, but one of this kind is.
  have choice : p.value.kind = .choice :=
    (h.kind_eq mem).trans ((congrArg (·.kind) bare : p.kind = d.kind).trans kind)
  have stored := text?_document h.outline_eq mem
  cases value : p.value with
  | choice s =>
    refine ⟨s, by rw [value?, found, Option.map_some, value], ?_⟩
    rw [← id, stored, Parameter.text, value]
    rfl
  | bool | int | uint | uint16 | float | string =>
    rw [value] at choice
    cases choice

theorem networkChanged_iff {permitted permitted' : Edit → Prop} (h : c.Reachable permitted)
    (h' : old.Reachable permitted') :
    (c.changesSince old).networkChanged = true ↔ c.StoredApart old .smartnode "network" := by
  have network {d : Configuration} {permitted : Edit → Prop} (h : d.Reachable permitted) :
      ∃ s, d.value? .smartnode "network" = some (.choice s) ∧
        d.document.text? Group.smartnode.key "network" = some s :=
    value?_choice h .smartnode (List.mem_cons_self : _ ∈ Catalog.smartnode "") rfl
  obtain ⟨s, value, stored⟩ := network h
  obtain ⟨s', value', stored'⟩ := network h'
  show (c.value? .smartnode "network" != old.value? .smartnode "network") = true ↔ _
  rw [StoredApart, value, value', stored, stored', bne_iff_ne]
  simp

/-! ## The comparison -/

theorem isEmpty_iff {permitted permitted' : Edit → Prop} (h : c.Reachable permitted)
    (h' : old.Reachable permitted') :
    (c.changesSince old).isEmpty = true ↔
      ∀ key ∈ Catalog.keys, ¬ c.StoredApart old key.1 key.2 := by
  have known := h.outline_eq
  have groups : (c.changesSince old).groups = [] ↔
      ∀ key ∈ Catalog.keys, ¬ c.StoredApart old key.1 key.2 := by
    rw [groups_eq_nil_iff]
    constructor
    · rintro none ⟨group, id⟩ key
      obtain ⟨p, hp, rfl⟩ := (mem_keys_iff known).1 key
      exact (changesIn_eq_nil_iff known h'.outline_eq).1 (none group) p hp
    · intro none group
      exact (changesIn_eq_nil_iff known h'.outline_eq).2 fun p hp =>
        none (group, p.id) ((mem_keys_iff known).2 ⟨p, hp, rfl⟩)
  have network : (Group.smartnode, "network") ∈ Catalog.keys := by decide +kernel
  rw [Changes.isEmpty, Bool.and_eq_true, List.isEmpty_iff, groups, Bool.not_eq_true',
    ← Bool.not_eq_true, networkChanged_iff h h']
  exact ⟨fun none => none.1, fun none => ⟨none, none (.smartnode, "network") network⟩⟩

/-- The comparison is exact. Under each group's title stand its settings that are stored with
different texts, in order, each with its name and both texts, and nothing else stands anywhere; no
group's list is lost or joined with another one's. The containers to restart are those that such
settings declare, but the beacon node's in place of the validator's where that is merged. The
network has changed if its texts differ, as many changes are told as there are such settings, and
nothing has changed if there are none. -/
theorem Reachable.changesSince_exact {permitted permitted' : Edit → Prop}
    (h : c.Reachable permitted) (h' : old.Reachable permitted') :
    (∀ group, List.Forall₂ (c.Reports old group)
      ((c.parameters group).filter fun p => c.StoredApart old group p.id)
      (((c.changesSince old).byTitle.get? group.title).getD [])) ∧
    (∀ title list, (c.changesSince old).byTitle.get? title = some list →
      list ≠ [] ∧ ∃ group : Group, group.title = title) ∧
    (c.changesSince old).byTitle.entries.Perm
      ((c.changesSince old).groups.map fun entry => (entry.1.title, entry.2)) ∧
    (∀ container, container ∈ (c.changesSince old).restarts ↔
      ∃ group, ∃ p ∈ c.parameters group, c.StoredApart old group p.id ∧
        ∃ declared ∈ p.affects, c.standIn declared = container) ∧
    (c.MergesValidator → .validator ∉ (c.changesSince old).restarts) ∧
    ((c.changesSince old).networkChanged = true ↔ c.StoredApart old .smartnode "network") ∧
    (c.changesSince old).count =
      (Catalog.keys.filter fun key => c.StoredApart old key.1 key.2).length ∧
    ((c.changesSince old).isEmpty = true ↔
      ∀ key ∈ Catalog.keys, ¬ c.StoredApart old key.1 key.2) := by
  have known := h.outline_eq
  have known' := h'.outline_eq
  have restarts (container : Container) : container ∈ (c.changesSince old).restarts ↔
      ∃ group, ∃ p ∈ c.parameters group, c.StoredApart old group p.id ∧
        ∃ declared ∈ p.affects, c.standIn declared = container := by
    rw [mem_restarts]
    refine exists_congr fun group => ?_
    simp [changesIn_eq known known', mem_redirect, and_assoc]
  refine ⟨fun group => ?_, fun title list found => ?_, Table.perm_ofList (titles_nodup c old),
    restarts, fun merges there => ?_, networkChanged_iff h h', count_eq_keys known known',
    isEmpty_iff h h'⟩
  · rw [getD_byTitle]
    exact reports_changesIn known known' group
  · obtain ⟨group, same, -, some⟩ := get?_byTitle.1 found
    exact ⟨some, group, same⟩
  · obtain ⟨_, _, -, -, declared, -, same⟩ := (restarts _).1 there
    exact standIn_ne_validator merges declared same

/-- Another graffiti is the validator's business, but with Nimbus the beacon node restarts. -/
theorem changesSince_graffiti : ∃ c old : Configuration, c.Reachable Edit.Relocates ∧
    old.Reachable Edit.Relocates ∧ (c.changesSince old).isEmpty = false ∧
    .eth2 ∈ (c.changesSince old).restarts ∧ .validator ∉ (c.changesSince old).restarts ∧
    (c.changesSince old).networkChanged = false := by
  obtain ⟨old, reached', graffiti', network'⟩ :=
    exists_reachable Edit.Relocates "/srv/node" false (fun _ h => h)
      (P := fun old => old.document.text? "consensusCommon" "graffiti" = some "" ∧
        old.document.text? "smartnode" "network" = some "mainnet") (by decide +kernel)
  obtain ⟨c, reached, merges, graffiti, network, found⟩ :=
    exists_reachable Edit.Relocates "/srv/node" false
      (fun _ h => h.operation (.assignText .consensusCommon "graffiti" "rp"))
      (P := fun c => c.MergesValidator ∧
        c.document.text? "consensusCommon" "graffiti" = some "rp" ∧
        c.document.text? "smartnode" "network" = some "mainnet" ∧
        (c.find? .consensusCommon "graffiti").map (·.affects) = some [.validator])
      (by decide +kernel)
  obtain ⟨-, -, -, restarts, merged, networkChanged, -, isEmpty⟩ :=
    reached.changesSince_exact reached'
  obtain ⟨p, found, affects⟩ := Option.map_eq_some_iff.1 found
  obtain ⟨hs, id⟩ := mem_of_find? found
  have apart : c.StoredApart old .consensusCommon "graffiti" := by
    show c.document.text? "consensusCommon" "graffiti" ≠ old.document.text? "consensusCommon" _
    rw [graffiti, graffiti']
    decide
  have alike : ¬ c.StoredApart old .smartnode "network" :=
    not_not.2 (network.trans network'.symm)
  refine ⟨c, old, reached, reached', ?_, ?_, merged merges, ?_⟩
  · rw [← Bool.not_eq_true, isEmpty]
    exact fun none => none (.consensusCommon, "graffiti") (by decide +kernel) apart
  · have declared : Container.validator ∈ p.affects := affects ▸ List.mem_singleton_self _
    exact (restarts .eth2).2 ⟨.consensusCommon, p, mem_parameters.2 hs, id ▸ apart, .validator,
      declared, if_pos ⟨merges, rfl⟩⟩
  · rw [← Bool.not_eq_true, networkChanged]
    exact alike

end Configuration
end NodeSettings
