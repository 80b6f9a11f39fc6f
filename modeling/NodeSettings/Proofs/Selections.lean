import NodeSettings.Proofs.Relevance

/-!
One selection, told in several ways. As long as the choices of the catalog stand, each client, mode
and network that a configuration selects is the one that its setting names, and never one that
stands in for a name that cannot be read (`Reads`). The groups in use contain exactly the selected
group of each kind, and what is asked of a selection is what the environment shows of it:
`Reachable.selections_agree`.
-/

namespace NodeSettings

/-- A declaration without its defaults. -/
def Declaration.undefaulted (d : Declaration) : Declaration := { d with defaults := {} }

namespace Catalog

/-- Whether a setting is a choice, and only some members of a closed set are to choose from. -/
def offersOnly {α : Type} [Named α] (group : Group) (id : String) (members : List α) : Bool :=
  (declarations "" group).any fun d => d.id == id && d.kind == .choice &&
    d.choices.all fun choice => members.any fun a => choice.value == .ofNamed a

theorem undefaulted_rebased (directory : String) (d : Group × Declaration) :
    ((rebased directory d).1, (rebased directory d).2.undefaulted) = (d.1, d.2.undefaulted) := by
  unfold rebased
  split <;> rfl

end Catalog

namespace Configuration

variable {c : Configuration} {group : Group} {id : String}

/-! ## Settings that name a member -/

section Names

variable {α : Type} [Named α] {members : List α} {a : α}

/-- A setting holds the name of a member, and is read as that member. -/
def Names (c : Configuration) (group : Group) (id : String) (a : α) : Prop :=
  c.text group id = Named.name a ∧ c.named? α group id = some a

/-- What is declared is found with its choices, whatever became of its defaults. -/
theorem Reachable.exists_undefaulted (h : c.Reachable Edit.LeavesChoices) {d : Declaration}
    (declared : d ∈ Catalog.declarations "" group) :
    ∃ p, c.find? group d.id = some p ∧ p.undefaulted = d.undefaulted := by
  have written (c : Configuration) (e : Edit) (allowed : e.LeavesChoices) :
      (c.edit e).declarations.map (fun d => (d.1, d.2.undefaulted)) =
        c.declarations.map fun d => (d.1, d.2.undefaulted) := by
    cases e with
    | directory | isNative | profile => rfl
    | default => exact map_declarations_modify fun _ _ => rfl
    | addChoice | choices => exact absurd allowed not_false
  have listed : (group, d.undefaulted) ∈ c.declarations.map fun d => (d.1, d.2.undefaulted) := by
    rw [h.map_declarations_eq Catalog.undefaulted_rebased written]
    exact List.mem_map.2 ⟨(group, d), Catalog.mem_all.2 declared, rfl⟩
  obtain ⟨_, mem, same⟩ := List.mem_map.1 listed
  obtain ⟨⟨_, p⟩, hs, rfl⟩ := List.mem_map.1 mem
  obtain ⟨rfl, undefaulted⟩ := Prod.mk.inj same
  have named : p.id = d.id := congrArg (·.id) undefaulted
  exact ⟨p, (find?_eq_some_iff h.keys_nodup).2 ⟨hs, named⟩, undefaulted⟩

/-- A choice among members names one of them. -/
theorem Reachable.exists_names (h : c.Reachable Edit.LeavesChoices)
    (found : ∀ a ∈ members, Named.find? (Named.name a) = some a)
    (offered : Catalog.offersOnly group id members = true) :
    ∃ a ∈ members, c.Names group id a := by
  obtain ⟨d, declared, offers⟩ := List.any_eq_true.1 offered
  simp only [Bool.and_eq_true, beq_iff_eq, List.all_eq_true, List.any_eq_true] at offers
  obtain ⟨⟨rfl, kind⟩, choices⟩ := offers
  obtain ⟨p, isFound, same⟩ := h.exists_undefaulted declared
  have valid := (h.mono fun _ => Edit.KeepsChoices.of_leavesChoices).isValid _
    (mem_of_find? isFound).1
  -- A valid choice is one of those that the catalog lists.
  obtain ⟨choice, listed, value⟩ := valid.choice ((congrArg (·.kind) same).trans kind)
  have listed : choice ∈ d.choices := (congrArg (·.choices) same : p.choices = d.choices) ▸ listed
  obtain ⟨a, member, is⟩ := choices choice listed
  have holds : p.value = .ofNamed a := value.symm.trans is
  refine ⟨a, member, ?_, ?_⟩
  · rw [Configuration.text, isFound, Option.map_some, Option.getD_some, Parameter.text, holds]
    rfl
  · rw [named?, value?, isFound, Option.map_some, Option.bind_some, holds]
    exact found a member

/-- Where a member is named, nothing stands in for it. -/
theorem Names.getD (h : c.Names group id a) (standIn : α) :
    (c.named? α group id).getD standIn = a := by
  rw [h.2, Option.getD_some]

end Names

/-- Everything that is selected by name is what its setting names. -/
structure Reads (c : Configuration) : Prop where
  network : c.Names .smartnode "network" c.network
  executionMode : c.Names .root "executionClientMode" c.executionMode
  executionClient : c.Names .root "executionClient" c.executionClient
  fallbackMode : c.Names .root "fallbackExecutionClientMode" c.fallbackMode
  fallbackClient : c.Names .root "fallbackExecutionClient" c.fallbackClient
  consensusMode : c.Names .root "consensusClientMode" c.consensusMode
  consensusClient : c.Names .root "consensusClient" c.consensusClient
  externalConsensusClient : c.Names .root "externalConsensusClient" c.externalConsensusClient

section Reads

variable (h : c.Reachable Edit.LeavesChoices)

include h

/-- What is read of a choice among members, with a stand-in for a name that is none of theirs. -/
theorem Reachable.reads_getD {α : Type} [Named α] (members : List α) (standIn : α)
    (found : ∀ a ∈ members, Named.find? (Named.name a) = some a)
    (offered : Catalog.offersOnly group id members = true) :
    (c.named? α group id).getD standIn ∈ members ∧
      c.Names group id ((c.named? α group id).getD standIn) := by
  obtain ⟨a, member, names⟩ := h.exists_names found offered
  rw [names.getD standIn]
  exact ⟨member, names⟩

theorem Reachable.fallbackClient_mem :
    c.fallbackClient ∈ [ExecutionClient.infura, .pocket] ∧
      c.Names .root "fallbackExecutionClient" c.fallbackClient :=
  h.reads_getD _ .pocket (fun a _ => ExecutionClient.find?_name a) (by decide)

theorem Reachable.externalConsensusClient_mem :
    c.externalConsensusClient ∈ [ConsensusClient.lighthouse, .prysm, .teku] ∧
      c.Names .root "externalConsensusClient" c.externalConsensusClient :=
  h.reads_getD _ .lighthouse (fun a _ => ConsensusClient.find?_name a) (by decide)

theorem Reachable.reads : c.Reads := by
  have mode (id : String) (offered : Catalog.offersOnly .root id (Named.all : List Mode) = true) :
      c.Names .root id ((c.named? Mode .root id).getD .locallyManaged) :=
    (h.reads_getD Named.all .locallyManaged (fun a _ => Mode.find?_name a) offered).2
  have network := h.reads_getD Network.supported .primary (fun a _ => Network.find?_name a)
    (show Catalog.offersOnly .smartnode "network" Network.supported = true by decide)
  have execution := h.reads_getD ExecutionClient.all .geth
    (fun a _ => ExecutionClient.find?_name a)
    (show Catalog.offersOnly .root "executionClient" ExecutionClient.all = true by decide)
  have consensus := h.reads_getD ConsensusClient.all .nimbus
    (fun a _ => ConsensusClient.find?_name a)
    (show Catalog.offersOnly .root "consensusClient" ConsensusClient.all = true by decide)
  exact
    { network := network.2
      executionMode := mode _ (by decide)
      executionClient := execution.2
      fallbackMode := mode _ (by decide)
      fallbackClient := h.fallbackClient_mem.2
      consensusMode := mode _ (by decide)
      consensusClient := consensus.2
      externalConsensusClient := h.externalConsensusClient_mem.2 }

/-- A fallback client and an external consensus client always have a group. -/
theorem Reachable.exists_fallbackGroup : ∃ g, c.fallbackClient.fallbackGroup? = some g := by
  have member := h.fallbackClient_mem.1
  revert member
  generalize c.fallbackClient = client
  cases client <;> simp [ExecutionClient.fallbackGroup?]

theorem Reachable.exists_externalGroup :
    ∃ g, c.externalConsensusClient.externalGroup? = some g := by
  have member := h.externalConsensusClient_mem.1
  revert member
  generalize c.externalConsensusClient = client
  cases client <;> simp [ConsensusClient.externalGroup?]

end Reads

/-! ## Groups in use -/

/-- The groups of execution clients. -/
def executionKind : List Group := [.geth, .nethermind, .besu, .infura, .pocket]

/-- The groups of fallback execution clients. -/
def fallbackKind : List Group := [.fallbackInfura, .fallbackPocket]

/-- The groups of consensus clients, local or external. -/
def consensusKind : List Group :=
  [.lighthouse, .nimbus, .prysm, .teku, .externalLighthouse, .externalPrysm, .externalTeku]

theorem filter_eq_nil {l among kind : List Group} (sub : l ⊆ among)
    (apart : ∀ g ∈ among, g ∉ kind) : l.filter (· ∈ kind) = [] := by
  refine List.filter_eq_nil_iff.2 fun g hg => ?_
  simpa using apart g (sub hg)

/-- A group that is filtered out of others is the only one of its kind among them. -/
theorem eq_some_iff_of_filter {l kind : List Group} {o : Option Group}
    (only : l.filter (· ∈ kind) = o.toList) : o = some group ↔ group ∈ l ∧ group ∈ kind := by
  have mem : group ∈ l.filter (· ∈ kind) ↔ group ∈ l ∧ group ∈ kind := by simp
  rw [← mem, only]
  exact Option.mem_toList.symm

theorem executionGroups_subset (c : Configuration) : c.executionGroups ⊆
    [.executionCommon, .geth, .nethermind, .besu, .infura, .pocket, .externalExecution] := by
  rw [executionGroups_eq]
  cases c.executionMode with
  | locallyManaged =>
    show [.executionCommon, c.executionClient.group] ⊆ _
    cases c.executionClient <;> decide
  | externallyManaged =>
    show [Group.externalExecution] ⊆ _
    decide

theorem fallbackGroups_subset (c : Configuration) : c.fallbackGroups ⊆
    [.fallbackExecutionCommon, .fallbackInfura, .fallbackPocket, .fallbackExternalExecution] := by
  rw [fallbackGroups_eq]
  cases c.usesFallback with
  | false => exact List.nil_subset _
  | true =>
    cases c.fallbackMode with
    | locallyManaged =>
      show .fallbackExecutionCommon :: c.fallbackClient.fallbackGroup?.toList ⊆ _
      cases c.fallbackClient <;> decide
    | externallyManaged =>
      show [Group.fallbackExternalExecution] ⊆ _
      decide

/-- Beside the clients there are only services in use. -/
theorem filter_activeGroups (native : c.isNative = false) {kind : List Group}
    (apart : ∀ g ∈ [Group.smartnode, .grafana, .prometheus, .exporter, .bitflyNodeMetrics,
      .graffitiWall], g ∉ kind) :
    c.activeGroups.filter (· ∈ kind) = c.executionGroups.filter (· ∈ kind) ++
      c.fallbackGroups.filter (· ∈ kind) ++ c.consensusGroups.filter (· ∈ kind) := by
  have services {b : Bool} {l : List Group} (sub : l ⊆ [Group.smartnode, .grafana, .prometheus,
      .exporter, .bitflyNodeMetrics, .graffitiWall]) :
      (if b then l else []).filter (· ∈ kind) = [] :=
    filter_eq_nil (fun g hg => sub (ite_subset hg)) apart
  rw [activeGroups_eq native]
  simp only [List.filter_append]
  have smartnode : [Group.smartnode].filter (· ∈ kind) = [] :=
    filter_eq_nil (List.cons_subset_cons Group.smartnode (List.nil_subset _)) apart
  rw [services (by decide), services (by decide), services (by decide), smartnode]
  simp only [List.nil_append, List.append_nil]

theorem filter_activeGroups_of_native (native : c.isNative = true) {kind : List Group}
    (apart : ∀ g ∈ [Group.smartnode, .native], g ∉ kind) :
    c.activeGroups.filter (· ∈ kind) = [] := by
  rw [activeGroups, if_pos native]
  exact filter_eq_nil (List.Subset.refl _) apart

/-- The primary execution client's group is in use, and no other of the kind is. -/
theorem filter_executionKind (c : Configuration) :
    c.activeGroups.filter (· ∈ executionKind) = c.executionGroup?.toList := by
  unfold executionGroup?
  cases native : c.isNative with
  | true => exact filter_activeGroups_of_native native (by decide)
  | false =>
    rw [filter_activeGroups native (by decide), filter_eq_nil c.fallbackGroups_subset (by decide),
      filter_eq_nil c.consensusGroups_subset (by decide), executionGroups_eq]
    cases c.executionMode with
    | locallyManaged => cases c.executionClient <;> rfl
    | externallyManaged => rfl

theorem filter_fallbackKind (c : Configuration) :
    c.activeGroups.filter (· ∈ fallbackKind) = c.fallbackGroup?.toList := by
  unfold fallbackGroup?
  cases native : c.isNative with
  | true => exact filter_activeGroups_of_native native (by decide)
  | false =>
    rw [filter_activeGroups native (by decide), filter_eq_nil c.executionGroups_subset (by decide),
      filter_eq_nil c.consensusGroups_subset (by decide), fallbackGroups_eq]
    cases c.usesFallback with
    | false => rfl
    | true =>
      cases c.fallbackMode with
      | locallyManaged => cases c.fallbackClient <;> rfl
      | externallyManaged => rfl

theorem filter_consensusKind (c : Configuration) :
    c.activeGroups.filter (· ∈ consensusKind) =
      (c.selectedConsensus.toOption.map (·.group)).toList := by
  unfold selectedConsensus
  cases native : c.isNative with
  | true => exact filter_activeGroups_of_native native (by decide)
  | false =>
    rw [filter_activeGroups native (by decide), filter_eq_nil c.executionGroups_subset (by decide),
      filter_eq_nil c.fallbackGroups_subset (by decide), consensusGroups_eq]
    cases c.consensusMode with
    | locallyManaged => cases c.consensusClient <;> rfl
    | externallyManaged => cases c.externalConsensusClient <;> rfl

/-! ## What is asked of a selection, and what is shown of it -/

/-- What a group in use shows of a setting is its text. -/
theorem shows_text (known : c.outline = Catalog.outline) (active : group ∈ c.activeGroups)
    {d : Declaration} (declared : d ∈ Catalog.declarations "" group) {name : String}
    (shown : name ∈ d.shownAs) : c.environment.get? name = some (c.text group d.id) := by
  obtain ⟨p, found, bare⟩ := exists_find? known group declared
  have here : p ∈ c.parameters group := List.mem_of_find?_eq_some found
  have shown : name ∈ p.shownAs := (congrArg (·.shownAs) bare : p.shownAs = d.shownAs) ▸ shown
  have text : c.text group d.id = p.text := by
    rw [Configuration.text, found]
    rfl
  rw [text]
  exact get?_environment_of_mem known (List.mem_cons_of_mem _ active) here shown

theorem selectedConsensus_iff : (∃ s, c.selectedConsensus = .ok s ∧ s.group = group) ↔
    group ∈ c.activeGroups ∧ group ∈ consensusKind := by
  rw [← eq_some_iff_of_filter c.filter_consensusKind]
  cases c.selectedConsensus <;> simp [Except.toOption]

/-- The validator's image is the one that the environment names. -/
theorem shows_imageOf (known : c.outline = Catalog.outline) {s : SelectedConsensus}
    (selected : c.selectedConsensus = .ok s) :
    c.environment.get? "VC_CONTAINER_TAG" = some (c.imageOf s) := by
  have tags : ∀ g ∈ consensusKind, ∃ d ∈ Catalog.declarations "" g,
      d.id = (if g = .prysm then "vcContainerTag" else "containerTag") ∧
        "VC_CONTAINER_TAG" ∈ d.shownAs := by decide
  obtain ⟨active, kind⟩ := selectedConsensus_iff.1 ⟨s, selected, rfl⟩
  obtain ⟨d, declared, id, shown⟩ := tags s.group kind
  rw [imageOf, ← id]
  exact shows_text known active declared shown

theorem externalAddress?_eq_some_iff {u : String} : c.externalAddress? = some u ↔
    ∃ s, c.selectedConsensus = .ok s ∧ s.mode = .externallyManaged ∧
      c.text s.group "httpUrl" = u := by
  rw [externalAddress?, externalConsensus?_eq]
  cases c.selectedConsensus with
  | error e => simp
  | ok s => by_cases external : s.mode = .externallyManaged <;> simp [external]

/-- An external selection is the group of some client. -/
theorem externalGroup_of_selected {s : SelectedConsensus} (selected : c.selectedConsensus = .ok s)
    (external : s.mode = .externallyManaged) :
    ∃ client : ConsensusClient, client.externalGroup? = some s.group := by
  unfold selectedConsensus at selected
  split at selected
  · cases selected
  · split at selected
    · cases selected
      cases external
    · split at selected
      · next group own =>
        cases selected
        exact ⟨_, own⟩
      · cases selected

/-- The address of an external consensus client is the one that the environment names. -/
theorem shows_externalAddress (known : c.outline = Catalog.outline) {u : String}
    (address : c.externalAddress? = some u) : c.environment.get? "CC_API_ENDPOINT" = some u := by
  obtain ⟨s, selected, external, rfl⟩ := externalAddress?_eq_some_iff.1 address
  have addresses (client : ConsensusClient) (g : Group) (own : client.externalGroup? = some g) :
      ∃ d ∈ Catalog.declarations "" g, d.id = "httpUrl" ∧ "CC_API_ENDPOINT" ∈ d.shownAs := by
    cases client <;> cases own <;> decide
  obtain ⟨client, own⟩ := externalGroup_of_selected selected external
  obtain ⟨d, declared, id, shown⟩ := addresses client s.group own
  rw [← id]
  exact shows_text known (selectedConsensus_iff.1 ⟨s, selected, rfl⟩).1 declared shown

section Selected

variable (h : c.Reachable Edit.LeavesChoices) (native : c.isNative = false)

include h native

theorem Reachable.exists_selectedConsensus :
    ∃ s, c.selectedConsensus = .ok s ∧ s.mode = c.consensusMode := by
  unfold selectedConsensus
  rw [native, if_neg Bool.false_ne_true]
  cases c.consensusMode with
  | locallyManaged => exact ⟨_, rfl, rfl⟩
  | externallyManaged =>
    obtain ⟨group, own⟩ := h.exists_externalGroup
    rw [own]
    exact ⟨_, rfl, rfl⟩

theorem Reachable.exists_externalAddress_iff :
    (∃ u, c.externalAddress? = some u) ↔ c.consensusMode = .externallyManaged := by
  obtain ⟨s, selected, mode⟩ := h.exists_selectedConsensus native
  simp only [externalAddress?_eq_some_iff, selected, Except.ok.injEq, ← mode]
  constructor
  · rintro ⟨_, _, rfl, external, -⟩
    exact external
  · intro external
    exact ⟨_, s, rfl, external, rfl⟩

theorem Reachable.exists_detectsDoppelgangers : ∃ b, c.detectsDoppelgangers = .ok b := by
  obtain ⟨s, selected, -⟩ := h.exists_selectedConsensus native
  rw [detectsDoppelgangers_eq, selected]
  by_cases teku : s.client = .teku
  · exact ⟨false, if_pos teku⟩
  · exact ⟨_, if_neg teku⟩

theorem Reachable.isSome_fallbackGroup?_iff : c.fallbackGroup?.isSome ↔
    c.usesFallback = true ∧ c.fallbackMode = .locallyManaged := by
  obtain ⟨g, own⟩ := h.exists_fallbackGroup
  unfold fallbackGroup?
  cases c.usesFallback <;> cases c.fallbackMode <;> simp [native, own]

end Selected

theorem isSome_executionGroup?_iff (native : c.isNative = false) :
    c.executionGroup?.isSome ↔ c.executionMode = .locallyManaged := by
  unfold executionGroup?
  cases c.executionMode <;> simp [native]

/-- However a selection is asked for, the answer is the same. Each name that is read is that of its
setting. The group of each kind that is in use is the one that is selected, if there is one: an
execution client that is managed locally, a fallback for it that is used and managed locally, and
always a consensus client. The validator's image and the address of an external consensus client are
those that the environment shows. Nothing is selected beside a natively run node. -/
theorem Reachable.selections_agree (h : c.Reachable Edit.LeavesChoices) :
    c.Reads ∧
    (∀ g, c.executionGroup? = some g ↔ g ∈ c.activeGroups ∧ g ∈ executionKind) ∧
    (∀ g, c.fallbackGroup? = some g ↔ g ∈ c.activeGroups ∧ g ∈ fallbackKind) ∧
    (∀ g, (∃ s, c.selectedConsensus = .ok s ∧ s.group = g) ↔
      g ∈ c.activeGroups ∧ g ∈ consensusKind) ∧
    (c.isNative = false →
      (c.executionGroup?.isSome ↔ c.executionMode = .locallyManaged) ∧
      (c.fallbackGroup?.isSome ↔ c.usesFallback = true ∧ c.fallbackMode = .locallyManaged) ∧
      (∃ s, c.selectedConsensus = .ok s) ∧ (∃ b, c.detectsDoppelgangers = .ok b) ∧
      (∃ image, c.validatorImage = .ok image ∧
        c.environment.get? "VC_CONTAINER_TAG" = some image) ∧
      ((∃ u, c.externalAddress? = some u) ↔ c.consensusMode = .externallyManaged) ∧
      ∀ u, c.externalAddress? = some u → c.environment.get? "CC_API_ENDPOINT" = some u) ∧
    (c.isNative = true →
      c.executionGroup? = none ∧ c.fallbackGroup? = none ∧ c.externalAddress? = none ∧
      c.selectedConsensus = .error (.notInNativeMode "consensus client configuration") ∧
      c.validatorImage = .error (.notInNativeMode "consensus client configuration") ∧
      c.detectsDoppelgangers = .error (.notInNativeMode "consensus client configuration")) := by
  have known := h.outline_eq
  refine ⟨h.reads, fun g => eq_some_iff_of_filter c.filter_executionKind,
    fun g => eq_some_iff_of_filter c.filter_fallbackKind, fun g => selectedConsensus_iff,
    fun native => ?_, fun native => ?_⟩
  · obtain ⟨s, selected, -⟩ := h.exists_selectedConsensus native
    refine ⟨isSome_executionGroup?_iff native, h.isSome_fallbackGroup?_iff native, ⟨s, selected⟩,
      h.exists_detectsDoppelgangers native, ⟨c.imageOf s, ?_, shows_imageOf known selected⟩,
      h.exists_externalAddress_iff native, fun u => shows_externalAddress known⟩
    rw [validatorImage, selected]
    rfl
  · have none : c.selectedConsensus =
        .error (.notInNativeMode "consensus client configuration") := by
      unfold selectedConsensus
      rw [if_pos native]
      rfl
    refine ⟨?_, ?_, ?_, none, ?_, ?_⟩
    · simp [executionGroup?, native]
    · simp [fallbackGroup?, native]
    · simp [externalAddress?, externalConsensus?_eq, none]
    · rw [validatorImage, none]
      rfl
    · rw [detectsDoppelgangers_eq, none]
      rfl

/-- Teku is run elsewhere, beside Geth and with Infura to fall back on. -/
theorem selections_agree_external : ∃ c : Configuration, c.Reachable Edit.LeavesChoices ∧
    c.text .root "externalConsensusClient" = "teku" ∧ c.executionGroup? = some .geth ∧
    c.fallbackGroup? = some .fallbackInfura ∧
    (∃ s, c.selectedConsensus = .ok s ∧ s.group = .externalTeku) ∧
    c.environment.get? "CC_API_ENDPOINT" = some "http://10.0.0.5:5052" := by
  obtain ⟨c, reached, client, active, address⟩ :=
    exists_reachable Edit.LeavesChoices "/srv/node" false
      (fun _ h => h.operations [.assignText .root "consensusClientMode" "external",
        .assignText .root "externalConsensusClient" "teku",
        .assignText .externalTeku "httpUrl" "http://10.0.0.5:5052",
        .assignText .root "useFallbackExecutionClient" "true",
        .assignText .root "fallbackExecutionClient" "infura"])
      (P := fun c => c.externalConsensusClient = .teku ∧
        (∀ g ∈ [Group.geth, .fallbackInfura, .externalTeku], g ∈ c.activeGroups) ∧
        c.isNative = false ∧ c.externalAddress? = some "http://10.0.0.5:5052") (by decide +kernel)
  obtain ⟨native, address⟩ := address
  obtain ⟨reads, execution, fallback, consensus, managed, -⟩ := reached.selections_agree
  obtain ⟨-, -, -, -, -, -, shows⟩ := managed native
  refine ⟨c, reached, ?_, (execution .geth).2 ⟨active _ (by decide), by decide⟩,
    (fallback .fallbackInfura).2 ⟨active _ (by decide), by decide⟩,
    (consensus .externalTeku).2 ⟨active _ (by decide), by decide⟩, shows _ address⟩
  rw [reads.externalConsensusClient.1, client]
  rfl

end Configuration
end NodeSettings
