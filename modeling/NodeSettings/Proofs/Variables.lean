import Mathlib.Data.List.Dedup
import Mathlib.Data.List.Pairwise
import Mathlib.Data.List.Perm.Subperm
import NodeSettings.Configuration.Environment
import NodeSettings.Proofs.Declared

/-!
The variables that a configuration writes into its environment. They are written part by part, each
part has variables of its own, and none is written twice: `names_nodup`. So no write overrides
another one, and the environment is its writes: `get?_environment`.
-/

namespace NodeSettings

namespace Catalog

/-- The variables that the settings of a group are shown under. -/
def shown (group : Group) : List String := (declarations "" group).flatMap (·.shownAs)

/-- The variables of any of some groups, each once. -/
def shownBy (groups : List Group) : List String := (groups.flatMap shown).dedup

theorem shown_nodup (group : Group) : (shown group).Nodup := by
  cases group <;> decide

theorem shown_subperm {group : Group} {groups : List Group} (h : group ∈ groups) :
    (shown group).Subperm (shownBy groups) :=
  List.subperm_of_subset (shown_nodup group) fun _ mem =>
    List.mem_dedup.2 (List.mem_flatMap.2 ⟨group, h, mem⟩)

/-- Of pairs that are listed group by group, those of one group. -/
theorem filter_flatMap_map {α : Type} {groups : List Group} {group : Group}
    (distinct : groups.Nodup) (here : group ∈ groups) (f : Group → List α) :
    ((groups.flatMap fun g => (f g).map (g, ·)).filter (·.1 = group)).map (·.2) = f group := by
  have own : ((f group).map (group, ·)).filter (·.1 = group) = (f group).map (group, ·) :=
    List.filter_eq_self.2 (by simp)
  have other (g : Group) (ne : g ≠ group) : ((f g).map (g, ·)).filter (·.1 = group) = [] :=
    List.filter_eq_nil_iff.2 (by simp [ne])
  obtain ⟨before, after, rfl⟩ := List.append_of_mem here
  obtain ⟨-, ⟨fresh, -⟩, apart⟩ := by
    simpa only [List.nodup_append, List.nodup_cons] using distinct
  have left : (before.flatMap fun g => (f g).map (g, ·)).filter (·.1 = group) = [] := by
    rw [List.filter_flatMap]
    exact List.flatMap_eq_nil_iff.2 fun g hg => other g (apart g hg group List.mem_cons_self)
  have right : (after.flatMap fun g => (f g).map (g, ·)).filter (·.1 = group) = [] := by
    rw [List.filter_flatMap]
    exact List.flatMap_eq_nil_iff.2 fun g hg => other g fun same => fresh (same ▸ hg)
  simp [left, right, own, Function.comp_def]

theorem outline_of (group : Group) :
    (outline.filter (·.1 = group)).map (·.2) = (declarations "" group).map (·.bare) := by
  have listed : outline =
      Group.all.flatMap fun g => ((declarations "" g).map (·.bare)).map (g, ·) := by
    simp [outline, all, List.map_flatMap, Function.comp_def]
  rw [listed, filter_flatMap_map (by decide) (Group.mem_all group)
    fun g => (declarations "" g).map (·.bare)]

end Catalog

namespace Configuration

variable {c : Configuration} {group : Group} {name : String} {w : Write}

/-- But for values, defaults and choices a group's parameters are the declared ones. -/
theorem parameters_bare (known : c.outline = Catalog.outline) (group : Group) :
    (c.parameters group).map (·.bare) = (Catalog.declarations "" group).map (·.bare) := by
  rw [← Catalog.outline_of, ← known, outline, parameters, List.filter_map, List.map_map,
    List.map_map]
  rfl

theorem exists_declared (known : c.outline = Catalog.outline) {p : Parameter}
    (hp : p ∈ c.parameters group) : ∃ d ∈ Catalog.declarations "" group, d.bare = p.bare := by
  have bare : p.bare ∈ (c.parameters group).map (·.bare) := List.mem_map_of_mem hp
  rw [parameters_bare known] at bare
  exact List.mem_map.1 bare

theorem names_writes (p : Parameter) : p.writes.map (·.1) = p.shownAs := by
  simp [Parameter.writes, Function.comp_def]

theorem mem_groupWrites :
    w ∈ c.groupWrites group ↔ ∃ p ∈ c.parameters group, w.1 ∈ p.shownAs ∧ w.2 = p.text := by
  obtain ⟨name, text⟩ := w
  simp [groupWrites, Parameter.writes, eq_comm]

/-- Whatever its settings hold, a group is shown under the declared variables. -/
theorem names_groupWrites (known : c.outline = Catalog.outline) (group : Group) :
    (c.groupWrites group).map (·.1) = Catalog.shown group := by
  have same := congrArg (List.flatMap (·.shownAs)) (parameters_bare known group)
  rw [List.flatMap_map, List.flatMap_map] at same
  rw [groupWrites, List.map_flatMap]
  simp only [names_writes]
  exact same

theorem optionWrites_eq (c : Configuration) (group? : Option Group) :
    (group?.map c.groupWrites).getD [] = group?.toList.flatMap c.groupWrites := by
  cases group? <;> simp

theorem names_optionWrites (known : c.outline = Catalog.outline) (group? : Option Group) :
    ((group?.map c.groupWrites).getD []).map (·.1) = group?.toList.flatMap Catalog.shown := by
  rw [optionWrites_eq, List.map_flatMap]
  exact List.flatMap_congr fun group _ => names_groupWrites known group

/-! ## No variable is written twice -/

/-- The variables of a locally managed execution client's addresses. -/
def endpointNames (isFallback : Bool) : List String :=
  [Catalog.variableName isFallback "EC_HTTP_ENDPOINT",
    Catalog.variableName isFallback "EC_WS_ENDPOINT"]
  ++ [Catalog.variableName isFallback "EC_OPEN_API_PORTS"]

/-- The variables that every node shows. -/
def commonNames : List String :=
  ["SMARTNODE_IMAGE", "ROCKETPOOL_FOLDER"] ++ Catalog.shown .smartnode ++ Catalog.shown .root

/-- The variables that the primary execution client may be shown under. -/
def executionNames : List String :=
  ["EC_CLIENT"] ++ endpointNames false ++ Catalog.shown .executionCommon
  ++ Catalog.shownBy (ExecutionClient.all.map (·.group)) ++ ["EC_STOP_SIGNAL"] ++ ["EC_HOSTNAME"]

/-- Those of the fallback execution client. -/
def fallbackNames : List String :=
  ["FALLBACK_EC_CLIENT"] ++ (endpointNames true ++ Catalog.shown .fallbackExecutionCommon
    ++ Catalog.shownBy [.fallbackInfura, .fallbackPocket])

/-- Those of the consensus client. -/
def consensusNames : List String :=
  ["CC_CLIENT", "CC_API_ENDPOINT", "BN_OPEN_PORTS"] ++ Catalog.shown .consensusCommon
  ++ Catalog.shownBy (ConsensusClient.all.map (·.group)) ++ ["CC_RPC_ENDPOINT"] ++ ["CC_HOSTNAME"]

/-- Those of the services for metrics. -/
def metricsNames : List String :=
  Catalog.shown .exporter ++ Catalog.shown .prometheus ++ Catalog.shown .grafana
  ++ ["EXPORTER_ROOTFS_COMMAND", "EXPORTER_ROOTFS_VOLUME"] ++ ["PROMETHEUS_OPEN_PORTS"]
  ++ ["EXPORTER_ADDITIONAL_FLAGS"] ++ ["PROMETHEUS_ADDITIONAL_FLAGS"]

theorem names_withHost {address host : String} {writes : List Write} {names : List String}
    (h : (writes.map (·.1)).Subperm names) :
    ((withHost address host writes).map (·.1)).Subperm (names ++ [host]) := by
  rw [withHost, List.map_append]
  refine h.append ?_
  cases ((Table.ofList writes).get? address).bind Endpoint.host? <;> simp

theorem subperm_ite {p : Prop} [Decidable p] {l names : List String} (h : l.Subperm names) :
    (if p then l else []).Subperm names := by
  split
  · exact h
  · exact List.nil_subperm

theorem names_endpointWrites (c : Configuration) (common : Group) (isFallback : Bool)
    (host : String) (client : ExecutionClient) (listStart : String) :
    ((c.endpointWrites common isFallback host client listStart).map (·.1)).Subperm
      (endpointNames isFallback) := by
  simp only [endpointWrites, List.map_append, apply_ite (List.map _), List.map_cons, List.map_nil]
  exact (List.Subperm.refl _).append (subperm_ite (.refl _))

theorem names_executionWrites (known : c.outline = Catalog.outline) :
    (c.executionWrites.map (·.1)).Subperm executionNames := by
  refine names_withHost ?_
  cases c.executionMode with
  | locallyManaged =>
    simp only [List.map_append, names_groupWrites known]
    have client : c.executionClient.group ∈ ExecutionClient.all.map (·.group) := by
      cases c.executionClient <;> decide
    exact ((((List.Subperm.refl _).append (names_endpointWrites ..)).append (.refl _)).append
      (Catalog.shown_subperm client)).append (.refl _)
  | externallyManaged =>
    rw [List.map_cons, names_groupWrites known]
    decide +kernel

theorem names_fallbackWrites (known : c.outline = Catalog.outline) :
    (c.fallbackWrites.map (·.1)).Subperm fallbackNames := by
  refine (List.Subperm.refl ["FALLBACK_EC_CLIENT"]).append ?_
  rw [apply_ite (List.map _)]
  refine subperm_ite ?_
  cases c.fallbackMode with
  | locallyManaged =>
    simp only [List.map_append, names_groupWrites known]
    refine ((names_endpointWrites ..).append (.refl _)).append ?_
    rw [names_optionWrites known]
    cases c.fallbackClient <;> decide +kernel
  | externallyManaged =>
    rw [names_groupWrites known]
    decide +kernel

theorem names_consensusWrites (known : c.outline = Catalog.outline) :
    (c.consensusWrites.map (·.1)).Subperm consensusNames := by
  refine names_withHost ?_
  cases c.consensusMode with
  | locallyManaged =>
    simp only [List.map_append, names_groupWrites known, apply_ite (List.map _)]
    have client : c.consensusClient.group ∈ ConsensusClient.all.map (·.group) := by
      cases c.consensusClient <;> decide
    exact (((List.Subperm.refl _).append (.refl _)).append (Catalog.shown_subperm client)).append
      (subperm_ite (.refl _))
  | externallyManaged =>
    simp only [List.map_cons, names_optionWrites known]
    cases c.externalConsensusClient <;> decide +kernel

theorem names_metricsWrites (known : c.outline = Catalog.outline) :
    (c.metricsWrites.map (·.1)).Subperm metricsNames := by
  have flags (group : Group) (name : String) :
      ((c.flagEntry group name).map (·.1)).Subperm [name] := by
    simp only [flagEntry, apply_ite (List.map _), List.map_nil, List.map_cons]
    split
    · exact List.nil_subperm
    · exact .refl _
  rw [metricsWrites, apply_ite (List.map _)]
  refine subperm_ite ?_
  simp only [List.map_append, names_groupWrites known, apply_ite (List.map _)]
  exact ((((List.Subperm.refl _).append (subperm_ite (.refl _))).append
    (subperm_ite (.refl _))).append (flags ..)).append (flags ..)

/-- The switch of the addon. -/
theorem exists_enabled (known : c.outline = Catalog.outline) :
    ∃ p, c.find? .graffitiWall "enabled" = some p ∧ p.shownAs = ["ADDON_GWW_ENABLED"] := by
  obtain ⟨p, found, bare⟩ :=
    exists_find? known .graffitiWall (List.mem_cons_self : _ ∈ Catalog.graffitiWall)
  exact ⟨p, found, congrArg (·.shownAs) bare⟩

theorem names_graffitiWallWrites (known : c.outline = Catalog.outline) :
    (c.graffitiWallWrites.map (·.1)).Subperm (Catalog.shown .graffitiWall) := by
  unfold graffitiWallWrites
  split
  · rw [names_groupWrites known]
  · obtain ⟨p, found, bare⟩ := exists_enabled known
    rw [found, Option.map_some, Option.getD_some, names_writes, bare]
    decide +kernel

/-! ## Parts of the environment -/

/-- What every node writes. -/
def commonWrites (c : Configuration) : List Write :=
  [("SMARTNODE_IMAGE", Catalog.smartnodeImage), ("ROCKETPOOL_FOLDER", c.directory)]
  ++ c.groupWrites .smartnode ++ c.groupWrites .root

/-- The writes, part by part, and all the variables that each part may write. -/
def parts (c : Configuration) : List (List Write × List String) :=
  (c.commonWrites, commonNames) ::
    if c.isNative then [(c.groupWrites .native, Catalog.shown .native)]
    else
      [(c.executionWrites, executionNames), (c.fallbackWrites, fallbackNames),
        (c.consensusWrites, consensusNames), (c.metricsWrites, metricsNames),
        (if c.usesBitfly then c.groupWrites .bitflyNodeMetrics else [],
          Catalog.shown .bitflyNodeMetrics),
        (c.graffitiWallWrites, Catalog.shown .graffitiWall)]

theorem writes_eq_parts (c : Configuration) : c.writes = c.parts.flatMap (·.1) := by
  cases native : c.isNative <;> simp [writes, parts, commonWrites, native]

theorem names_of_mem_parts (known : c.outline = Catalog.outline) {part : List Write × List String}
    (h : part ∈ c.parts) : (part.1.map (·.1)).Subperm part.2 := by
  rcases List.mem_cons.1 h with rfl | h
  · simp only [commonWrites, List.map_append, names_groupWrites known]
    exact .refl _
  split at h
  · obtain rfl := List.mem_singleton.1 h
    rw [names_groupWrites known]
  · simp only [List.mem_cons, List.not_mem_nil, or_false] at h
    rcases h with rfl | rfl | rfl | rfl | rfl | rfl
    · exact names_executionWrites known
    · exact names_fallbackWrites known
    · exact names_consensusWrites known
    · exact names_metricsWrites known
    · rw [apply_ite (List.map _), names_groupWrites known]
      exact subperm_ite (.refl _)
    · exact names_graffitiWallWrites known

/-- No variable is of two parts, and none is listed twice in one. -/
theorem parts_nodup (c : Configuration) : (c.parts.flatMap (·.2)).Nodup := by
  -- The variables of the parts do not depend on the configuration: they are compared once.
  unfold parts
  cases c.isNative with
  | true =>
    show (commonNames ++ (Catalog.shown .native ++ [])).Nodup
    decide +kernel
  | false =>
    show (commonNames ++ (executionNames ++ (fallbackNames ++ (consensusNames ++ (metricsNames ++
      (Catalog.shown .bitflyNodeMetrics ++ (Catalog.shown .graffitiWall ++ []))))))).Nodup
    decide +kernel

theorem nodup_of_subperm {l names : List String} (h : l.Subperm names) (unique : names.Nodup) :
    l.Nodup := by
  obtain ⟨_, permuted, sub⟩ := h
  exact permuted.nodup_iff.1 (unique.sublist sub)

theorem subperm_flatMap {parts : List (List Write × List String)}
    (within : ∀ part ∈ parts, (part.1.map (·.1)).Subperm part.2) :
    ((parts.flatMap (·.1)).map (·.1)).Subperm (parts.flatMap (·.2)) := by
  induction parts with
  | nil => exact .refl _
  | cons part parts ih =>
    obtain ⟨own, others⟩ := List.forall_mem_cons.1 within
    rw [List.flatMap_cons, List.map_append]
    exact own.append (ih others)

theorem names_nodup (known : c.outline = Catalog.outline) : (c.writes.map (·.1)).Nodup := by
  rw [writes_eq_parts]
  exact nodup_of_subperm (subperm_flatMap fun _ => names_of_mem_parts known) c.parts_nodup

theorem get?_environment (known : c.outline = Catalog.outline) {text : String} :
    c.environment.get? name = some text ↔ (name, text) ∈ c.writes :=
  Table.get?_ofList_iff (names_nodup known)

theorem part_subset {part : List Write × List String} (h : part ∈ c.parts) :
    part.1 ⊆ c.writes := by
  intro w hw
  rw [writes_eq_parts]
  exact List.mem_flatMap.2 ⟨part, h, hw⟩

/-- A variable is written in its own part only. -/
theorem mem_part_of_mem (known : c.outline = Catalog.outline) {part : List Write × List String}
    (h : part ∈ c.parts) (hw : w ∈ c.writes) (own : w.1 ∈ part.2) : w ∈ part.1 := by
  rw [writes_eq_parts] at hw
  obtain ⟨other, hother, hw⟩ := List.mem_flatMap.1 hw
  have also : w.1 ∈ other.2 := (names_of_mem_parts known hother).subset (List.mem_map_of_mem hw)
  have : Std.Symm (Function.onFun List.Disjoint fun part : List Write × List String => part.2) :=
    ⟨fun _ _ apart => apart.symm⟩
  by_cases same : part = other
  · exact same ▸ hw
  · exact absurd also ((List.nodup_flatMap.1 c.parts_nodup).2.forall h hother same own)

end Configuration

end NodeSettings
