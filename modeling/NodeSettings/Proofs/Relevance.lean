import NodeSettings.Configuration.Report
import NodeSettings.Proofs.Comparison
import NodeSettings.Proofs.Environment

/-!
What the answers of a configuration depend on. Two configurations are alike if they are of one place
and one way of running, and hold the same texts in the top-level group, in the groups that one of
them uses and in the switch of the addon. Whatever the groups out of use hold, they use the same
groups, show the same environment and report the same problems: `Reachable.answers_of_alike`.

A text and a kind determine a value (`Value.eq_of_text`), so that it is enough to compare texts.
What a group shows and reports is a function of its sheet, which lists its declarations with their
texts.
-/

namespace NodeSettings

/-- Values of one kind are told apart by their texts, but for numbers, which need not be finite. -/
theorem Value.eq_of_text {v w : Value} (kind : v.kind = w.kind) (exact : v.kind ≠ .float)
    (text : v.text = w.text) : v = w := by
  have left : parse? v.kind v.text = some v := parse?_text (isFinite_of_kind exact)
  have right : parse? w.kind w.text = some w := parse?_text (isFinite_of_kind (kind ▸ exact))
  rw [← kind, ← text, left] at right
  exact Option.some.inj right

namespace Catalog

/-- Only the node daemon has settings that are numbers with a fraction. -/
theorem kind_ne_float {group : Group} (other : group ≠ .smartnode) :
    ∀ d ∈ declarations "" group, d.kind ≠ .float := by
  cases group with
  | smartnode => exact absurd rfl other
  | _ => decide

theorem exists_declaration {group : Group} {id : String} (h : (group, id) ∈ keys) :
    ∃ d ∈ declarations "" group, d.id = id := by
  obtain ⟨⟨g, d⟩, mem, same⟩ := List.mem_map.1 h
  obtain ⟨rfl, rfl⟩ := Prod.mk.inj same
  exact ⟨d, mem_all.1 mem, rfl⟩

end Catalog

namespace Configuration

variable {a b c : Configuration} {group : Group} {id : String} {p : Parameter}
  {permitted permitted' : Edit → Prop}

/-! ## Sheets -/

/-- The declarations of a group, each with its text. -/
def sheet (c : Configuration) (group : Group) : List (Declaration × String) :=
  (c.parameters group).map fun p => (p.bare, p.text)

/-- Two configurations hold the same texts in a group. -/
def SharesTexts (a b : Configuration) (group : Group) : Prop :=
  ∀ id, a.text group id = b.text group id

/-- The ids of a group, each with its text. -/
def texts (c : Configuration) (group : Group) : List (String × String) :=
  (c.parameters group).map fun p => (p.id, p.text)

theorem sharesTexts_of_texts (same : a.texts group = b.texts group) : a.SharesTexts b group := by
  have text (c : Configuration) (id : String) :
      c.text group id = (((c.texts group).find? (·.1 = id)).map (·.2)).getD "" := by
    rw [texts, List.find?_map, Option.map_map]
    rfl
  intro id
  rw [text, text, same]

theorem sheet_eq (known : c.outline = Catalog.outline) (group : Group) :
    c.sheet group =
      ((Catalog.declarations "" group).map (·.bare)).map fun d => (d, c.text group d.id) := by
  rw [← parameters_bare known, List.map_map]
  refine List.map_congr_left fun p hp => ?_
  have own : c.text group p.id = p.text := text_of_mem (keys_nodup known) (mem_parameters.1 hp)
  show (p.bare, p.text) = (p.bare, c.text group p.id)
  rw [own]

theorem sheet_congr (known : a.outline = Catalog.outline) (known' : b.outline = Catalog.outline)
    (same : a.SharesTexts b group) : a.sheet group = b.sheet group := by
  rw [sheet_eq known, sheet_eq known']
  refine List.map_congr_left fun d _ => ?_
  rw [same d.id]

theorem groupWrites_eq_sheet (c : Configuration) (group : Group) :
    c.groupWrites group = (c.sheet group).flatMap fun e => e.1.shownAs.map (·, e.2) := by
  rw [sheet, List.flatMap_map]
  rfl

theorem groupWrites_congr (known : a.outline = Catalog.outline)
    (known' : b.outline = Catalog.outline) (same : a.SharesTexts b group) :
    a.groupWrites group = b.groupWrites group := by
  rw [groupWrites_eq_sheet, groupWrites_eq_sheet, sheet_congr known known' same]

theorem commonWrites_congr (known : a.outline = Catalog.outline)
    (known' : b.outline = Catalog.outline) (directory : a.directory = b.directory)
    (smartnode : a.SharesTexts b .smartnode) (root : a.SharesTexts b .root) :
    a.commonWrites = b.commonWrites := by
  unfold commonWrites
  rw [directory, groupWrites_congr known known' smartnode, groupWrites_congr known known' root]

/-- A parameter is blank if it is a string without text. -/
theorem isBlank_eq (kind : p.value.kind = p.kind) :
    p.isBlank = (p.kind == .string && p.text == "") := by
  unfold Parameter.isBlank Parameter.text
  cases value : p.value with
  | string s => simp [Value.asString?, Value.text]
  | bool | int | uint | uint16 | float | choice =>
    rw [value] at kind
    rw [← kind]
    rfl

/-- What is reported of the blank settings of a group, but for some that do not count. -/
theorem blanks_eq_sheet (kinds : ∀ p ∈ c.parameters group, p.value.kind = p.kind)
    (ignored : List String) (told : String → String) :
    (((c.parameters group).filter fun p => lacksText p && !ignored.contains p.id).map
        fun p => told p.name) =
      ((c.sheet group).filter fun e =>
        e.1.kind == .string && e.2 == "" && !e.1.canBeBlank && !ignored.contains e.1.id).map
          fun e => told e.1.name := by
  rw [sheet, List.filter_map, List.map_map]
  have filters : ((c.parameters group).filter fun p => lacksText p && !ignored.contains p.id) =
      (c.parameters group).filter ((fun e : Declaration × String =>
        e.1.kind == .string && e.2 == "" && !e.1.canBeBlank && !ignored.contains e.1.id) ∘
          fun p => (p.bare, p.text)) := by
    refine List.filter_congr fun p hp => ?_
    rw [lacksText, isBlank_eq (kinds p hp)]
    rfl
  rw [filters]
  rfl

/-! ## Values -/

theorem find?_eq_none (known : c.outline = Catalog.outline) (absent : (group, id) ∉ Catalog.keys) :
    c.find? group id = none := by
  cases found : c.find? group id with
  | none => rfl
  | some p =>
    obtain ⟨hs, rfl⟩ := mem_of_find? found
    exact absurd ((mem_keys_iff known).2 ⟨p, mem_parameters.2 hs, rfl⟩) absent

/-- Outside the group of the node daemon a text determines its value. -/
theorem value?_congr (h : a.Reachable permitted) (h' : b.Reachable permitted')
    (other : group ≠ .smartnode) (same : a.text group id = b.text group id) :
    a.value? group id = b.value? group id := by
  by_cases key : (group, id) ∈ Catalog.keys
  · obtain ⟨d, declared, rfl⟩ := Catalog.exists_declaration key
    have exact : d.kind ≠ .float := Catalog.kind_ne_float other d declared
    obtain ⟨p, found, bare⟩ := exists_find? h.outline_eq group declared
    obtain ⟨q, found', bare'⟩ := exists_find? h'.outline_eq group declared
    have kind : p.value.kind = d.kind :=
      (h.kind_eq (mem_of_find? found).1).trans (congrArg (·.kind) bare)
    have kind' : q.value.kind = d.kind :=
      (h'.kind_eq (mem_of_find? found').1).trans (congrArg (·.kind) bare')
    rw [Configuration.text, Configuration.text, found, found'] at same
    rw [value?, value?, found, found']
    exact congrArg some
      (Value.eq_of_text (kind.trans kind'.symm) (fun float => exact (kind.symm.trans float)) same)
  · rw [value?, value?, find?_eq_none h.outline_eq key, find?_eq_none h'.outline_eq key]

/-! ## Selections -/

/-- Two configurations select the same clients and services. -/
structure SameSelection (a b : Configuration) : Prop where
  isNative : a.isNative = b.isNative
  executionMode : a.executionMode = b.executionMode
  executionClient : a.executionClient = b.executionClient
  usesFallback : a.usesFallback = b.usesFallback
  fallbackMode : a.fallbackMode = b.fallbackMode
  fallbackClient : a.fallbackClient = b.fallbackClient
  consensusMode : a.consensusMode = b.consensusMode
  consensusClient : a.consensusClient = b.consensusClient
  externalConsensusClient : a.externalConsensusClient = b.externalConsensusClient
  usesMetrics : a.usesMetrics = b.usesMetrics
  usesBitfly : a.usesBitfly = b.usesBitfly
  usesGraffitiWall : a.usesGraffitiWall = b.usesGraffitiWall

namespace SameSelection

variable (same : a.SameSelection b)

include same

theorem activeGroups : a.activeGroups = b.activeGroups := by
  unfold Configuration.activeGroups
  rw [executionGroups_eq, fallbackGroups_eq, consensusGroups_eq, executionGroups_eq,
    fallbackGroups_eq, consensusGroups_eq, same.isNative, same.executionMode,
    same.executionClient, same.usesFallback, same.fallbackMode, same.fallbackClient,
    same.consensusMode, same.consensusClient, same.externalConsensusClient, same.usesMetrics,
    same.usesBitfly, same.usesGraffitiWall]

theorem executionGroup? : a.executionGroup? = b.executionGroup? := by
  unfold Configuration.executionGroup?
  rw [same.isNative, same.executionMode, same.executionClient]

theorem fallbackGroup? : a.fallbackGroup? = b.fallbackGroup? := by
  unfold Configuration.fallbackGroup?
  rw [same.isNative, same.usesFallback, same.fallbackMode, same.fallbackClient]

theorem selectedConsensus : a.selectedConsensus = b.selectedConsensus := by
  unfold Configuration.selectedConsensus
  rw [same.isNative, same.consensusMode, same.consensusClient, same.externalConsensusClient]

theorem ignored (group : Group) : a.ignored group = b.ignored group := by
  unfold Configuration.ignored
  rw [same.executionGroup?, same.fallbackGroup?, same.consensusClient]

end SameSelection

/-- The group of the selected consensus client is one of those in use for it, as are the settings
that local clients share if it is a local one. -/
theorem mem_consensusGroups_of_selected {selected : SelectedConsensus}
    (is : c.selectedConsensus = .ok selected) :
    c.isNative = false ∧ selected.group ∈ c.consensusGroups ∧
      (selected.mode = .locallyManaged → .consensusCommon ∈ c.consensusGroups) := by
  unfold selectedConsensus at is
  rw [consensusGroups_eq]
  cases native : c.isNative with
  | true =>
    rw [native] at is
    cases is
  | false =>
    rw [native, if_neg Bool.false_ne_true] at is
    cases mode : c.consensusMode with
    | locallyManaged =>
      rw [mode] at is
      obtain rfl := Except.ok.inj is
      exact ⟨rfl, by simp, fun _ => by simp⟩
    | externallyManaged =>
      rw [mode] at is
      cases own : c.externalConsensusClient.externalGroup? with
      | none =>
        rw [own] at is
        cases is
      | some group =>
        rw [own] at is
        obtain rfl := Except.ok.inj is
        exact ⟨rfl, by simp, fun here => by cases here⟩

/-- The groups that can be in use for a consensus client. -/
theorem consensusGroups_subset (c : Configuration) : c.consensusGroups ⊆
    [.consensusCommon, .lighthouse, .nimbus, .prysm, .teku, .externalLighthouse, .externalPrysm,
      .externalTeku] := by
  rw [consensusGroups_eq]
  cases c.consensusMode with
  | locallyManaged =>
    show [.consensusCommon, c.consensusClient.group] ⊆ _
    cases c.consensusClient <;> decide
  | externallyManaged =>
    show c.externalConsensusClient.externalGroup?.toList ⊆ _
    cases c.externalConsensusClient <;> decide

theorem mem_activeGroups_of_consensus (native : c.isNative = false)
    (here : group ∈ c.consensusGroups) : group ∈ Group.root :: c.activeGroups := by
  rw [activeGroups_eq native]
  simp [here]

/-! ## Alike configurations -/

/-- Two configurations of nodes at one place agree on all that the first one uses. -/
structure Alike (a b : Configuration) : Prop where
  directory : a.directory = b.directory
  isNative : a.isNative = b.isNative
  texts : ∀ g ∈ Group.root :: a.activeGroups, a.SharesTexts b g
  addon : a.text .graffitiWall "enabled" = b.text .graffitiWall "enabled"

theorem smartnode_mem_activeGroups (c : Configuration) : Group.smartnode ∈ c.activeGroups := by
  unfold activeGroups
  split <;> simp

section Alike

variable (h : a.Reachable permitted) (h' : b.Reachable permitted') (alike : a.Alike b)

include h h' alike

theorem value?_of_alike (here : group ∈ Group.root :: a.activeGroups)
    (other : group ≠ .smartnode) (id : String) : a.value? group id = b.value? group id :=
  value?_congr h h' other (alike.texts group here id)

theorem flag_of_alike (here : group ∈ Group.root :: a.activeGroups) (other : group ≠ .smartnode)
    (id : String) : a.flag group id = b.flag group id := by
  rw [flag, flag, value?_of_alike h h' alike here other]

theorem port_of_alike (here : group ∈ Group.root :: a.activeGroups) (other : group ≠ .smartnode)
    (id : String) : a.port group id = b.port group id := by
  rw [port, port, value?_of_alike h h' alike here other]

/-- What is selected is said by the top-level settings and the switch of the addon. -/
theorem sameSelection_of_alike : a.SameSelection b := by
  have named (α : Type) [Named α] (id : String) : a.named? α .root id = b.named? α .root id := by
    rw [named?, named?, value?_of_alike h h' alike List.mem_cons_self (by decide)]
  have flag (id : String) : a.flag .root id = b.flag .root id :=
    flag_of_alike h h' alike List.mem_cons_self (by decide) id
  have addon : a.value? .graffitiWall "enabled" = b.value? .graffitiWall "enabled" :=
    value?_congr h h' (by decide) alike.addon
  exact
    { isNative := alike.isNative
      executionMode := by rw [executionMode, executionMode, named]
      executionClient := by rw [executionClient, executionClient, named]
      usesFallback := flag _
      fallbackMode := by rw [fallbackMode, fallbackMode, named]
      fallbackClient := by rw [fallbackClient, fallbackClient, named]
      consensusMode := by rw [consensusMode, consensusMode, named]
      consensusClient := by rw [consensusClient, consensusClient, named]
      externalConsensusClient := by rw [externalConsensusClient, externalConsensusClient, named]
      usesMetrics := flag _
      usesBitfly := flag _
      usesGraffitiWall := by
        rw [usesGraffitiWall, usesGraffitiWall, Configuration.flag, Configuration.flag, addon] }

/-! ### The environment -/

theorem groupWrites_of_alike (here : group ∈ Group.root :: a.activeGroups) :
    a.groupWrites group = b.groupWrites group :=
  groupWrites_congr h.outline_eq h'.outline_eq (alike.texts group here)

theorem endpointWrites_of_alike (here : group ∈ Group.root :: a.activeGroups)
    (other : group ≠ .smartnode) (isFallback : Bool) (host : String) (client : ExecutionClient)
    (listStart : String) :
    a.endpointWrites group isFallback host client listStart =
      b.endpointWrites group isFallback host client listStart := by
  unfold endpointWrites
  rw [port_of_alike h h' alike here other, port_of_alike h h' alike here other,
    flag_of_alike h h' alike here other]

theorem executionWrites_of_alike (native : a.isNative = false) :
    a.executionWrites = b.executionWrites := by
  have same := sameSelection_of_alike h h' alike
  have here {g : Group} (hg : g ∈ a.executionGroups) : g ∈ Group.root :: a.activeGroups := by
    rw [activeGroups_eq native]
    simp [hg]
  unfold executionWrites
  rw [← same.executionMode, ← same.executionClient]
  cases mode : a.executionMode with
  | locallyManaged =>
    have common : Group.executionCommon ∈ a.executionGroups := by simp [executionGroups_eq, mode]
    have own : a.executionClient.group ∈ a.executionGroups := by simp [executionGroups_eq, mode]
    simp only [endpointWrites_of_alike h h' alike (here common) (by decide),
      groupWrites_of_alike h h' alike (here common), groupWrites_of_alike h h' alike (here own)]
  | externallyManaged =>
    have own : Group.externalExecution ∈ a.executionGroups := by simp [executionGroups_eq, mode]
    simp only [groupWrites_of_alike h h' alike (here own)]

/-- What a group shows that may be missing. -/
theorem optionWrites_of_alike {group? : Option Group}
    (here : ∀ g ∈ group?, g ∈ Group.root :: a.activeGroups) :
    (group?.map a.groupWrites).getD [] = (group?.map b.groupWrites).getD [] := by
  cases group? with
  | none => rfl
  | some g => exact groupWrites_of_alike h h' alike (here g rfl)

theorem fallbackWrites_of_alike (native : a.isNative = false) :
    a.fallbackWrites = b.fallbackWrites := by
  have same := sameSelection_of_alike h h' alike
  have here {g : Group} (hg : g ∈ a.fallbackGroups) : g ∈ Group.root :: a.activeGroups := by
    rw [activeGroups_eq native]
    simp [hg]
  unfold fallbackWrites
  rw [← same.usesFallback, ← same.fallbackMode, ← same.fallbackClient]
  cases used : a.usesFallback with
  | false => rfl
  | true =>
    cases mode : a.fallbackMode with
    | locallyManaged =>
      have common : Group.fallbackExecutionCommon ∈ a.fallbackGroups := by
        simp [fallbackGroups_eq, used, mode]
      have own (g : Group) (hg : g ∈ a.fallbackClient.fallbackGroup?) : g ∈ a.fallbackGroups := by
        simp [fallbackGroups_eq, used, mode, Option.mem_def.1 hg]
      simp only [endpointWrites_of_alike h h' alike (here common) (by decide),
        groupWrites_of_alike h h' alike (here common),
        optionWrites_of_alike h h' alike fun g hg => here (own g hg)]
    | externallyManaged =>
      have own : Group.fallbackExternalExecution ∈ a.fallbackGroups := by
        simp [fallbackGroups_eq, used, mode]
      simp only [groupWrites_of_alike h h' alike (here own)]

theorem beaconPorts_of_alike {client : ConsensusClient}
    (common : Group.consensusCommon ∈ Group.root :: a.activeGroups)
    (own : client.group ∈ Group.root :: a.activeGroups) :
    a.beaconPorts client = b.beaconPorts client := by
  unfold beaconPorts
  rw [port_of_alike h h' alike common (by decide), flag_of_alike h h' alike common (by decide)]
  by_cases prysm : client = .prysm
  · -- Only then are the settings of Prysm read.
    subst prysm
    have own : Group.prysm ∈ Group.root :: a.activeGroups := own
    rw [port_of_alike h h' alike own (by decide), flag_of_alike h h' alike own (by decide)]
  · simp [prysm]

theorem consensusWrites_of_alike (native : a.isNative = false) :
    a.consensusWrites = b.consensusWrites := by
  have same := sameSelection_of_alike h h' alike
  have here {g : Group} (hg : g ∈ a.consensusGroups) := mem_activeGroups_of_consensus native hg
  unfold consensusWrites
  rw [← same.consensusMode, ← same.consensusClient, ← same.externalConsensusClient]
  cases mode : a.consensusMode with
  | locallyManaged =>
    have common : Group.consensusCommon ∈ a.consensusGroups := by simp [consensusGroups_eq, mode]
    have own : a.consensusClient.group ∈ a.consensusGroups := by simp [consensusGroups_eq, mode]
    have rpc (prysm : a.consensusClient = .prysm) :
        a.port .prysm "rpcPort" = b.port .prysm "rpcPort" := by
      rw [prysm] at own
      exact port_of_alike h h' alike (here own) (by decide) _
    simp only [port_of_alike h h' alike (here common) (by decide),
      beaconPorts_of_alike h h' alike (here common) (here own),
      groupWrites_of_alike h h' alike (here common), groupWrites_of_alike h h' alike (here own)]
    by_cases prysm : a.consensusClient = .prysm
    · rw [if_pos prysm, if_pos prysm, rpc prysm]
    · rw [if_neg prysm, if_neg prysm]
  | externallyManaged =>
    have own (g : Group) (hg : g ∈ a.externalConsensusClient.externalGroup?) :
        g ∈ a.consensusGroups := by
      simp [consensusGroups_eq, mode, Option.mem_def.1 hg]
    simp only [optionWrites_of_alike h h' alike fun g hg => here (own g hg)]

theorem metricsWrites_of_alike (native : a.isNative = false) :
    a.metricsWrites = b.metricsWrites := by
  unfold metricsWrites
  rw [← (sameSelection_of_alike h h' alike).usesMetrics]
  cases used : a.usesMetrics with
  | false => rfl
  | true =>
    have here {g : Group} (hg : g ∈ [Group.grafana, .prometheus, .exporter]) :
        g ∈ Group.root :: a.activeGroups := by
      rw [activeGroups_eq native, if_pos used]
      simp only [List.mem_cons, List.mem_append, hg, true_or, or_true]
    have exporter := here (g := .exporter) (by simp)
    have prometheus := here (g := .prometheus) (by simp)
    have grafana := here (g := .grafana) (by simp)
    simp only [flagEntry, groupWrites_of_alike h h' alike exporter,
      groupWrites_of_alike h h' alike prometheus, groupWrites_of_alike h h' alike grafana,
      flag_of_alike h h' alike exporter (by decide),
      flag_of_alike h h' alike prometheus (by decide),
      port_of_alike h h' alike prometheus (by decide), alike.texts _ exporter "additionalFlags",
      alike.texts _ prometheus "additionalFlags"]

theorem graffitiWallWrites_of_alike (native : a.isNative = false) :
    a.graffitiWallWrites = b.graffitiWallWrites := by
  unfold graffitiWallWrites
  rw [← (sameSelection_of_alike h h' alike).usesGraffitiWall]
  cases used : a.usesGraffitiWall with
  | true =>
    have here : Group.graffitiWall ∈ Group.root :: a.activeGroups := by
      rw [activeGroups_eq native]
      simp [used]
    exact groupWrites_of_alike h h' alike here
  | false =>
    obtain ⟨p, found, shown⟩ := exists_enabled h.outline_eq
    obtain ⟨q, found', shown'⟩ := exists_enabled h'.outline_eq
    have text : p.text = q.text := by
      have same := alike.addon
      rw [Configuration.text, Configuration.text, found, found'] at same
      exact same
    rw [found, found']
    show p.writes = q.writes
    rw [Parameter.writes, Parameter.writes, shown, shown', text]

theorem writes_of_alike : a.writes = b.writes := by
  have same := sameSelection_of_alike h h' alike
  have common : a.commonWrites = b.commonWrites :=
    commonWrites_congr h.outline_eq h'.outline_eq alike.directory
      (alike.texts _ (List.mem_cons_of_mem _ (smartnode_mem_activeGroups a)))
      (alike.texts _ List.mem_cons_self)
  show a.commonWrites ++ _ = b.commonWrites ++ _
  rw [common, ← alike.isNative]
  cases native : a.isNative with
  | true =>
    have here : Group.native ∈ Group.root :: a.activeGroups := by simp [activeGroups, native]
    rw [if_pos rfl, if_pos rfl, groupWrites_of_alike h h' alike here]
  | false =>
    have bitfly : (if a.usesBitfly then a.groupWrites .bitflyNodeMetrics else []) =
        if b.usesBitfly then b.groupWrites .bitflyNodeMetrics else [] := by
      rw [← same.usesBitfly]
      cases used : a.usesBitfly with
      | false => rfl
      | true =>
        have here : Group.bitflyNodeMetrics ∈ Group.root :: a.activeGroups := by
          rw [activeGroups_eq native]
          simp [used]
        exact groupWrites_of_alike h h' alike here
    rw [if_neg Bool.false_ne_true, if_neg Bool.false_ne_true,
      executionWrites_of_alike h h' alike native, fallbackWrites_of_alike h h' alike native,
      consensusWrites_of_alike h h' alike native, metricsWrites_of_alike h h' alike native, bitfly,
      graffitiWallWrites_of_alike h h' alike native]

theorem environment_of_alike : a.environment = b.environment := by
  rw [environment, environment, writes_of_alike h h' alike]

/-! ### Problems -/

theorem delayProblems_of_alike : a.delayProblems = b.delayProblems := by
  unfold delayProblems reconnectDelay
  rw [(sameSelection_of_alike h h' alike).usesFallback, alike.texts .root List.mem_cons_self]

theorem blankProblems_of_alike : a.blankProblems = b.blankProblems := by
  have same := sameSelection_of_alike h h' alike
  have kinds (g : Group) (p : Parameter) (hp : p ∈ a.parameters g) : p.value.kind = p.kind :=
    h.kind_eq (mem_parameters.1 hp)
  have kinds' (g : Group) (p : Parameter) (hp : p ∈ b.parameters g) : p.value.kind = p.kind :=
    h'.kind_eq (mem_parameters.1 hp)
  have blanks (g : Group) (here : g ∈ Group.root :: a.activeGroups) (ignored : List String)
      (told : String → String) :
      (((a.parameters g).filter fun p => lacksText p && !ignored.contains p.id).map
          fun p => told p.name) =
        ((b.parameters g).filter fun p => lacksText p && !ignored.contains p.id).map
          fun p => told p.name := by
    rw [blanks_eq_sheet (kinds g), blanks_eq_sheet (kinds' g),
      sheet_congr h.outline_eq h'.outline_eq (alike.texts g here)]
  unfold blankProblems
  rw [← same.activeGroups]
  refine congrArg₂ (· ++ ·) ?_ (List.flatMap_congr fun g hg => ?_)
  · simpa using blanks .root List.mem_cons_self [] fun name => "[" ++ name ++ "] cannot be blank."
  · rw [← same.ignored]
    exact blanks g (List.mem_cons_of_mem _ hg) (a.ignored g)
      fun name => "[" ++ g.title ++ " - " ++ name ++ "] cannot be blank."

end Alike

/-- In a run that edits no table a group's parameters are declared as in the catalog. -/
theorem parameters_declarations {base : String} (declared : c.declarations = Catalog.all base)
    (group : Group) :
    (c.parameters group).map (·.toDeclaration) = Catalog.declarations base group := by
  rw [← Catalog.filter_flatMap_map (by decide) (Group.mem_all group) (Catalog.declarations base)]
  show _ = ((Catalog.all base).filter (·.1 = group)).map (·.2)
  rw [← declared, declarations, parameters, List.filter_map, List.map_map, List.map_map]
  rfl

/-- What is offered for a top-level setting. -/
theorem choices_root (h : c.Reachable Edit.Relocates) (id : String) :
    (c.find? .root id).map (·.choices) = (Catalog.topLevel.find? (·.id = id)).map (·.choices) := by
  obtain ⟨base, declared⟩ := h.declarations_eq
  have root : (c.parameters .root).map (·.toDeclaration) = Catalog.topLevel :=
    parameters_declarations declared .root
  rw [← root, List.find?_map, Option.map_map]
  rfl

section Catalog

variable (h : a.Reachable Edit.Relocates) (h' : b.Reachable Edit.Relocates) (alike : a.Alike b)

include h h' alike

theorem incompatible_of_alike : a.incompatible = b.incompatible := by
  have same := sameSelection_of_alike h h' alike
  unfold incompatible
  rw [h.profiles_eq, h'.profiles_eq, same.executionMode, same.executionClient, same.fallbackGroup?,
    same.consensusMode]
  simp only [choices_root h, choices_root h']

theorem pairingProblems_of_alike : a.pairingProblems = b.pairingProblems := by
  have same := sameSelection_of_alike h h' alike
  unfold pairingProblems
  rw [alike.isNative, same.consensusMode, same.consensusClient, incompatible_of_alike h h' alike,
    alike.texts .root List.mem_cons_self, alike.texts .root List.mem_cons_self]

theorem problems_of_alike : a.problems = b.problems := by
  rw [problems, problems, pairingProblems_of_alike h h' alike, delayProblems_of_alike h h' alike,
    blankProblems_of_alike h h' alike]

end Catalog

/-! ## Answers -/

/-- A text of the selected consensus client is read from a group in use. -/
theorem text_selected_of_alike (alike : a.Alike b) {selected : SelectedConsensus}
    (is : a.selectedConsensus = .ok selected) (id : String) :
    a.text selected.group id = b.text selected.group id := by
  obtain ⟨native, own, -⟩ := mem_consensusGroups_of_selected is
  exact alike.texts _ (mem_activeGroups_of_consensus native own) id

section Answers

variable (h : a.Reachable permitted) (h' : b.Reachable permitted') (alike : a.Alike b)

include h h' alike

theorem validatorImage_of_alike : a.validatorImage = b.validatorImage := by
  unfold validatorImage
  rw [← (sameSelection_of_alike h h' alike).selectedConsensus]
  cases is : a.selectedConsensus with
  | error e => rfl
  | ok selected =>
    show Except.ok (a.imageOf selected) = .ok (b.imageOf selected)
    rw [imageOf, imageOf, text_selected_of_alike alike is]

theorem externalAddress?_of_alike : a.externalAddress? = b.externalAddress? := by
  rw [externalAddress?, externalAddress?, externalConsensus?_eq, externalConsensus?_eq,
    ← (sameSelection_of_alike h h' alike).selectedConsensus]
  cases is : a.selectedConsensus with
  | error e => rfl
  | ok selected =>
    show (if selected.mode = .externallyManaged then some selected else none).map _ =
      (if selected.mode = .externallyManaged then some selected else none).map _
    by_cases external : selected.mode = .externallyManaged
    · rw [if_pos external, Option.map_some, Option.map_some, text_selected_of_alike alike is]
    · rw [if_neg external, Option.map_none, Option.map_none]

theorem detectsDoppelgangers_of_alike : a.detectsDoppelgangers = b.detectsDoppelgangers := by
  rw [detectsDoppelgangers_eq, detectsDoppelgangers_eq,
    ← (sameSelection_of_alike h h' alike).selectedConsensus]
  cases is : a.selectedConsensus with
  | error e => rfl
  | ok selected =>
    obtain ⟨native, own, common⟩ := mem_consensusGroups_of_selected is
    have flag {g : Group} (hg : g ∈ a.consensusGroups) (id : String) :
        a.flag g id = b.flag g id := by
      have other : g ≠ .smartnode := by
        rintro rfl
        simpa using consensusGroups_subset a hg
      exact flag_of_alike h h' alike (mem_activeGroups_of_consensus native hg) other id
    simp only [bind, Except.bind, pure, Except.pure]
    cases mode : selected.mode with
    | locallyManaged => simp only [flag (common mode)]
    | externallyManaged => simp only [flag own]

end Answers

/-- Settings out of use do not matter. Two configurations of one place and one way of running that
hold the same texts in the top-level group, in all groups that one of them uses and in the switch of
the addon use the same groups, show the same environment, report the same problems and give the same
answers about the selected clients, whatever the other groups hold. -/
theorem Reachable.answers_of_alike (h : a.Reachable Edit.Relocates)
    (h' : b.Reachable Edit.Relocates) (alike : a.Alike b) :
    a.activeGroups = b.activeGroups ∧
    a.environment = b.environment ∧
    a.problems = b.problems ∧
    a.selectedConsensus = b.selectedConsensus ∧
    a.validatorImage = b.validatorImage ∧
    a.externalAddress? = b.externalAddress? ∧
    a.detectsDoppelgangers = b.detectsDoppelgangers ∧
    a.logInterval = b.logInterval := by
  have same := sameSelection_of_alike h h' alike
  have interval : a.logInterval = b.logInterval := by
    rw [logInterval, logInterval, h.profiles_eq, h'.profiles_eq, same.executionGroup?]
  exact ⟨same.activeGroups, environment_of_alike h h' alike, problems_of_alike h h' alike,
    same.selectedConsensus, validatorImage_of_alike h h' alike,
    externalAddress?_of_alike h h' alike, detectsDoppelgangers_of_alike h h' alike, interval⟩

/-- While Nimbus is selected nothing shows of a port that Prysm would open. -/
theorem answers_of_alike_prysm : ∃ a b : Configuration, a.Reachable Edit.Relocates ∧
    b.Reachable Edit.Relocates ∧ a.Alike b ∧
    a.flag .prysm "openRpcPort" = false ∧ b.flag .prysm "openRpcPort" = true ∧
    a.environment = b.environment ∧ a.problems = b.problems ∧
    a.validatorImage = b.validatorImage := by
  let opens : Operation := .assignText .prysm "openRpcPort" "true"
  obtain ⟨a, reached, directory, isNative, texts, addon, closed, opened⟩ :=
    exists_reachable Edit.Relocates "/srv/node" false (fun _ h => h)
      (P := fun a => a.directory = (a.after opens).directory ∧
        a.isNative = (a.after opens).isNative ∧
        (∀ g ∈ Group.root :: a.activeGroups, a.texts g = (a.after opens).texts g) ∧
        a.text .graffitiWall "enabled" = (a.after opens).text .graffitiWall "enabled" ∧
        a.flag .prysm "openRpcPort" = false ∧ (a.after opens).flag .prysm "openRpcPort" = true)
      (by decide +kernel)
  have alike : a.Alike (a.after opens) :=
    { directory
      isNative
      texts := fun g hg => sharesTexts_of_texts (texts g hg)
      addon }
  have reached' : (a.after opens).Reachable Edit.Relocates := reached.operation opens
  obtain ⟨-, environment, problems, -, image, -⟩ := reached.answers_of_alike reached' alike
  exact ⟨a, a.after opens, reached, reached', alike, closed, opened, environment, problems, image⟩

end Configuration
end NodeSettings
