import NodeSettings.Proofs.Variables

/-!
What a configuration shows in its environment: `Reachable.environment_shows`. The groups in use are
chosen once for checks and lists, and once more when the environment is written; both agree. Beside
the variables of their settings there are those that are derived: `Derives`.
-/

namespace NodeSettings.Configuration

variable {c : Configuration} {group : Group} {name : String} {w : Write}

/-! ## Derived variables -/

/-- The primary execution client runs in the stack. -/
def RunsExecution (c : Configuration) : Prop :=
  c.isNative = false ∧ c.executionMode = .locallyManaged

/-- A fallback execution client runs in the stack. -/
def RunsFallback (c : Configuration) : Prop :=
  c.isNative = false ∧ c.usesFallback = true ∧ c.fallbackMode = .locallyManaged

/-- The consensus client runs in the stack. -/
def RunsConsensus (c : Configuration) : Prop :=
  c.isNative = false ∧ c.consensusMode = .locallyManaged

/-- The services for metrics run in the stack. -/
def RunsMetrics (c : Configuration) : Prop := c.isNative = false ∧ c.usesMetrics = true

/-- The variable is shown with the address of some host. -/
def ShowsHost (c : Configuration) (name : String) : Prop :=
  ∃ address host, c.environment.get? name = some address ∧ Endpoint.host? address = some host

/-- The variables that are set apart from those of the groups in use, and when each of them is. -/
inductive Derives (c : Configuration) : String → Prop
  | image : c.Derives "SMARTNODE_IMAGE"
  | directory : c.Derives "ROCKETPOOL_FOLDER"
  | executionClient : c.isNative = false → c.Derives "EC_CLIENT"
  | executionHttp : c.RunsExecution → c.Derives "EC_HTTP_ENDPOINT"
  | executionWs : c.RunsExecution → c.Derives "EC_WS_ENDPOINT"
  | executionPorts : c.RunsExecution → c.flag .executionCommon "openRpcPorts" = true →
      c.Derives "EC_OPEN_API_PORTS"
  | stopSignal : c.RunsExecution → c.Derives "EC_STOP_SIGNAL"
  | executionHost : c.isNative = false → c.ShowsHost "EC_HTTP_ENDPOINT" → c.Derives "EC_HOSTNAME"
  | fallbackClient : c.isNative = false → c.Derives "FALLBACK_EC_CLIENT"
  | fallbackHttp : c.RunsFallback → c.Derives "FALLBACK_EC_HTTP_ENDPOINT"
  | fallbackWs : c.RunsFallback → c.Derives "FALLBACK_EC_WS_ENDPOINT"
  | fallbackPorts : c.RunsFallback → c.flag .fallbackExecutionCommon "openRpcPorts" = true →
      c.Derives "FALLBACK_EC_OPEN_API_PORTS"
  | consensusClient : c.isNative = false → c.Derives "CC_CLIENT"
  | consensusApi : c.RunsConsensus → c.Derives "CC_API_ENDPOINT"
  | beaconPorts : c.RunsConsensus → c.Derives "BN_OPEN_PORTS"
  | consensusRpc : c.RunsConsensus → c.consensusClient = .prysm → c.Derives "CC_RPC_ENDPOINT"
  | consensusHost : c.isNative = false → c.ShowsHost "CC_API_ENDPOINT" → c.Derives "CC_HOSTNAME"
  | rootFsCommand : c.RunsMetrics → c.flag .exporter "enableRootFs" = true →
      c.Derives "EXPORTER_ROOTFS_COMMAND"
  | rootFsVolume : c.RunsMetrics → c.flag .exporter "enableRootFs" = true →
      c.Derives "EXPORTER_ROOTFS_VOLUME"
  | prometheusPorts : c.RunsMetrics → c.flag .prometheus "openPort" = true →
      c.Derives "PROMETHEUS_OPEN_PORTS"
  | exporterFlags : c.RunsMetrics → c.text .exporter "additionalFlags" ≠ "" →
      c.Derives "EXPORTER_ADDITIONAL_FLAGS"
  | prometheusFlags : c.RunsMetrics → c.text .prometheus "additionalFlags" ≠ "" →
      c.Derives "PROMETHEUS_ADDITIONAL_FLAGS"
  | graffitiWall : c.isNative = false → c.Derives "ADDON_GWW_ENABLED"

/-- A write is one of a group among some, or to a derived variable. -/
def Explains (c : Configuration) (groups : List Group) (w : Write) : Prop :=
  (∃ g ∈ groups, w ∈ c.groupWrites g) ∨ c.Derives w.1

theorem host_of_withHost {address host : String} {writes : List Write}
    (h : w ∈ withHost address host writes) : w ∈ writes ∨
      ∃ a b, (address, a) ∈ writes ∧ Endpoint.host? a = some b ∧ w = (host, b) := by
  rcases List.mem_append.1 h with h | h
  · exact .inl h
  · obtain ⟨b, named, rfl⟩ := List.mem_map.1 h
    obtain ⟨a, shown, named⟩ := Option.bind_eq_some_iff.1 (Option.mem_toList.1 named)
    exact .inr ⟨a, b, Table.mem_of_get?_ofList shown, named, rfl⟩

/-- The address may be looked up among all writes of the client: its host is not one. -/
theorem exists_host {address host a b : String} {writes : List Write}
    (unique : ((withHost address host writes).map (·.1)).Nodup) (other : address ≠ host)
    (shown : (address, a) ∈ withHost address host writes) (named : Endpoint.host? a = some b) :
    host ∈ (withHost address host writes).map (·.1) := by
  have own : (writes.map (·.1)).Nodup := by
    rw [withHost, List.map_append] at unique
    exact unique.of_append_left
  rcases host_of_withHost shown with shown | ⟨_, _, -, -, same⟩
  · refine List.mem_map_of_mem (a := (host, b)) (List.mem_append_right writes ?_)
    simp [Table.get?_ofList own shown, named]
  · exact absurd (congrArg (·.1) same) other

theorem mem_names_endpointWrites (c : Configuration) (common : Group) (isFallback : Bool)
    (host : String) (client : ExecutionClient) (listStart : String) :
    name ∈ (c.endpointWrites common isFallback host client listStart).map (·.1) ↔
      name = Catalog.variableName isFallback "EC_HTTP_ENDPOINT" ∨
      name = Catalog.variableName isFallback "EC_WS_ENDPOINT" ∨
      (c.flag common "openRpcPorts" = true ∧
        name = Catalog.variableName isFallback "EC_OPEN_API_PORTS") := by
  unfold endpointWrites
  split
  · next opens => simp [opens]
  · next closed => simp [closed]

theorem mem_parts_execution (native : c.isNative = false) :
    (c.executionWrites, executionNames) ∈ c.parts := by
  simp [parts, native]

theorem explains_executionWrites (known : c.outline = Catalog.outline)
    (native : c.isNative = false) (hw : w ∈ c.executionWrites) :
    c.Explains c.executionGroups w := by
  rcases host_of_withHost hw with hw | ⟨a, b, shown, named, rfl⟩
  · cases mode : c.executionMode with
    | locallyManaged =>
      have runs : c.RunsExecution := ⟨native, mode⟩
      rw [mode] at hw
      simp only [List.mem_append, List.mem_singleton] at hw
      rcases hw with (((rfl | hw) | hw) | hw) | rfl
      · exact .inr (.executionClient native)
      · rcases (c.mem_names_endpointWrites ..).1 (List.mem_map_of_mem hw) with h | h | ⟨opens, h⟩
        · exact .inr (h ▸ .executionHttp runs)
        · exact .inr (h ▸ .executionWs runs)
        · exact .inr (h ▸ .executionPorts runs opens)
      · exact .inl ⟨.executionCommon, by simp [executionGroups_eq, mode], hw⟩
      · exact .inl ⟨c.executionClient.group, by simp [executionGroups_eq, mode], hw⟩
      · exact .inr (.stopSignal runs)
    | externallyManaged =>
      rw [mode] at hw
      rcases List.mem_cons.1 hw with rfl | hw
      · exact .inr (.executionClient native)
      · exact .inl ⟨.externalExecution, by simp [executionGroups_eq, mode], hw⟩
  · refine .inr (.executionHost native ⟨a, b, (get?_environment known).2 ?_, named⟩)
    exact part_subset (mem_parts_execution native) (List.mem_append_left _ shown)

theorem explains_fallbackWrites (native : c.isNative = false) (hw : w ∈ c.fallbackWrites) :
    c.Explains c.fallbackGroups w := by
  rcases List.mem_cons.1 hw with rfl | hw
  · exact .inr (.fallbackClient native)
  · split at hw
    · next used =>
      cases mode : c.fallbackMode with
      | locallyManaged =>
        have runs : c.RunsFallback := ⟨native, used, mode⟩
        rw [mode, optionWrites_eq] at hw
        simp only [List.mem_append] at hw
        rcases hw with (hw | hw) | hw
        · rcases (c.mem_names_endpointWrites ..).1 (List.mem_map_of_mem hw) with h | h | ⟨opens, h⟩
          · exact .inr (h ▸ .fallbackHttp runs)
          · exact .inr (h ▸ .fallbackWs runs)
          · exact .inr (h ▸ .fallbackPorts runs opens)
        · exact .inl ⟨.fallbackExecutionCommon, by simp [fallbackGroups_eq, used, mode], hw⟩
        · obtain ⟨g, own, hw⟩ := List.mem_flatMap.1 hw
          exact .inl ⟨g, by simp [fallbackGroups_eq, used, mode, Option.mem_toList.1 own], hw⟩
      | externallyManaged =>
        rw [mode] at hw
        exact .inl ⟨.fallbackExternalExecution, by simp [fallbackGroups_eq, used, mode], hw⟩
    · cases hw

theorem mem_parts_consensus (native : c.isNative = false) :
    (c.consensusWrites, consensusNames) ∈ c.parts := by
  simp [parts, native]

theorem explains_consensusWrites (known : c.outline = Catalog.outline)
    (native : c.isNative = false) (hw : w ∈ c.consensusWrites) :
    c.Explains c.consensusGroups w := by
  rcases host_of_withHost hw with hw | ⟨a, b, shown, named, rfl⟩
  · cases mode : c.consensusMode with
    | locallyManaged =>
      have runs : c.RunsConsensus := ⟨native, mode⟩
      rw [mode] at hw
      simp only [List.mem_append, List.mem_cons, List.not_mem_nil, or_false] at hw
      rcases hw with (((rfl | rfl | rfl) | hw) | hw) | hw
      · exact .inr (.consensusClient native)
      · exact .inr (.consensusApi runs)
      · exact .inr (.beaconPorts runs)
      · exact .inl ⟨.consensusCommon, by simp [consensusGroups_eq, mode], hw⟩
      · exact .inl ⟨c.consensusClient.group, by simp [consensusGroups_eq, mode], hw⟩
      · split at hw
        · next prysm =>
          obtain rfl := List.mem_singleton.1 hw
          exact .inr (.consensusRpc runs prysm)
        · cases hw
    | externallyManaged =>
      rw [mode] at hw
      simp only [optionWrites_eq] at hw
      rcases List.mem_cons.1 hw with rfl | hw
      · exact .inr (.consensusClient native)
      · obtain ⟨g, own, hw⟩ := List.mem_flatMap.1 hw
        exact .inl ⟨g, by simp [consensusGroups_eq, mode, Option.mem_toList.1 own], hw⟩
  · refine .inr (.consensusHost native ⟨a, b, (get?_environment known).2 ?_, named⟩)
    exact part_subset (mem_parts_consensus native) (List.mem_append_left _ shown)

theorem mem_flagEntry {shownAs : String} (hw : w ∈ c.flagEntry group shownAs) :
    c.text group "additionalFlags" ≠ "" ∧ w.1 = shownAs := by
  unfold flagEntry at hw
  simp only at hw
  split at hw
  · cases hw
  · next some =>
    obtain rfl := List.mem_singleton.1 hw
    exact ⟨fun none => some (by simp [none]), rfl⟩

theorem explains_metricsWrites (native : c.isNative = false) (hw : w ∈ c.metricsWrites) :
    c.Explains (if c.usesMetrics then [.grafana, .prometheus, .exporter] else []) w := by
  unfold metricsWrites at hw
  split at hw
  · next used =>
    have runs : c.RunsMetrics := ⟨native, used⟩
    rw [if_pos used]
    simp only [List.mem_append] at hw
    rcases hw with (((((hw | hw) | hw) | hw) | hw) | hw) | hw
    · exact .inl ⟨.exporter, by simp, hw⟩
    · exact .inl ⟨.prometheus, by simp, hw⟩
    · exact .inl ⟨.grafana, by simp, hw⟩
    · split at hw
      · next opens =>
        rcases List.mem_cons.1 hw with rfl | hw
        · exact .inr (.rootFsCommand runs opens)
        · obtain rfl := List.mem_singleton.1 hw
          exact .inr (.rootFsVolume runs opens)
      · cases hw
    · split at hw
      · next opens =>
        obtain rfl := List.mem_singleton.1 hw
        exact .inr (.prometheusPorts runs opens)
      · cases hw
    · obtain ⟨flags, h⟩ := mem_flagEntry hw
      exact .inr (h ▸ .exporterFlags runs flags)
    · obtain ⟨flags, h⟩ := mem_flagEntry hw
      exact .inr (h ▸ .prometheusFlags runs flags)
  · cases hw

theorem explains_graffitiWallWrites (known : c.outline = Catalog.outline)
    (native : c.isNative = false) (hw : w ∈ c.graffitiWallWrites) :
    c.Explains (if c.usesGraffitiWall then [.graffitiWall] else []) w := by
  unfold graffitiWallWrites at hw
  split at hw
  · next used => exact .inl ⟨.graffitiWall, by simp [used], hw⟩
  · obtain ⟨p, found, shown⟩ := exists_enabled known
    rw [found, Option.map_some, Option.getD_some, Parameter.writes, shown] at hw
    obtain rfl := List.mem_singleton.1 hw
    exact .inr (.graffitiWall native)

theorem Explains.mono {groups more : List Group} (h : c.Explains groups w)
    (sub : groups ⊆ more) : c.Explains more w :=
  h.imp_left fun ⟨g, hg, hw⟩ => ⟨g, sub hg, hw⟩

theorem activeGroups_eq (native : c.isNative = false) :
    c.activeGroups = [.smartnode] ++ c.executionGroups ++ c.fallbackGroups ++ c.consensusGroups
      ++ (if c.usesMetrics then [.grafana, .prometheus, .exporter] else [])
      ++ (if c.usesBitfly then [.bitflyNodeMetrics] else [])
      ++ (if c.usesGraffitiWall then [.graffitiWall] else []) := by
  simp [activeGroups, native]

/-- Every write has a reason. -/
theorem explains_writes (known : c.outline = Catalog.outline) (hw : w ∈ c.writes) :
    c.Explains (.root :: c.activeGroups) w := by
  unfold writes at hw
  rcases List.mem_append.1 hw with hw | hw
  · simp only [List.mem_append, List.mem_cons, List.not_mem_nil, or_false] at hw
    rcases hw with ((rfl | rfl) | hw) | hw
    · exact .inr .image
    · exact .inr .directory
    · exact .inl ⟨.smartnode, by unfold activeGroups; split <;> simp, hw⟩
    · exact .inl ⟨.root, List.mem_cons_self, hw⟩
  · cases native : c.isNative with
    | true =>
      rw [native, if_pos rfl] at hw
      exact .inl ⟨.native, by simp [activeGroups, native], hw⟩
    | false =>
      have active {groups : List Group} (h : c.Explains groups w)
          (sub : ∀ g ∈ groups, g ∈ c.activeGroups) : c.Explains (.root :: c.activeGroups) w :=
        h.mono fun g hg => List.mem_cons_of_mem .root (sub g hg)
      rw [native, if_neg Bool.false_ne_true] at hw
      rw [activeGroups_eq native] at active ⊢
      simp only [List.mem_append] at hw
      rcases hw with ((((hw | hw) | hw) | hw) | hw) | hw
      · exact active (explains_executionWrites known native hw) fun g hg => by simp [hg]
      · exact active (explains_fallbackWrites native hw) fun g hg => by simp [hg]
      · exact active (explains_consensusWrites known native hw) fun g hg => by simp [hg]
      · exact active (explains_metricsWrites native hw) fun g hg => by
          simp only [List.mem_append, hg, true_or, or_true]
      · split at hw
        · next used => exact .inl ⟨.bitflyNodeMetrics, by simp [used], hw⟩
        · cases hw
      · exact active (explains_graffitiWallWrites known native hw) fun g hg => by
          simp only [List.mem_append, hg, or_true]

/-! ## Nothing is left out -/

theorem groupWrites_subset_execution (hg : group ∈ c.executionGroups) :
    c.groupWrites group ⊆ c.executionWrites := by
  intro w hw
  refine List.mem_append_left _ ?_
  rw [executionGroups_eq] at hg
  cases mode : c.executionMode with
  | locallyManaged =>
    rw [mode] at hg
    simp only [List.mem_cons, List.not_mem_nil, or_false] at hg
    rcases hg with rfl | rfl <;> simp [hw]
  | externallyManaged =>
    rw [mode] at hg
    obtain rfl := List.mem_singleton.1 hg
    exact List.mem_cons_of_mem _ hw

theorem groupWrites_subset_fallback (hg : group ∈ c.fallbackGroups) :
    c.groupWrites group ⊆ c.fallbackWrites := by
  intro w hw
  refine List.mem_cons_of_mem _ ?_
  rw [fallbackGroups_eq] at hg
  split at hg
  · next used =>
    rw [if_pos used]
    cases mode : c.fallbackMode with
    | locallyManaged =>
      rw [mode] at hg
      simp only [optionWrites_eq, List.mem_append, List.mem_flatMap]
      rcases List.mem_cons.1 hg with rfl | own
      · exact .inl (.inr hw)
      · exact .inr ⟨group, own, hw⟩
    | externallyManaged =>
      rw [mode] at hg
      obtain rfl := List.mem_singleton.1 hg
      exact hw
  · cases hg

theorem groupWrites_subset_consensus (hg : group ∈ c.consensusGroups) :
    c.groupWrites group ⊆ c.consensusWrites := by
  intro w hw
  refine List.mem_append_left _ ?_
  rw [consensusGroups_eq] at hg
  cases mode : c.consensusMode with
  | locallyManaged =>
    rw [mode] at hg
    simp only [List.mem_cons, List.not_mem_nil, or_false] at hg
    rcases hg with rfl | rfl <;> simp [hw]
  | externallyManaged =>
    rw [mode] at hg
    simp only [optionWrites_eq, List.mem_cons, List.mem_flatMap]
    exact .inr ⟨group, hg, hw⟩

/-- All that a group in use shows is written. -/
theorem groupWrites_subset (hg : group ∈ Group.root :: c.activeGroups) :
    c.groupWrites group ⊆ c.writes := by
  intro w hw
  unfold writes
  cases native : c.isNative with
  | true =>
    simp only [activeGroups, native, if_true, List.mem_cons, List.not_mem_nil, or_false] at hg
    rcases hg with rfl | rfl | rfl <;> simp [hw]
  | false =>
    simp only [activeGroups_eq native, List.mem_cons, List.mem_append, List.not_mem_nil,
      or_false] at hg
    rcases hg with rfl | (((((rfl | hg) | hg) | hg) | hg) | hg) | hg
    · simp [hw]
    · simp [hw]
    · simp [groupWrites_subset_execution hg hw]
    · simp [groupWrites_subset_fallback hg hw]
    · simp [groupWrites_subset_consensus hg hw]
    · split at hg
      · next used =>
        simp only [List.mem_cons, List.not_mem_nil, or_false] at hg
        rcases hg with rfl | rfl | rfl <;> simp [metricsWrites, used, hw]
      · cases hg
    · split at hg
      · next used =>
        obtain rfl := List.mem_singleton.1 hg
        simp [used, hw]
      · cases hg
    · split at hg
      · next used =>
        obtain rfl := List.mem_singleton.1 hg
        simp [graffitiWallWrites, used, hw]
      · cases hg

/-- A setting of a group in use is shown with its text. -/
theorem get?_environment_of_mem (known : c.outline = Catalog.outline)
    (hg : group ∈ Group.root :: c.activeGroups) {p : Parameter} (hp : p ∈ c.parameters group)
    (shown : name ∈ p.shownAs) : c.environment.get? name = some p.text :=
  (get?_environment known).2 (groupWrites_subset hg (mem_groupWrites.2 ⟨p, hp, shown, rfl⟩))

/-- A variable that is not derived shows nothing but such settings. -/
theorem get?_environment_iff_of_not_derives (known : c.outline = Catalog.outline)
    (own : ¬ c.Derives name) {text : String} : c.environment.get? name = some text ↔
      ∃ g ∈ Group.root :: c.activeGroups, ∃ p ∈ c.parameters g,
        name ∈ p.shownAs ∧ p.text = text := by
  constructor
  · intro shown
    rcases explains_writes known ((get?_environment known).1 shown) with ⟨g, hg, hw⟩ | derived
    · obtain ⟨p, hp, hname, same⟩ := mem_groupWrites.1 hw
      exact ⟨g, hg, p, hp, hname, same.symm⟩
    · exact absurd derived own
  · rintro ⟨g, hg, p, hp, hname, rfl⟩
    exact get?_environment_of_mem known hg hp hname

/-- The host of an address that is shown in a part that looks for it is shown there too. -/
theorem mem_names_of_showsHost (known : c.outline = Catalog.outline) {address host : String}
    {writes : List Write} {names : List String}
    (h : (withHost address host writes, names) ∈ c.parts) (own : address ∈ names)
    (other : address ≠ host) (shown : c.ShowsHost address) :
    host ∈ (withHost address host writes).map (·.1) := by
  obtain ⟨a, b, shown, named⟩ := shown
  have unique : names.Nodup := (List.nodup_flatMap.1 c.parts_nodup).1 _ h
  -- The part looks the address up before all is written; it finds what the environment shows.
  exact exists_host (nodup_of_subperm (names_of_mem_parts known h) unique) other
    (mem_part_of_mem known h ((get?_environment known).1 shown) own) named

theorem mem_names_of_derives (known : c.outline = Catalog.outline) (h : c.Derives name) :
    name ∈ c.writes.map (·.1) := by
  have execution (native : c.isNative = false) (h : name ∈ c.executionWrites.map (·.1)) :
      name ∈ c.writes.map (·.1) := List.map_subset _ (part_subset (mem_parts_execution native)) h
  have consensus (native : c.isNative = false) (h : name ∈ c.consensusWrites.map (·.1)) :
      name ∈ c.writes.map (·.1) := List.map_subset _ (part_subset (mem_parts_consensus native)) h
  cases h with
  | image | directory => simp [writes]
  | executionClient native =>
    refine execution native ?_
    cases mode : c.executionMode <;> simp [executionWrites, withHost, mode]
  | executionHttp runs | executionWs runs | stopSignal runs =>
    refine execution runs.1 ?_
    simp [executionWrites, withHost, endpointWrites, runs.2, Catalog.variableName]
  | executionPorts runs opens =>
    refine execution runs.1 ?_
    simp [executionWrites, withHost, endpointWrites, runs.2, Catalog.variableName, opens]
  | executionHost native shown =>
    exact execution native (mem_names_of_showsHost known (mem_parts_execution native)
      (by decide +kernel) (by decide) shown)
  | fallbackClient native => simp [writes, native, fallbackWrites]
  | fallbackHttp runs | fallbackWs runs =>
    simp [writes, runs.1, fallbackWrites, runs.2, endpointWrites, Catalog.variableName]
  | fallbackPorts runs opens =>
    simp [writes, runs.1, fallbackWrites, runs.2, endpointWrites, Catalog.variableName, opens]
  | consensusClient native =>
    refine consensus native ?_
    cases mode : c.consensusMode <;> simp [consensusWrites, withHost, mode]
  | consensusApi runs | beaconPorts runs =>
    refine consensus runs.1 ?_
    simp [consensusWrites, withHost, runs.2]
  | consensusRpc runs prysm =>
    refine consensus runs.1 ?_
    simp [consensusWrites, withHost, runs.2, prysm]
  | consensusHost native shown =>
    exact consensus native (mem_names_of_showsHost known (mem_parts_consensus native)
      (by decide +kernel) (by decide) shown)
  | rootFsCommand runs opens | rootFsVolume runs opens | prometheusPorts runs opens =>
    simp [writes, runs.1, metricsWrites, runs.2, opens]
  | exporterFlags runs flags | prometheusFlags runs flags =>
    simp [writes, runs.1, metricsWrites, runs.2, flagEntry, flags]
  | graffitiWall native =>
    have addon : "ADDON_GWW_ENABLED" ∈ c.graffitiWallWrites.map (·.1) := by
      unfold graffitiWallWrites
      split
      · rw [names_groupWrites known]
        decide +kernel
      · obtain ⟨p, found, shown⟩ := exists_enabled known
        simp [found, Parameter.writes, shown]
    have here : (c.graffitiWallWrites, Catalog.shown .graffitiWall) ∈ c.parts := by
      simp [parts, native]
    exact List.map_subset _ (part_subset here) addon

/-- The environment agrees with the groups in use. Each of their settings, and each top-level one,
is shown with its text under all its variables; and a variable is there only because of such a
setting or because it is derived. -/
theorem Reachable.environment_shows {permitted : Edit → Prop} (h : c.Reachable permitted) :
    (∀ g ∈ Group.root :: c.activeGroups, ∀ p ∈ c.parameters g, ∀ name ∈ p.shownAs,
      c.environment.get? name = some p.text) ∧
    ∀ name, (c.environment.get? name).isSome ↔
      (∃ g ∈ Group.root :: c.activeGroups, ∃ p ∈ c.parameters g, name ∈ p.shownAs) ∨
        c.Derives name := by
  have known := h.outline_eq
  have shows (g : Group) (hg : g ∈ Group.root :: c.activeGroups) (p : Parameter)
      (hp : p ∈ c.parameters g) (name : String) (hname : name ∈ p.shownAs) :
      c.environment.get? name = some p.text :=
    (get?_environment known).2 (groupWrites_subset hg (mem_groupWrites.2 ⟨p, hp, hname, rfl⟩))
  refine ⟨shows, fun name => ⟨fun there => ?_, ?_⟩⟩
  · obtain ⟨text, there⟩ := Option.isSome_iff_exists.1 there
    rcases explains_writes known ((get?_environment known).1 there) with ⟨g, hg, hw⟩ | derived
    · obtain ⟨p, hp, hname, -⟩ := mem_groupWrites.1 hw
      exact .inl ⟨g, hg, p, hp, hname⟩
    · exact .inr derived
  · rintro (⟨g, hg, p, hp, hname⟩ | derived)
    · rw [shows g hg p hp name hname, Option.isSome_some]
    · exact (Table.isSome_get?_ofList (names_nodup known)).2 (mem_names_of_derives known derived)

/-- Beside clients that others run, with an own fallback: a variable that is derived for a client of
the stack shows a setting's text here, and there is nothing to stop. -/
theorem environment_shows_external : ∃ c : Configuration, c.Reachable Edit.Relocates ∧
    c.environment.get? "CC_RPC_ENDPOINT" = some "10.0.0.5:4000" ∧
    (c.environment.get? "FALLBACK_EC_OPEN_API_PORTS").isSome = true ∧
    c.environment.get? "EC_STOP_SIGNAL" = none := by
  obtain ⟨c, reached, ⟨native, mode⟩, ⟨used, fallback, opens⟩, active, unshown, found⟩ :=
    exists_reachable Edit.Relocates "/srv/node" false
      (fun _ h => h.operations [.assignText .root "executionClientMode" "external",
        .assignText .root "consensusClientMode" "external",
        .assignText .root "externalConsensusClient" "prysm",
        .assignText .externalPrysm "jsonRpcUrl" "10.0.0.5:4000",
        .assignText .root "useFallbackExecutionClient" "true",
        .assignText .fallbackExecutionCommon "openRpcPorts" "true"])
      (P := fun c => (c.isNative = false ∧ c.executionMode = .externallyManaged) ∧
        (c.usesFallback = true ∧ c.fallbackMode = .locallyManaged ∧
          c.flag .fallbackExecutionCommon "openRpcPorts" = true) ∧
        Group.externalPrysm ∈ c.activeGroups ∧
        (∀ g ∈ Group.root :: c.activeGroups, ∀ p ∈ c.parameters g,
          "EC_STOP_SIGNAL" ∉ p.shownAs) ∧
        (c.find? .externalPrysm "jsonRpcUrl").map (fun p => (p.shownAs, p.text)) =
          some (["CC_RPC_ENDPOINT"], "10.0.0.5:4000")) (by decide +kernel)
  obtain ⟨shows, isSome⟩ := reached.environment_shows
  obtain ⟨p, found, is⟩ := Option.map_eq_some_iff.1 found
  obtain ⟨shown, text⟩ := Prod.mk.inj is
  refine ⟨c, reached, ?_, ?_, ?_⟩
  · have here : p ∈ c.parameters .externalPrysm := List.mem_of_find?_eq_some found
    rw [← text]
    exact shows _ (List.mem_cons_of_mem _ active) p here _ (by simp [shown])
  · exact (isSome _).2 (.inr (.fallbackPorts ⟨native, used, fallback⟩ opens))
  · have runs {name : String} (h : c.Derives name) (same : name = "EC_STOP_SIGNAL") :
        c.RunsExecution := by
      cases h with
      | stopSignal runs => exact runs
      | _ => exact absurd same (by decide)
    rw [← Option.not_isSome_iff_eq_none, isSome]
    rintro (⟨g, hg, p, hp, hname⟩ | derived)
    · exact unshown g hg p hp hname
    · exact absurd (mode.symm.trans (runs derived rfl).2) nofun

end NodeSettings.Configuration
