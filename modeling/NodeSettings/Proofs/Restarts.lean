import NodeSettings.Proofs.Relevance

/-!
Which containers a change restarts. A change that is applied in two steps restarts no fewer
containers than one applied at once: `Reachable.restarts_compose`. And what the containers are shown
does not change without a restart, but for what is not a setting, the base directory and the way the
node is run: `Reachable.environment_change_restarts`, `unnoticed_environment_change`.

Both follow from `mem_restarts_iff`: a container restarts if it is the stand-in of one that a
setting with another text declares. A container can change its stand-in between two configurations,
but then a setting has changed that restarts it itself (`exists_switch`).
-/

namespace NodeSettings

namespace Catalog

/-- Every setting but those of a natively run node says which containers depend on it. -/
theorem affects_ne_nil : ∀ d ∈ outline, d.1 ≠ .native → d.2.affects ≠ [] := by
  decide +kernel

/-- The settings that select a local consensus client restart the validator. -/
theorem exists_validator_switch :
    ∀ id ∈ ["consensusClientMode", "consensusClient"],
      ∃ d ∈ outline, d.1 = .root ∧ d.2.id = id ∧ .validator ∈ d.2.affects := by
  decide +kernel

end Catalog

namespace Configuration

variable {a b c old : Configuration} {permitted permitted' : Edit → Prop}
  {container declared : Container}

/-- A container restarts if it stands in for one that depends on a setting with another text. -/
theorem mem_restarts_iff (known : c.outline = Catalog.outline) :
    container ∈ (c.changesSince old).restarts ↔
      ∃ d ∈ Catalog.outline, c.text d.1 d.2.id ≠ old.text d.1 d.2.id ∧
        ∃ declared ∈ d.2.affects, c.standIn declared = container := by
  rw [mem_restarts, ← known]
  constructor
  · rintro ⟨group, change, told, restarts⟩
    obtain ⟨p, hp, told⟩ := List.mem_filterMap.1 told
    have hs : ⟨group, p⟩ ∈ c.settings := mem_parameters.1 hp
    have own : c.text group p.id = p.text := text_of_mem (keys_nodup known) hs
    by_cases same : old.text group p.id = p.text
    · simp [same] at told
    · simp only [same, if_false, Option.some.injEq] at told
      subst told
      refine ⟨(group, p.bare), List.mem_map_of_mem hs, ?_, mem_redirect.1 restarts⟩
      show c.text group p.id ≠ old.text group p.id
      rw [own]
      exact Ne.symm same
  · rintro ⟨_, listed, apart, affected⟩
    obtain ⟨⟨group, p⟩, hs, rfl⟩ := List.mem_map.1 listed
    have own : c.text group p.id = p.text := text_of_mem (keys_nodup known) hs
    have apart : ¬ old.text group p.id = p.text := fun same => apart (own.trans same.symm)
    exact ⟨group, _, List.mem_filterMap.2 ⟨p, mem_parameters.2 hs, if_neg apart⟩,
      mem_redirect.2 affected⟩

/-! ## Changes in two steps -/

/-- Where a container has different stand-ins, it is the validator, and a setting has changed that
restarts the validator. -/
theorem exists_switch (h : b.Reachable permitted) (h' : c.Reachable permitted')
    (native : b.isNative = c.isNative) (differ : c.standIn declared ≠ b.standIn declared) :
    declared = .validator ∧ ∃ d ∈ Catalog.outline, c.text d.1 d.2.id ≠ b.text d.1 d.2.id ∧
      .validator ∈ d.2.affects := by
  have validator : declared = .validator := by
    by_contra other
    simp [standIn, other] at differ
  refine ⟨validator, ?_⟩
  by_contra none
  -- With the same texts both select the same client in the same mode.
  have selects (id : String) (listed : id ∈ ["consensusClientMode", "consensusClient"]) :
      c.value? .root id = b.value? .root id := by
    obtain ⟨d, declared, root, rfl, affects⟩ := Catalog.exists_validator_switch id listed
    by_contra apart
    refine none ⟨d, declared, fun same => apart (value?_congr h' h (by decide) ?_), affects⟩
    rwa [root] at same
  have mode : c.consensusMode = b.consensusMode := by
    rw [consensusMode, consensusMode, named?, named?, selects _ (by simp)]
  have client : c.consensusClient = b.consensusClient := by
    rw [consensusClient, consensusClient, named?, named?, selects _ (by simp)]
  have merges : c.MergesValidator ↔ b.MergesValidator := by
    rw [MergesValidator, MergesValidator, native, mode, client]
  refine differ ?_
  unfold standIn
  simp only [merges]

/-- Restarts compose. What a change restarts is restarted by one of the two steps in which it can be
applied, whichever clients are selected in between. -/
theorem Reachable.restarts_compose (h' : b.Reachable permitted) (h'' : c.Reachable permitted')
    (native : b.isNative = c.isNative) (container : Container)
    (restarts : container ∈ (c.changesSince a).restarts) :
    container ∈ (c.changesSince b).restarts ∨ container ∈ (b.changesSince a).restarts := by
  obtain ⟨d, listed, apart, declared, affected, standsIn⟩ :=
    (mem_restarts_iff h''.outline_eq).1 restarts
  by_cases later : c.text d.1 d.2.id = b.text d.1 d.2.id
  · have earlier : b.text d.1 d.2.id ≠ a.text d.1 d.2.id := later ▸ apart
    by_cases same : c.standIn declared = b.standIn declared
    · right
      exact (mem_restarts_iff h'.outline_eq).2
        ⟨d, listed, earlier, declared, affected, same ▸ standsIn⟩
    · left
      obtain ⟨rfl, switch, known, switched, validator⟩ := exists_switch h' h'' native same
      exact (mem_restarts_iff h''.outline_eq).2
        ⟨switch, known, switched, .validator, validator, standsIn⟩
  · left
    exact (mem_restarts_iff h''.outline_eq).2 ⟨d, listed, later, declared, affected, standsIn⟩

/-- A new graffiti restarts Teku's validator. By way of Nimbus, which does the validator's work, it
is the way back that restarts it. -/
theorem restarts_compose_nimbus : ∃ a b c : Configuration, a.Reachable Edit.Relocates ∧
    b.Reachable Edit.Relocates ∧ c.Reachable Edit.Relocates ∧ ¬ a.MergesValidator ∧
    b.MergesValidator ∧ ¬ c.MergesValidator ∧
    Container.validator ∉ (b.changesSince a).restarts ∧
    Container.validator ∈ (c.changesSince a).restarts ∧
    Container.validator ∈ (c.changesSince b).restarts := by
  let chooses (client : String) : Operation := .assignText .root "consensusClient" client
  let signs : Operation := .assignText .consensusCommon "graffiti" "rp"
  obtain ⟨a, reached, apart, merges, apart', native, before, after⟩ :=
    exists_reachable Edit.Relocates "/srv/node" false
      (fun _ h => h.operation (chooses "teku"))
      (P := fun a => ¬ a.MergesValidator ∧
        ((a.after signs).after (chooses "nimbus")).MergesValidator ∧
        ¬ (a.after signs).MergesValidator ∧
        ((a.after signs).after (chooses "nimbus")).isNative = (a.after signs).isNative ∧
        a.text .consensusCommon "graffiti" = "" ∧
        (a.after signs).text .consensusCommon "graffiti" = "rp") (by decide +kernel)
  have signed : (a.after signs).Reachable Edit.Relocates := reached.operation signs
  have between := signed.operation (chooses "nimbus")
  have direct : Container.validator ∈ ((a.after signs).changesSince a).restarts := by
    have graffiti : ∃ d ∈ Catalog.outline, d.1 = .consensusCommon ∧ d.2.id = "graffiti" ∧
        .validator ∈ d.2.affects := by decide +kernel
    obtain ⟨⟨group, d⟩, listed, rfl, id, affects⟩ := graffiti
    refine (mem_restarts_iff signed.outline_eq).2
      ⟨_, listed, ?_, .validator, affects, if_neg fun both => apart' both.1⟩
    show (a.after signs).text .consensusCommon d.id ≠ a.text .consensusCommon d.id
    rw [id, before, after]
    decide
  have merged : Container.validator ∉ (((a.after signs).after (chooses "nimbus")).changesSince
      a).restarts := by
    intro restarts
    obtain ⟨_, -, -, declared, -, same⟩ := (mem_restarts_iff between.outline_eq).1 restarts
    exact standIn_ne_validator merges declared same
  have steps := between.restarts_compose signed native .validator direct
  exact ⟨a, _, _, reached, between, signed, apart, merges, apart', merged, direct,
    steps.resolve_right merged⟩

/-! ## What the containers are shown -/

/-- Where nothing restarts, all texts are the same but for those of a natively run node. -/
theorem sharesTexts_of_no_restarts (h : c.Reachable permitted) (h' : old.Reachable permitted')
    (quiet : (c.changesSince old).restarts = []) {group : Group} (other : group ≠ .native) :
    c.SharesTexts old group := by
  intro id
  by_cases key : (group, id) ∈ Catalog.keys
  · obtain ⟨d, declared, rfl⟩ := Catalog.exists_declaration key
    have listed : (group, d.bare) ∈ Catalog.outline := Catalog.mem_outline declared
    obtain ⟨container, affected⟩ :=
      List.exists_mem_of_ne_nil _ (Catalog.affects_ne_nil _ listed other)
    by_contra apart
    have restarts : c.standIn container ∈ (c.changesSince old).restarts :=
      (mem_restarts_iff h.outline_eq).2 ⟨_, listed, apart, container, affected, rfl⟩
    rw [quiet] at restarts
    cases restarts
  · rw [text, text, find?_eq_none h.outline_eq key, find?_eq_none h'.outline_eq key]

/-- Beside clients of the stack the settings of a natively run node are not in use. -/
theorem native_not_mem_activeGroups (native : c.isNative = false) :
    Group.native ∉ c.activeGroups := by
  have execution : Group.native ∉ c.executionGroups := by
    rw [executionGroups_eq]
    cases c.executionMode with
    | locallyManaged =>
      show Group.native ∉ [.executionCommon, c.executionClient.group]
      cases c.executionClient <;> decide
    | externallyManaged => simp
  have fallback : Group.native ∉ c.fallbackGroups := by
    rw [fallbackGroups_eq]
    cases c.usesFallback with
    | false => simp
    | true =>
      cases c.fallbackMode with
      | locallyManaged =>
        show Group.native ∉ .fallbackExecutionCommon :: c.fallbackClient.fallbackGroup?.toList
        cases c.fallbackClient <;> decide
      | externallyManaged => simp
  have consensus : Group.native ∉ c.consensusGroups := by
    intro here
    simpa using consensusGroups_subset c here
  rw [activeGroups_eq native]
  simp [execution, fallback, consensus]

/-- Where nothing restarts, two nodes of one place that are run in one way show the same. -/
theorem environment_of_no_restarts (h : c.Reachable permitted) (h' : old.Reachable permitted')
    (directory : c.directory = old.directory) (isNative : c.isNative = old.isNative)
    (quiet : (c.changesSince old).restarts = []) : c.environment = old.environment := by
  have shares {group : Group} (other : group ≠ .native) : c.SharesTexts old group :=
    sharesTexts_of_no_restarts h h' quiet other
  cases native : c.isNative with
  | true =>
    -- The settings of a natively run node restart nothing, but neither are they shown.
    have hidden {d : Configuration} (known : d.outline = Catalog.outline) :
        d.groupWrites .native = [] := by
      rw [← List.map_eq_nil_iff, names_groupWrites known]
      decide
    have common : c.commonWrites = old.commonWrites :=
      commonWrites_congr h.outline_eq h'.outline_eq directory (shares (by decide))
        (shares (by decide))
    have writes : c.writes = old.writes := by
      show c.commonWrites ++ _ = old.commonWrites ++ _
      rw [common, ← isNative, native, if_pos rfl, if_pos rfl, hidden h.outline_eq,
        hidden h'.outline_eq]
    rw [environment, environment, writes]
  | false =>
    have alike : c.Alike old :=
      { directory
        isNative
        texts := by
          intro group here
          refine shares ?_
          rintro rfl
          exact native_not_mem_activeGroups native ((List.mem_cons.1 here).resolve_left (by decide))
        addon := shares (by decide : Group.graffitiWall ≠ .native) "enabled" }
    exact environment_of_alike h h' alike

/-- The environment knows the base directory under one variable only. -/
theorem environment_edit_directory (h : c.Reachable permitted) {name : String}
    (other : name ≠ "ROCKETPOOL_FOLDER") (path : String) :
    (c.edit (.directory path)).environment.get? name = c.environment.get? name := by
  have known : (c.edit (.directory path)).outline = Catalog.outline :=
    outline_edit.trans h.outline_eq
  refine Option.ext fun text => ?_
  rw [get?_environment known, get?_environment h.outline_eq]
  show _ ∈ _ :: ("ROCKETPOOL_FOLDER", path) :: _ ↔ _ ∈ _ :: ("ROCKETPOOL_FOLDER", c.directory) :: _
  simp only [List.mem_cons, Prod.mk.injEq, other, false_and, false_or]
  rfl

/-- A variable that every node shows is found among what every node writes. -/
theorem get?_environment_common (known : c.outline = Catalog.outline) {name text : String}
    (common : name ∈ commonNames) :
    c.environment.get? name = some text ↔ (name, text) ∈ c.commonWrites := by
  have part : (c.commonWrites, commonNames) ∈ c.parts := List.mem_cons_self
  rw [get?_environment known]
  exact ⟨fun hw => mem_part_of_mem known part hw common, fun hw => part_subset part hw⟩

/-- Nothing that the containers are shown changes without a restart, as far as it is told by
settings: the base directory and the way the node is run are not among them. Another directory shows
in its own variable only, and another way of running in none of those that every node shows. -/
theorem Reachable.environment_change_restarts (h : c.Reachable permitted)
    (h' : old.Reachable permitted') {name : String}
    (differs : c.environment.get? name ≠ old.environment.get? name) :
    (c.changesSince old).restarts ≠ [] ∨
      (name = "ROCKETPOOL_FOLDER" ∧ c.directory ≠ old.directory) ∨
      (name ∉ commonNames ∧ c.isNative ≠ old.isNative) := by
  by_contra unnoticed
  simp only [not_or, not_and, not_not] at unnoticed
  obtain ⟨quiet, here, run⟩ := unnoticed
  -- The earlier configuration is compared as it would be in the directory of the later one.
  let moved : Configuration := old.edit (.directory c.directory)
  have reached : moved.Reachable fun _ => True := .edit trivial (h'.mono fun _ _ => trivial)
  have back : moved.environment.get? name = old.environment.get? name := by
    by_cases folder : name = "ROCKETPOOL_FOLDER"
    · have same : moved = old := by
        show { old with directory := c.directory } = old
        rw [here folder]
      rw [same]
    · exact environment_edit_directory h' folder c.directory
  refine differs (Eq.trans ?_ back)
  by_cases common : name ∈ commonNames
  · have writes : c.commonWrites = moved.commonWrites :=
      commonWrites_congr h.outline_eq reached.outline_eq rfl
        (sharesTexts_of_no_restarts h h' quiet (by decide))
        (sharesTexts_of_no_restarts h h' quiet (by decide))
    refine Option.ext fun text => ?_
    rw [get?_environment_common h.outline_eq common,
      get?_environment_common reached.outline_eq common, writes]
  · have same : c.environment = moved.environment :=
      environment_of_no_restarts h reached rfl (run common) quiet
    rw [same]

/-- With the port of a metrics service another text is shown, and so something restarts. -/
theorem environment_change_restarts_port : ∃ c old : Configuration, c.Reachable Edit.Relocates ∧
    old.Reachable Edit.Relocates ∧
    c.environment.get? "EC_METRICS_PORT" ≠ old.environment.get? "EC_METRICS_PORT" ∧
    (c.changesSince old).restarts ≠ [] := by
  let opens : Operation := .assignText .root "ecMetricsPort" "9205"
  obtain ⟨old, reached, directory, isNative, before, after⟩ :=
    exists_reachable Edit.Relocates "/srv/node" false (fun _ h => h)
      (P := fun old => (old.after opens).directory = old.directory ∧
        (old.after opens).isNative = old.isNative ∧
        ("EC_METRICS_PORT", "9105") ∈ old.groupWrites .root ∧
        ("EC_METRICS_PORT", "9205") ∈ (old.after opens).groupWrites .root) (by decide +kernel)
  have reached' : (old.after opens).Reachable Edit.Relocates := reached.operation opens
  have shows {d : Configuration} (h : d.Reachable Edit.Relocates) {text : String}
      (hw : ("EC_METRICS_PORT", text) ∈ d.groupWrites .root) :
      d.environment.get? "EC_METRICS_PORT" = some text :=
    (get?_environment h.outline_eq).2 (groupWrites_subset List.mem_cons_self hw)
  have differs : (old.after opens).environment.get? "EC_METRICS_PORT" ≠
      old.environment.get? "EC_METRICS_PORT" := by
    rw [shows reached before, shows reached' after]
    decide
  refine ⟨_, old, reached', reached, differs, ?_⟩
  rcases reached'.environment_change_restarts reached differs with restarts | ⟨-, moved⟩ | ⟨-, run⟩
  · exact restarts
  · exact absurd directory moved
  · exact absurd isNative run

/-- Another base directory is shown, and so are no clients once the node is run natively, but no
container restarts for either. -/
theorem unnoticed_environment_change : ∃ old moved switched : Configuration,
    old.Reachable Edit.Relocates ∧ moved.Reachable Edit.Relocates ∧
    switched.Reachable Edit.Relocates ∧
    moved.environment.get? "ROCKETPOOL_FOLDER" ≠ old.environment.get? "ROCKETPOOL_FOLDER" ∧
    (moved.changesSince old).restarts = [] ∧
    switched.environment.get? "EC_CLIENT" ≠ old.environment.get? "EC_CLIENT" ∧
    (switched.changesSince old).restarts = [] := by
  obtain ⟨old, reached, directory, native⟩ :=
    exists_reachable Edit.Relocates "/srv/node" false (fun _ h => h)
      (P := fun old => old.directory = "/srv/node" ∧ old.isNative = false) (by decide +kernel)
  have unnoticed {c : Configuration} (h : c.Reachable Edit.Relocates)
      (texts : ∀ group id, c.text group id = old.text group id) :
      (c.changesSince old).restarts = [] := by
    refine List.eq_nil_iff_forall_not_mem.2 fun container restarts => ?_
    obtain ⟨d, -, apart, -⟩ := (mem_restarts_iff h.outline_eq).1 restarts
    exact apart (texts _ _)
  have moved : (old.edit (.directory "/mnt/node")).Reachable Edit.Relocates :=
    .edit trivial reached
  have switched : (old.edit (.isNative true)).Reachable Edit.Relocates := .edit trivial reached
  have folder {c : Configuration} (h : c.Reachable Edit.Relocates) :
      c.environment.get? "ROCKETPOOL_FOLDER" = some c.directory := by
    rw [get?_environment h.outline_eq]
    simp [writes]
  refine ⟨old, _, _, reached, moved, switched, ?_, unnoticed moved fun _ _ => rfl, ?_,
    unnoticed switched fun _ _ => rfl⟩
  · rw [folder moved, folder reached, directory]
    show some "/mnt/node" ≠ some "/srv/node"
    decide
  · have shown : (old.environment.get? "EC_CLIENT").isSome := by
      refine (Table.isSome_get?_ofList (names_nodup reached.outline_eq)).2 ?_
      have client : "EC_CLIENT" ∈ old.executionWrites.map (·.1) := by
        unfold executionWrites withHost
        cases old.executionMode <;> simp
      simp only [writes, native, Bool.false_eq_true, if_false, List.map_append, List.mem_append,
        client, true_or, or_true]
    have hidden : ¬ ((old.edit (.isNative true)).environment.get? "EC_CLIENT").isSome := by
      intro there
      have known := switched.outline_eq
      have named := (Table.isSome_get?_ofList (names_nodup known)).1 there
      rw [writes_eq_parts] at named
      have own : "EC_CLIENT" ∈ commonNames ++ (Catalog.shown .native ++ []) :=
        (subperm_flatMap fun _ => names_of_mem_parts known).subset named
      revert own
      decide +kernel
    intro same
    exact hidden (same ▸ shown)

end Configuration
end NodeSettings
