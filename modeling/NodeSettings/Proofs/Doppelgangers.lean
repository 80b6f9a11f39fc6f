import NodeSettings.Proofs.Selections

/-!
The detection of doppelgangers, as it is shown and as it is answered. Some groups of consensus
clients have a setting for it, and the environment shows that of the one in use
(`Reachable.shows_detection_iff`). The answer is what is shown, unless Teku runs in the stack: it
ignores the setting that it shares with the other clients
(`Reachable.detectsDoppelgangers_as_shown`).
-/

namespace NodeSettings

namespace Catalog

/-- The groups that have the setting. -/
def detectingKind : List Group := [.consensusCommon, .externalLighthouse, .externalPrysm]

theorem exists_detection : ∀ group ∈ detectingKind, ∃ d ∈ declarations "" group,
    d.id = "doppelgangerDetection" ∧ d.kind = .bool ∧ "DOPPELGANGER_DETECTION" ∈ d.shownAs := by
  decide

/-- Nothing else is shown under the variable of the setting. -/
theorem detection_of_shown {group : Group} : ∀ d ∈ declarations "" group,
    "DOPPELGANGER_DETECTION" ∈ d.shownAs →
      group ∈ detectingKind ∧ d.id = "doppelgangerDetection" := by
  cases group <;> decide

end Catalog

namespace Configuration

variable {c : Configuration} {group : Group} {text : String} {permitted : Edit → Prop}

/-- A switch is on if its text says so. -/
theorem Reachable.flag_iff_text (h : c.Reachable permitted) {d : Declaration}
    (declared : d ∈ Catalog.declarations "" group) (kind : d.kind = .bool) :
    c.flag group d.id = true ↔ c.text group d.id = "true" := by
  obtain ⟨p, found, bare⟩ := exists_find? h.outline_eq group declared
  have same : p.kind = d.kind := congrArg (·.kind) bare
  have is : p.value.kind = .bool := (h.kind_eq (mem_of_find? found).1).trans (same.trans kind)
  rw [flag, value?, Configuration.text, found]
  cases value : p.value with
  | bool b => cases b <;> simp [Parameter.text, value, Value.asBool?, Value.text]
  | int | uint | uint16 | float | string | choice =>
    rw [value] at is
    cases is

/-! ## What is shown -/

/-- The group in use that has the setting, if the selected client's do. -/
def detectionGroup? (c : Configuration) : Option Group :=
  match c.consensusMode with
  | .locallyManaged => some .consensusCommon
  | .externallyManaged =>
    match c.externalConsensusClient with
    | .lighthouse => some .externalLighthouse
    | .prysm => some .externalPrysm
    | .nimbus | .teku => none

theorem filter_detectingKind (native : c.isNative = false) :
    c.activeGroups.filter (· ∈ Catalog.detectingKind) = c.detectionGroup?.toList := by
  rw [filter_activeGroups native (by decide), filter_eq_nil c.executionGroups_subset (by decide),
    filter_eq_nil c.fallbackGroups_subset (by decide), consensusGroups_eq, detectionGroup?]
  cases c.consensusMode with
  | locallyManaged => cases c.consensusClient <;> rfl
  | externallyManaged => cases c.externalConsensusClient <;> rfl

theorem detectionGroup?_mem (own : c.detectionGroup? = some group) :
    group ∈ Catalog.detectingKind := by
  revert own
  unfold detectionGroup?
  cases c.consensusMode with
  | locallyManaged =>
    rintro ⟨⟩
    decide
  | externallyManaged => cases c.externalConsensusClient <;> rintro ⟨⟩ <;> decide

theorem not_derives_detection : ¬ c.Derives "DOPPELGANGER_DETECTION" := by
  generalize same : "DOPPELGANGER_DETECTION" = name
  intro derived
  cases derived <;> exact absurd same (by decide)

/-- The environment shows the setting of the group in use that has it. -/
theorem Reachable.shows_detection_iff (h : c.Reachable permitted) (native : c.isNative = false) :
    c.environment.get? "DOPPELGANGER_DETECTION" = some text ↔
      ∃ g, c.detectionGroup? = some g ∧ c.text g "doppelgangerDetection" = text := by
  have known := h.outline_eq
  have active {g : Group} :
      c.detectionGroup? = some g ↔ g ∈ c.activeGroups ∧ g ∈ Catalog.detectingKind :=
    eq_some_iff_of_filter (filter_detectingKind native)
  constructor
  · intro shown
    obtain ⟨g, hg, p, hp, name, rfl⟩ :=
      (get?_environment_iff_of_not_derives known not_derives_detection).1 shown
    obtain ⟨d, declared, same⟩ := exists_declared known hp
    have shownAs : d.shownAs = p.shownAs := congrArg (·.shownAs) same
    obtain ⟨kind, named⟩ := Catalog.detection_of_shown d declared (shownAs ▸ name)
    have used : g ∈ c.activeGroups := by
      refine (List.mem_cons.1 hg).resolve_left ?_
      rintro rfl
      exact absurd kind (by decide)
    have id : p.id = "doppelgangerDetection" := (congrArg (·.id) same).symm.trans named
    refine ⟨g, active.2 ⟨used, kind⟩, ?_⟩
    rw [← id]
    exact text_of_mem h.keys_nodup (mem_parameters.1 hp)
  · rintro ⟨g, own, rfl⟩
    obtain ⟨used, kind⟩ := active.1 own
    obtain ⟨d, declared, id, -, name⟩ := Catalog.exists_detection g kind
    rw [← id]
    exact shows_text known used declared name

/-! ## What is answered -/

/-- Teku runs in the stack. -/
def RunsTeku (c : Configuration) : Prop := c.RunsConsensus ∧ c.consensusClient = .teku

theorem detectsDoppelgangers_of_runsTeku (teku : c.RunsTeku) :
    c.detectsDoppelgangers = .ok false := by
  obtain ⟨⟨native, mode⟩, client⟩ := teku
  simp [detectsDoppelgangers, native, mode, client]

/-- Every other client heeds the setting of the group in use that has it. -/
theorem detectsDoppelgangers_iff (native : c.isNative = false) (other : ¬ c.RunsTeku) :
    c.detectsDoppelgangers = .ok true ↔
      ∃ g, c.detectionGroup? = some g ∧ c.flag g "doppelgangerDetection" = true := by
  unfold detectsDoppelgangers detectionGroup?
  cases mode : c.consensusMode with
  | locallyManaged =>
    have client : c.consensusClient ≠ .teku := fun teku => other ⟨⟨native, mode⟩, teku⟩
    cases other : c.consensusClient <;> simp_all
  | externallyManaged =>
    cases c.externalConsensusClient <;> simp [native]

/-- Doppelgangers are detected if the environment says so, whichever consensus client is selected
and wherever it is managed, and whatever the settings are. Only Teku, when it runs in the stack,
detects none, though the environment shows the setting that all clients of the stack share. -/
theorem Reachable.detectsDoppelgangers_as_shown (h : c.Reachable permitted)
    (native : c.isNative = false) :
    (¬ c.RunsTeku → (c.environment.get? "DOPPELGANGER_DETECTION" = some "true" ↔
      c.detectsDoppelgangers = .ok true)) ∧
    (c.RunsTeku → c.detectsDoppelgangers = .ok false ∧
      c.environment.get? "DOPPELGANGER_DETECTION" =
        some (c.text .consensusCommon "doppelgangerDetection")) := by
  refine ⟨fun other => ?_, fun teku => ⟨detectsDoppelgangers_of_runsTeku teku, ?_⟩⟩
  · rw [h.shows_detection_iff native, detectsDoppelgangers_iff native other]
    refine exists_congr fun g => and_congr_right fun own => ?_
    obtain ⟨d, declared, id, kind, -⟩ := Catalog.exists_detection g (detectionGroup?_mem own)
    rw [← id]
    exact (h.flag_iff_text declared kind).symm
  · refine (h.shows_detection_iff native).2 ⟨.consensusCommon, ?_, rfl⟩
    rw [detectionGroup?, teku.1.2]

/-- Beside a Prysm that is run elsewhere the validator heeds that client's setting, not the one of
the clients of the stack. -/
theorem detectsDoppelgangers_as_shown_prysm : ∃ c : Configuration, c.Reachable Edit.Relocates ∧
    c.isNative = false ∧ c.text .consensusCommon "doppelgangerDetection" = "false" ∧
    c.detectsDoppelgangers = .ok true ∧
    c.environment.get? "DOPPELGANGER_DETECTION" = some "true" := by
  obtain ⟨c, reached, native, mode, off, detects⟩ :=
    exists_reachable Edit.Relocates "/srv/node" false
      (fun _ h => h.operations [.assignText .consensusCommon "doppelgangerDetection" "false",
        .assignText .root "consensusClientMode" "external",
        .assignText .root "externalConsensusClient" "prysm"])
      (P := fun c => c.isNative = false ∧ c.consensusMode = .externallyManaged ∧
        c.text .consensusCommon "doppelgangerDetection" = "false" ∧
        c.detectsDoppelgangers = .ok true) (by decide +kernel)
  have other : ¬ c.RunsTeku := fun teku => absurd (mode.symm.trans teku.1.2) nofun
  exact ⟨c, reached, native, off, detects,
    ((reached.detectsDoppelgangers_as_shown native).1 other).2 detects⟩

/-- A node with Teku in the stack shows a detection that there is none of. -/
theorem shows_detection_of_teku : ∃ c : Configuration, c.Reachable Edit.Relocates ∧
    c.isNative = false ∧ c.environment.get? "DOPPELGANGER_DETECTION" = some "true" ∧
    c.detectsDoppelgangers = .ok false := by
  obtain ⟨c, reached, native, group, text, detects⟩ :=
    exists_reachable Edit.Relocates "/srv/node" false
      (fun _ h => .operation (.assignText .root "consensusClient" "teku") h)
      (P := fun c => c.isNative = false ∧ c.detectionGroup? = some .consensusCommon ∧
        c.text .consensusCommon "doppelgangerDetection" = "true" ∧
        c.detectsDoppelgangers = .ok false) (by decide +kernel)
  exact ⟨c, reached, native, (reached.shows_detection_iff native).2 ⟨_, group, text⟩, detects⟩

end Configuration
end NodeSettings
