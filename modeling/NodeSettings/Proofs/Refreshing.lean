import NodeSettings.Proofs.Defaults
import NodeSettings.Proofs.RoundTrip

/-!
Configurations as an upgrade of a settings file makes them: loaded from a document, then refreshed.
A refresh moves the settings that track the software's version to their defaults and nothing else
(`refreshes_of_refresh`), and it never fails (`Reachable.exists_refresh`). What is stored of a
configuration that was loaded and refreshed is read back as the very same configuration:
`load_document_of_refresh`.
-/

namespace NodeSettings

/-- What a refresh makes of a setting on a network. -/
structure Setting.Refreshes (network : Network) (s s' : Setting) : Prop where
  declaration : s'.declaration = s.declaration
  tracks : s.parameter.overwriteOnUpgrade = true →
    s.parameter.defaults.resolve? network = some s'.parameter.value
  stays : s.parameter.overwriteOnUpgrade = false → s'.parameter.value = s.parameter.value

namespace Configuration

variable {c c' r t : Configuration} {stored : Document}

/-- `r` is `c` with each setting that tracks the software's version at its default. -/
structure Refreshes (c r : Configuration) : Prop where
  version : r.version = c.version
  directory : r.directory = c.directory
  isNative : r.isNative = c.isNative
  profiles : r.profiles = c.profiles
  settings : List.Forall₂ (Setting.Refreshes c.network) c.settings r.settings

theorem refreshes_of_refresh (h : c.refresh = .ok r) : c.Refreshes r := by
  obtain ⟨each, rfl⟩ := traverse_eq_ok_iff.1 h
  refine ⟨rfl, rfl, rfl, rfl, List.forall₂_map_right_iff.2 (List.forall₂_same.2 fun s hs => ?_)⟩
  obtain ⟨p, hp⟩ := each s hs
  rw [Setting.changed_of_ok hp]
  by_cases tracks : s.parameter.overwriteOnUpgrade = true
  · rw [if_pos tracks] at hp
    obtain ⟨v, default, -, rfl⟩ := Parameter.reset_eq_ok_iff.1 hp
    exact ⟨rfl, fun _ => default, fun stays => absurd tracks (by simp [stays])⟩
  · rw [if_neg tracks] at hp
    cases hp
    exact ⟨rfl, fun is => absurd is tracks, fun _ => rfl⟩

/-- Every setting that tracks the software's version has a default that it may hold. -/
theorem Reachable.exists_refresh (h : c.Reachable Edit.Relocates) : ∃ r, c.refresh = .ok r := by
  obtain ⟨base, listed⟩ := h.exists_listed
  obtain ⟨-, -, -, -, selectable⟩ := h.network_selected
  refine ⟨_, traverse_eq_ok_iff.2 ⟨fun s hs => ?_, rfl⟩⟩
  by_cases tracks : s.parameter.overwriteOnUpgrade = true
  · rw [if_pos tracks]
    exact exists_reset (listed s hs) selectable
  · exact ⟨_, if_neg tracks⟩

/-! ## Storing what was loaded and refreshed -/

theorem finite_of_load (h : t.Reachable Edit.Relocates) (loaded : t.load stored = .ok c) :
    c.Every fun p => p.value.IsFinite := by
  obtain ⟨m, network, isNative, -, -, -, gives, rfl⟩ := h.load_eq_ok_iff.1 loaded
  refine List.forall_mem_map.2 fun d declared => ?_
  obtain ⟨v, denoted, -⟩ := gives d declared
  rw [Document.setting_of_denoted denoted]
  unfold Declaration.denoted? at denoted
  split at denoted
  · exact Value.isFinite_of_parse? denoted
  · exact Catalog.isFinite_of_default declared denoted

theorem finite_of_refresh (known : c.declarations = Catalog.all c.directory)
    (finite : c.Every fun p => p.value.IsFinite) (h : c.refresh = .ok r) :
    r.Every fun p => p.value.IsFinite := by
  refine forall_of_traverse h fun s hs p hp => ?_
  split at hp
  · obtain ⟨v, default, -, rfl⟩ := Parameter.reset_eq_ok_iff.1 hp
    have declared : s.declaration ∈ Catalog.all c.directory := known ▸ List.mem_map_of_mem hs
    exact Catalog.isFinite_of_default declared default
  · cases hp
    exact finite s hs

/-- Rebasing changes nothing where the catalog is that of the base directory. -/
theorem rebase_of_declarations (known : c.declarations = Catalog.all c.directory) :
    c.rebase = c := by
  have declarations : c.rebase.declarations = c.declarations := by
    rw [rebase_declarations, known, Catalog.map_rebased_all]
  rw [rebase_eq] at declarations ⊢
  unfold Configuration.declarations at declarations
  rw [List.map_map, List.map_inj_left] at declarations
  have same (s : Setting) (hs : s ∈ c.settings) : s.rebased c.directory = s :=
    Setting.eq_of_declaration_eq (declarations s hs) (Setting.rebased_value c.directory s)
  rw [List.map_congr_left same, List.map_id']

/-- What is stored of a configuration that was loaded and refreshed makes the same configuration,
whatever was there before. -/
theorem load_document_of_refresh {t' : Configuration} (h : t.Reachable Edit.Relocates)
    (h' : t'.Reachable Edit.Relocates) (loaded : t.load stored = .ok c) (new : c.refresh = .ok r) :
    t'.load r.document = .ok r := by
  have reached : c.Reachable Edit.Relocates := h.of_run (o := .load stored) loaded
  have reached' : r.Reachable Edit.Relocates := reached.of_run (o := .refresh) new
  obtain ⟨m, network, isNative, -, -, -, -, made⟩ := h.load_eq_ok_iff.1 loaded
  have known : c.declarations = Catalog.all c.directory := by
    rw [made, ofDocument_declarations]
    rfl
  have refreshes := refreshes_of_refresh new
  have known' : r.declarations = Catalog.all r.directory := by
    rw [declarations_of_refresh new, known, refreshes.directory]
  have version : r.version = Version.current.stamp := by
    rw [refreshes.version, made]
    rfl
  rw [reached'.load_document h' (finite_of_refresh known (finite_of_load h loaded) new),
    rebase_of_declarations known', ← version]

end Configuration
end NodeSettings
