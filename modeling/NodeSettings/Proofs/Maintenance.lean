import NodeSettings.Proofs.Refreshing
import NodeSettings.Proofs.Refusal
import NodeSettings.Proofs.Switching

/-!
What cannot fail. With the tables of the catalog, whatever values the settings have, they can be
reset and refreshed, the node can be sent to each network that there is, and a document in which a
load finds nothing makes a fresh configuration (`maintenance_succeeds`). Of the operations none ever
misses a default: `Reachable.not_missing`.
-/

namespace NodeSettings

namespace Document

/-- The places of an upgraded document that a load reads: those of the settings, and what stands
beside them at the top level. -/
inductive IsRead : Place → Prop
  | setting {key : Group × String} : key ∈ Catalog.keys → IsRead (key.1.key, key.2)
  | directory : IsRead ("root", "rpDir")
  | isNative : IsRead ("root", "isNative")

/-- The places at which anything is known: those that are read, the stamp, and the places of older
layouts whose texts are moved to where they are read. -/
inductive Known : Place → Prop
  | present {p : Place} : IsRead p → Known p
  | stamp : Known ("root", "version")
  | former {client : Option String} {move : Move} {p q : Place} :
      move ∈ (layoutMoves client).flatMap (·.2) → move.target? p = some q → IsRead q → Known p

/-- The stamp is not read as anything else. -/
theorem IsRead.ne_stamp {p : Place} (read : IsRead p) : p ≠ ("root", "version") := by
  cases read with
  | @setting key listed =>
    intro same
    obtain ⟨root, id⟩ := Prod.mk.inj same
    have root : key.1 = .root := Group.key_injective root
    refine Configuration.not_mem_keys Configuration.versionKey (by decide) ?_
    rwa [show (Group.root, Configuration.versionKey) = key from Prod.ext root.symm id.symm]
  | directory | isNative => decide

/-- Where nothing is known of a document, its upgrade has nothing to read. -/
theorem exists_upgrade_of_unknown {stored : Document}
    (unknown : ∀ p, Known p → stored.at? p = none) :
    ∃ m, stored.upgrade = .ok m ∧ ∀ p, IsRead p → m.at? p = none := by
  have version : stored.version = .ok .unstamped := by
    rw [version, show stored.text? "root" "version" = none from unknown _ .stamp]
  refine ⟨_, upgrade_eq_ok_iff.2 ⟨.unstamped, version, by decide, rfl⟩, fun p read => ?_⟩
  have relocated := relocated_relocate stored .unstamped
  rw [at?_stampCurrent, if_neg read.ne_stamp]
  by_cases touched : ∃ move ∈ dueMoves .unstamped (stored.externalClient .unstamped),
      move.Touches p
  · obtain ⟨move, due, takes | ⟨q, goes⟩⟩ := touched
    · exact relocated.taken move due p takes
    · -- What could come here is at a former place of it.
      have listed := (List.filter_sublist.flatMap _).subset due
      rw [relocated.moved move due q p goes, unknown p (.present read),
        unknown q (.former listed goes read)]
      rfl
  · have untouched : ∀ move ∈ dueMoves .unstamped (stored.externalClient .unstamped),
        ¬ move.Touches p := fun move due touches => touched ⟨move, due, touches⟩
    rw [relocated.kept p untouched, unknown p (.present read)]

end Document

/-- What it comes down to is that a default is missing. -/
def SettingError.IsMissing (e : SettingError) : Prop :=
  ∃ id network, e.rootCause = .missingDefault id network

theorem SettingError.isMissing_inGroup {group : Group} {e : SettingError} :
    (inGroup group e).IsMissing ↔ e.IsMissing :=
  Iff.rfl

namespace Catalog

/-- Every network but the one that stands for all is among those to choose from. -/
theorem network_choices (directory : String) : ∃ d, (Group.smartnode, d) ∈ all directory ∧
    d.id = "network" ∧
    ∀ n : Network, (∃ choice ∈ d.choices, choice.value = .ofNamed n) ↔ n ≠ .all := by
  refine ⟨_, mem_all.2 List.mem_cons_self, rfl, fun n => ?_⟩
  cases n <;> decide

end Catalog

namespace Configuration

variable {c c' : Configuration} {network : Network} {e : SettingError} {stored m : Document}

theorem Reachable.offers_iff (h : c.Reachable Edit.Relocates) :
    c.Offers network ↔ network ≠ .all := by
  obtain ⟨base, declared⟩ := h.declarations_eq
  obtain ⟨d, mem, id, choices⟩ := Catalog.network_choices base
  rw [← declared] at mem
  obtain ⟨⟨group, p⟩, hs, same⟩ := List.mem_map.1 mem
  obtain ⟨rfl, rfl⟩ := Prod.mk.inj same
  have found : c.find? .smartnode "network" = some p :=
    (find?_eq_some_iff h.keys_nodup).2 ⟨hs, id⟩
  rw [← choices, Offers, found]
  simp

theorem Reachable.exists_resetAll (h : c.Reachable Edit.Relocates) : ∃ c', c.resetAll = .ok c' := by
  obtain ⟨base, declared⟩ := h.declarations_eq
  obtain ⟨-, -, -, -, selectable⟩ := h.network_selected
  refine ⟨_, traverse_eq_ok_iff.2 ⟨fun s hs => ?_, rfl⟩⟩
  have listed : s.declaration ∈ c.rebase.declarations := List.mem_map_of_mem hs
  rw [rebase_declarations, declared, Catalog.map_rebased_all] at listed
  exact exists_reset listed selectable

theorem declarations_choosing (c : Configuration) (network : Network) :
    (c.choosing network).declarations = c.declarations := by
  have same : (c.choosing network).declarations.map id = c.declarations.map id :=
    map_declarations_modify fun _ _ => rfl
  rwa [List.map_id, List.map_id] at same

theorem Reachable.exists_switchNetwork (h : c.Reachable Edit.Relocates)
    (selectable : network ≠ .all) : ∃ c', c.switchNetwork network = .ok c' := by
  by_cases same : c.network = network
  · exact ⟨c, switchNetwork_of_eq same⟩
  · obtain ⟨base, declared⟩ := h.declarations_eq
    refine (exists_switchNetwork_iff h.outline_eq same).2 ⟨h.offers_iff.2 selectable, ?_⟩
    rintro s hs ⟨-, stuck⟩
    have listed : s.declaration ∈ (c.choosing network).declarations := List.mem_map_of_mem hs
    rw [declarations_choosing, declared] at listed
    exact stuck (Catalog.exists_default listed (.inl selectable))

/-- The network that stands for all is none to choose. -/
theorem Reachable.switchNetwork_all (h : c.Reachable Edit.Relocates) :
    c.switchNetwork .all =
      .error (.inGroup .smartnode (.violation "network" (.notAnOption "all"))) := by
  obtain ⟨-, -, -, -, selectable⟩ := h.network_selected
  exact switchNetwork_of_not_offered h.outline_eq selectable fun offered =>
    h.offers_iff.1 offered rfl

/-! ## Documents that say nothing -/

/-- A fresh configuration is what a document without any text for a setting makes. -/
theorem fresh_eq_ofDocument {directory : String} (isNative : Bool)
    (none : ∀ d ∈ Catalog.all directory, m.text? d.1.key d.2.id = none) :
    fresh directory isNative = .ok (ofDocument m .mainnet directory isNative) := by
  have declarations :
      (declared directory isNative).rebase.declarations = Catalog.all directory := by
    rw [rebase_declarations, declared_declarations, Catalog.map_rebased_all]
    rfl
  have listed {s : Setting} (hs : s ∈ (declared directory isNative).rebase.settings) :
      s.declaration ∈ Catalog.all directory := by
    rw [← declarations]
    exact List.mem_map_of_mem hs
  have selectable : Network.mainnet ≠ .all := by decide
  have settings : (Catalog.all directory).map (m.setting .mainnet) =
      (declared directory isNative).rebase.settings.map
        (Setting.changed fun _ p => p.reset .mainnet) := by
    rw [← declarations, Configuration.declarations, List.map_map]
    refine List.map_congr_left fun s hs => ?_
    obtain ⟨p, reset⟩ := exists_reset (listed hs) selectable
    obtain ⟨v, default, -, rfl⟩ := Parameter.reset_eq_ok_iff.1 reset
    have unstored : m.text? s.group.key s.parameter.id = .none := none _ (listed hs)
    have default : s.parameter.toDeclaration.defaults.resolve? .mainnet = some v := default
    rw [Setting.changed_of_ok reset]
    simp only [Function.comp_apply, Document.setting, Setting.declaration, unstored,
      Declaration.denoted?, default, Option.getD_some]
  unfold fresh resetAll
  rw [network_declared]
  refine traverse_eq_ok_iff.2 ⟨fun s hs => exists_reset (listed hs) selectable, ?_⟩
  rw [← settings]
  rfl

/-- A document in which nothing is read makes a fresh configuration. -/
theorem Reachable.load_of_unread (h : c.Reachable Edit.Relocates)
    (upgraded : stored.upgrade = .ok m) (nothing : ∀ p, Document.IsRead p → m.at? p = none) :
    ∃ c', c.load stored = .ok c' ∧ Configuration.fresh c.directory c.isNative = .ok c' := by
  have setting : ∀ d ∈ Catalog.all c.directory, m.text? d.1.key d.2.id = none := fun d declared =>
    nothing _ (.setting (Catalog.key_mem declared))
  have directory : storedDirectory m c.directory = c.directory := by
    have none : m.text? Group.root.key directoryKey = none := nothing _ .directory
    rw [storedDirectory, none, Option.getD_none]
  have named : storedNetwork m = .ok .mainnet := by
    have listed : (Group.smartnode, "network") ∈ Catalog.keys := by decide
    have none : m.text? Group.smartnode.key "network" = none := nothing _ (.setting listed)
    rw [storedNetwork_eq_ok_iff, none]
  have native : storedNative m c.isNative = .ok c.isNative := by
    have none : m.text? Group.root.key nativeKey = none := nothing _ .isNative
    rw [storedNative_eq_ok_iff, none]
  have gives : ∀ d ∈ Catalog.all c.directory, m.Gives .mainnet d := by
    intro d declared
    have selectable : Network.mainnet ≠ .all := by decide
    obtain ⟨v, default, allowed⟩ := Catalog.exists_default declared (.inl selectable)
    exact ⟨v, by rw [setting d declared]; exact default, allowed⟩
  refine ⟨ofDocument m .mainnet c.directory c.isNative, ?_, fresh_eq_ofDocument c.isNative setting⟩
  exact h.load_eq_ok_iff.2 ⟨m, .mainnet, c.isNative, upgraded, named, native,
    by rwa [directory], by rw [directory]⟩

/-! ## Defaults that are missing -/

theorem not_missing_of_check {d : Declaration} {v : Value} (h : d.check v = .error e) :
    ¬ e.IsMissing := by
  rintro ⟨id, network, cause⟩
  rcases Declaration.check_error_cases h with rfl | ⟨rule, rfl⟩ <;> cases cause

theorem not_missing_of_assign {p : Parameter} {v : Value} (h : p.assign v = .error e) :
    ¬ e.IsMissing := by
  rcases bind_eq_error_iff.1 h with h | ⟨_, -, h⟩
  · exact not_missing_of_check h
  · cases h

theorem not_missing_of_assignText {p : Parameter} {raw : String}
    (h : p.assignText raw = .error e) : ¬ e.IsMissing := by
  unfold Parameter.assignText at h
  split at h
  · exact not_missing_of_assign h
  · cases h
    rintro ⟨id, network, cause⟩
    cases cause

theorem not_missing_of_assignAt {group : Group} {id : String}
    {f : Parameter → Except SettingError Parameter}
    (each : ∀ p e, f p = .error e → ¬ e.IsMissing) (h : c.assignAt group id f = .error e) :
    ¬ e.IsMissing := by
  unfold assignAt at h
  split at h
  · rcases bind_eq_error_iff.1 h with h | ⟨_, -, h⟩
    · exact each _ e h
    · cases h
  · cases h

theorem not_missing_of_upgrade (h : stored.upgrade = .error e) : ¬ e.IsMissing := by
  rintro ⟨id, network, cause⟩
  rcases Document.upgrade_eq_error_iff.1 h with h | ⟨found, -, -, rfl⟩
  · unfold Document.version Version.parse at h
    split at h
    · split at h <;> cases h
      cases cause
    · cases h
  · cases cause

theorem not_missing_of_mem_documentFaults (h : e ∈ c.documentFaults m) : ¬ e.IsMissing := by
  rcases documentFaults_cases h with
    ⟨raw, rfl⟩ | ⟨raw, rfl⟩ | ⟨group, p, -, raw, cause, refused, rfl⟩
  · rintro ⟨id, network, cause⟩
    cases cause
  · rintro ⟨id, network, cause⟩
    cases cause
  · exact mt SettingError.isMissing_inGroup.1 (not_missing_of_assignText refused)

/-- No operation fails for want of a default. -/
theorem Reachable.not_missing (h : c.Reachable Edit.Relocates) {o : Operation}
    (failed : c.run o = .error e) : ¬ e.IsMissing := by
  have succeeds {x : Except SettingError Configuration} (ok : ∃ c', x = .ok c') : x ≠ .error e := by
    obtain ⟨c', rfl⟩ := ok
    exact nofun
  cases o with
  | assign group id v => exact not_missing_of_assignAt (fun _ _ => not_missing_of_assign) failed
  | assignText group id raw =>
    exact not_missing_of_assignAt (fun _ _ => not_missing_of_assignText) failed
  | switchNetwork network =>
    by_cases selectable : network = .all
    · subst selectable
      cases h.switchNetwork_all.symm.trans failed
      rintro ⟨id, network, cause⟩
      cases cause
    · exact absurd failed (succeeds (h.exists_switchNetwork selectable))
  | resetAll => exact absurd failed (succeeds h.exists_resetAll)
  | refresh => exact absurd failed (succeeds h.exists_refresh)
  | load stored =>
    rcases h.load_eq_error_iff.1 failed with refused | ⟨m, -, first⟩
    · exact not_missing_of_upgrade refused
    · exact not_missing_of_mem_documentFaults (List.mem_of_mem_head? first)

/-- What succeeds with the tables of the catalog, whatever values the settings have. A fresh
configuration can be made for every directory. All settings can be reset, and those that track the
software's version refreshed; the node can be sent to each network, though not to the one that
stands for all; and a document in which a load finds nothing makes a fresh configuration. Every
setting may hold its default, and no operation at all fails for want of one. -/
theorem maintenance_succeeds :
    (∀ directory isNative, ∃ c, fresh directory isNative = .ok c) ∧
    ∀ c : Configuration, c.Reachable Edit.Relocates →
      (∃ c', c.resetAll = .ok c') ∧ (∃ c', c.refresh = .ok c') ∧
      (∃ c', c.switchNetwork .mainnet = .ok c') ∧ (∃ c', c.switchNetwork .prater = .ok c') ∧
      c.switchNetwork .all =
        .error (.inGroup .smartnode (.violation "network" (.notAnOption "all"))) ∧
      (∀ stored : Document, (∀ p, Document.Known p → stored.at? p = none) →
        ∃ c', c.load stored = .ok c' ∧ fresh c.directory c.isNative = .ok c') ∧
      (∀ stored m : Document, stored.upgrade = .ok m →
        (∀ p, Document.IsRead p → m.at? p = none) →
        ∃ c', c.load stored = .ok c' ∧ fresh c.directory c.isNative = .ok c') ∧
      (∀ s ∈ c.settings, ∀ network, network ≠ .all → ∃ p, s.parameter.reset network = .ok p) ∧
      ∀ o e, c.run o = .error e → ¬ e.IsMissing := by
  refine ⟨exists_fresh, fun c h => ⟨h.exists_resetAll, h.exists_refresh,
    h.exists_switchNetwork (by decide), h.exists_switchNetwork (by decide), h.switchNetwork_all,
    ?_, fun stored m upgraded nothing => h.load_of_unread upgraded nothing, ?_,
    fun o e failed => h.not_missing failed⟩⟩
  · intro stored unknown
    obtain ⟨m, upgraded, nothing⟩ := Document.exists_upgrade_of_unknown unknown
    exact h.load_of_unread upgraded nothing
  · intro s hs network selectable
    obtain ⟨base, declared⟩ := h.declarations_eq
    have listed : s.declaration ∈ c.declarations := List.mem_map_of_mem hs
    exact exists_reset (declared ▸ listed) selectable

/-- A place in the group of Geth where nothing is known. -/
theorem not_known_colour : ¬ Document.Known ("geth", "colour") := by
  have unread : ¬ Document.IsRead ("geth", "colour") := by
    generalize place : (("geth", "colour") : Place) = p
    intro read
    cases read with
    | @setting key listed =>
      have absent : (Group.geth, "colour") ∉ Catalog.keys := by decide
      obtain ⟨geth, id⟩ := Prod.mk.inj place
      have geth : Group.geth = key.1 := Group.key_injective geth
      exact absent (by rwa [show (Group.geth, "colour") = key from Prod.ext geth id])
    | directory | isNative => exact absurd place (by decide)
  generalize place : (("geth", "colour") : Place) = p
  intro known
  cases known with
  | present read => exact unread (place ▸ read)
  | stamp => exact absurd place (by decide)
  | @former client move _ _ listed goes _ =>
    have fixed : Document.IsFixed ("geth", "colour") := by decide
    have covered := Move.covers_of_touches (.inl (Move.takes_of_target? goes))
    rw [← place, Document.covers_of_isFixed fixed listed] at covered
    cases covered

/-- A node on Prater that reads a document about something else is on the main network again. -/
theorem maintenance_succeeds_elsewhere : ∃ (c c' : Configuration) (stored : Document),
    c.Reachable Edit.Relocates ∧ c.network = .prater ∧
    c.text .geth "maxPeers" = "7" ∧ stored.at? ("geth", "colour") = some "blue" ∧
    (∃ r, c.resetAll = .ok r) ∧ (∃ r, c.switchNetwork .mainnet = .ok r) ∧
    c.load stored = .ok c' ∧ fresh c.directory c.isNative = .ok c' := by
  let stored : Document := (∅ : Document).insert "geth" ((∅ : Table String).insert "colour" "blue")
  obtain ⟨c, reached, prater, peers⟩ :=
    exists_reachable Edit.Relocates "/srv/node" false
      (fun _ h => .operation (.assignText .geth "maxPeers" "7")
        (.operation (.switchNetwork .prater) h))
      (P := fun c => c.network = .prater ∧ c.text .geth "maxPeers" = "7") (by decide +kernel)
  have unknown : ∀ p, Document.Known p → stored.at? p = none := by
    rintro ⟨group, id⟩ known
    have other : (group, id) ≠ ("geth", "colour") := fun same => not_known_colour (same ▸ known)
    rw [Document.at?_insert]
    by_cases geth : group = "geth"
    · have id : id ≠ "colour" := fun same => other (by rw [geth, same])
      simp [geth, id]
    · simp [geth, Document.at?, Document.text?]
  obtain ⟨-, succeeds⟩ := maintenance_succeeds
  obtain ⟨resets, -, switches, -, -, loads, -⟩ := succeeds c reached
  obtain ⟨c', loaded, same⟩ := loads stored unknown
  exact ⟨c, c', stored, reached, prater, peers, by decide +kernel, resets, switches, loaded, same⟩

end Configuration
end NodeSettings
