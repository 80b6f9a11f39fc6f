import NodeSettings.Proofs.Reading
import NodeSettings.Proofs.ValueText

/-!
The catalog's defaults. `Catalog.exists_default`: a declared parameter has a default that its own
rules allow, on each network that a node can be set up for, and a top-level one on every network. So
a fresh configuration can be made for any directory: `exists_fresh`.
-/

namespace NodeSettings

namespace Declaration

/-- Whether there is a default for a network, and it passes the declaration's check. -/
def hasDefault (d : Declaration) (network : Network) : Bool :=
  (d.defaults.resolve? network).any fun v => (d.check v).isOk

theorem hasDefault_iff {d : Declaration} {network : Network} :
    d.hasDefault network = true ↔ ∃ v, d.defaults.resolve? network = some v ∧ d.Allows v := by
  have isOk (v : Value) : (d.check v).isOk = true ↔ d.Allows v := by
    rw [← check_eq_ok_iff]
    cases d.check v <;> simp [Except.isOk, Except.toBool]
  simp [hasDefault, Option.any_eq_true, isOk]

end Declaration

namespace Catalog

theorem hasDefault_topLevel (network : Network) :
    ∀ d ∈ topLevel, d.hasDefault network = true := by
  cases network <;> decide

theorem hasDefault_smartnode (directory : String) {network : Network}
    (selectable : network ≠ .all) : ∀ d ∈ smartnode directory, d.hasDefault network = true := by
  -- The data path is the one whose default is no closed term; it has no rules beside its kind.
  refine List.forall_mem_cons.2 ⟨?_, List.forall_mem_cons.2 ⟨?_, List.forall_mem_cons.2 ⟨?_, ?_⟩⟩⟩
  case refine_3 => cases network <;> rfl
  all_goals
    cases network with
    | all => exact absurd rfl selectable
    | mainnet | prater => decide +kernel

theorem hasDefault_of_ne {group : Group} {network : Network} (selectable : network ≠ .all) :
    ∀ d ∈ declarations "" group, d.hasDefault network = true := by
  cases network with
  | all => exact absurd rfl selectable
  | mainnet | prater => cases group <;> decide +kernel

/-- A declared parameter has a default that it may hold, on each network to choose from. Pocket has
none that would count on every network. -/
theorem exists_default {directory : String} {network : Network} {d : Group × Declaration}
    (declared : d ∈ all directory) (selectable : network ≠ .all ∨ d.1 = .root) :
    ∃ v, d.2.defaults.resolve? network = some v ∧ d.2.Allows v := by
  obtain ⟨group, d⟩ := d
  rw [← Declaration.hasDefault_iff]
  have member : d ∈ declarations directory group := mem_all.1 declared
  by_cases root : group = .root
  · subst root
    exact hasDefault_topLevel network d member
  · have supported : network ≠ .all := selectable.resolve_right root
    by_cases smartnode : group = .smartnode
    · subst smartnode
      exact hasDefault_smartnode directory supported d member
    · rw [declarations_eq_of_ne smartnode directory ""] at member
      exact hasDefault_of_ne supported d member

theorem isFinite_of_default_smartnode (directory : String) (network : Network) :
    ∀ d ∈ smartnode directory, ∀ v ∈ d.defaults.resolve? network, v.IsFinite := by
  -- The data path's default is no closed term, but a text.
  refine List.forall_mem_cons.2 ⟨?_, List.forall_mem_cons.2 ⟨?_, List.forall_mem_cons.2 ⟨?_, ?_⟩⟩⟩
  case refine_3 =>
    have text : (Value.string (dataPath directory)).IsFinite :=
      Value.isFinite_of_kind (show Kind.string ≠ .float by decide)
    intro v default
    cases network with
    | all | mainnet | prater => exact Option.some.inj default ▸ text
  all_goals
    cases network with
    | all | mainnet | prater => decide +kernel

theorem isFinite_of_default_of_ne {group : Group} (other : group ≠ .smartnode)
    (network : Network) :
    ∀ d ∈ declarations "" group, ∀ v ∈ d.defaults.resolve? network, v.IsFinite := by
  cases network with
  | all | mainnet | prater =>
    cases group with
    | smartnode => exact absurd rfl other
    | _ => decide

/-- Every default that is a number is finite. -/
theorem isFinite_of_default {directory : String} {network : Network} {d : Group × Declaration}
    (declared : d ∈ all directory) {v : Value}
    (default : d.2.defaults.resolve? network = some v) : v.IsFinite := by
  obtain ⟨group, d⟩ := d
  have member : d ∈ declarations directory group := mem_all.1 declared
  by_cases smartnode : group = .smartnode
  · subst smartnode
    exact isFinite_of_default_smartnode directory network d member v default
  · rw [declarations_eq_of_ne smartnode directory ""] at member
    exact isFinite_of_default_of_ne smartnode network d member v default

/-- The settings with a default of their own on each network. -/
def perNetwork : List (Group × String) := [(.pocket, "gatewayID"), (.fallbackPocket, "gatewayID")]

/-- Every other setting has the same default on all networks. -/
theorem resolve?_eq {directory : String} {d : Group × Declaration}
    (declared : d ∈ all directory) (shared : (d.1, d.2.id) ∉ perNetwork) (m n : Network) :
    d.2.defaults.resolve? m = d.2.defaults.resolve? n := by
  have always {defaults : Defaults} (mainnet : defaults.mainnet = none)
      (prater : defaults.prater = none) (n : Network) : defaults.resolve? n = defaults.all := by
    cases n <;> simp [Defaults.resolve?, Defaults.get?, mainnet, prater]
  obtain ⟨group, d⟩ := d
  have none : d.defaults.mainnet = none ∧ d.defaults.prater = none := by
    have member : d ∈ declarations directory group := mem_all.1 declared
    by_cases smartnode : group = .smartnode
    · subst smartnode
      have each : ∀ d ∈ Catalog.smartnode directory,
          d.defaults.mainnet = none ∧ d.defaults.prater = none := by
        simp [Catalog.smartnode, Defaults.always]
      exact each d member
    · rw [declarations_eq_of_ne smartnode directory ""] at member
      have each : ∀ d ∈ declarations "" group, (group, d.id) ∉ perNetwork →
          d.defaults.mainnet = none ∧ d.defaults.prater = none := by
        cases group <;> decide
      exact each d member shared
  rw [always none.1 none.2, always none.1 none.2]

end Catalog

namespace Configuration

theorem network_declared (directory : String) (isNative : Bool) :
    (declared directory isNative).network = .mainnet := rfl

/-- What the catalog declares can be reset on each network to choose from. -/
theorem exists_reset {base : String} {network : Network} {s : Setting}
    (declared : s.declaration ∈ Catalog.all base) (selectable : network ≠ .all) :
    ∃ p, s.parameter.reset network = .ok p := by
  obtain ⟨v, default, allowed⟩ := Catalog.exists_default declared (.inl selectable)
  exact ⟨_, Parameter.reset_eq_ok_iff.2 ⟨v, default, allowed, rfl⟩⟩

theorem exists_fresh (directory : String) (isNative : Bool) :
    ∃ c, fresh directory isNative = .ok c := by
  unfold fresh resetAll
  rw [network_declared]
  refine ⟨_, traverse_eq_ok_iff.2 ⟨fun s hs => ?_, rfl⟩⟩
  have listed : s.declaration ∈ (declared directory isNative).rebase.declarations :=
    List.mem_map_of_mem hs
  rw [rebase_declarations, declared_declarations, Catalog.map_rebased_all] at listed
  exact exists_reset listed (by decide)

end Configuration
end NodeSettings
