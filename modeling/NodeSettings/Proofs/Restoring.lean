import NodeSettings.Proofs.RoundTrip

/-!
Values that cannot be restored. An assignment accepts a number that is infinite, or no number at
all. Its text is stored like any other one, but no text is read as such a number. All other values
are restored as they are (`Parameter.restores_iff`), so that what is stored of a configuration can
be loaded just where all its numbers are finite (`Reachable.exists_load_document_iff`).
-/

namespace NodeSettings

namespace Value

variable {v w : Value}

theorem exists_float_of_not_isFinite (endless : ¬ v.IsFinite) :
    ∃ x, v = .float x ∧ x.isFinite = false := by
  by_contra none
  exact endless fun x is => by_contra fun infinite => none ⟨x, is, Bool.eq_false_iff.2 infinite⟩

theorem kind_of_not_isFinite (endless : ¬ v.IsFinite) : v.kind = .float := by
  obtain ⟨x, rfl, -⟩ := exists_float_of_not_isFinite endless
  rfl

/-- The text of a number that is not finite is none of a number. -/
theorem parse?_text_eq_none (endless : ¬ v.IsFinite) : parse? v.kind v.text = none := by
  obtain ⟨x, rfl, infinite⟩ := exists_float_of_not_isFinite endless
  cases x with
  | finite => cases infinite
  | nan => decide +kernel
  | infinite negative => cases negative <;> decide +kernel

theorem isFinite_of_parse?_text (parsed : parse? v.kind v.text = some w) : v.IsFinite := by
  by_contra endless
  rw [parse?_text_eq_none endless] at parsed
  cases parsed

end Value

namespace Parameter

variable {p q : Parameter} {v : Value}

/-- A value of the right kind is taken as its text is, if there are such texts. -/
theorem assignText_text (kind : v.kind = p.kind) (finite : v.IsFinite) :
    p.assignText v.text = p.assign v := by
  unfold assignText
  rw [← kind, Value.parse?_text finite]

/-- The text of a value that was accepted gives the parameter that value again just where the value
is finite. The text of any other number is refused as no number. A load of the stored text is the
same. -/
theorem restores_iff (assigned : p.assign v = .ok q) :
    (q.assignText v.text = .ok q ↔ v.IsFinite) ∧
    (¬ v.IsFinite → q.assignText v.text = .error (.notConvertible p.id .float v.text)) ∧
    ∀ network, q.load (some q.text) network = q.assignText v.text := by
  obtain ⟨allowed, rfl⟩ := assign_eq_ok_iff.1 assigned
  refine ⟨⟨fun restored => ?_, fun finite => ?_⟩, fun endless => ?_, fun network => rfl⟩
  · obtain ⟨w, parsed, -⟩ := assignText_eq_ok_iff.1 restored
    exact Value.isFinite_of_parse?_text (allowed.kind ▸ parsed)
  · rw [assignText_text (p := ⟨p.toDeclaration, v⟩) allowed.kind finite]
    exact assign_eq_ok_iff.2 ⟨allowed, rfl⟩
  · have none : Value.parse? p.kind v.text = none :=
      allowed.kind ▸ Value.parse?_text_eq_none endless
    have float : p.kind = .float := allowed.kind ▸ Value.kind_of_not_isFinite endless
    rw [← float]
    simp only [assignText, none]

/-- A fee of a tenth is accepted where fees are not negative, and restored. -/
theorem restores_iff_tenth : ∃ (p q : Parameter) (v : Value), v.text = "0.1" ∧
    p.assign v = .ok q ∧ q.assignText "0.1" = .ok q := by
  let p : Parameter := .ofDeclaration
    { id := "fee", name := "Fee", kind := .float, range := some ⟨some (.ofNat 0), none⟩ }
  let v : Value := .float ((Binary64.read? "0.1").getD .nan)
  have accepted : p.assign v = .ok { p with value := v } := by decide +kernel
  have text : v.text = "0.1" := by decide +kernel
  have restored := (restores_iff accepted).1.2 (by decide +kernel)
  rw [text] at restored
  exact ⟨p, { p with value := v }, v, text, accepted, restored⟩

/-- A fee without end is accepted as well, but not restored. -/
theorem exists_unrestored : ∃ (p q : Parameter) (v : Value), p.assign v = .ok q ∧
    ¬ ∃ r, q.assignText v.text = .ok r := by
  let p : Parameter := .ofDeclaration { id := "fee", name := "Fee", kind := .float }
  refine ⟨p, { p with value := .float (.infinite false) }, .float (.infinite false),
    by decide +kernel, ?_⟩
  rintro ⟨r, restored⟩
  obtain ⟨w, parsed, -⟩ := assignText_eq_ok_iff.1 restored
  exact absurd (Value.isFinite_of_parse?_text (v := .float (.infinite false)) parsed) (by decide)

end Parameter

namespace Configuration

variable {c t : Configuration}

/-- What is stored of a configuration can be loaded just where all its numbers are finite. -/
theorem Reachable.exists_load_document_iff (h : c.Reachable Edit.Relocates)
    (h' : t.Reachable Edit.Relocates) :
    (∃ t', t.load c.document = .ok t') ↔ ∀ s ∈ c.settings, s.parameter.value.IsFinite := by
  constructor
  · rintro ⟨t', loaded⟩ s hs
    obtain ⟨m, network, isNative, upgraded, -, -, gives, -⟩ := h'.load_eq_ok_iff.1 loaded
    obtain rfl : c.document = m := Except.ok.inj
      ((Document.upgrade_of_current (text?_document_version c)).symm.trans upgraded)
    obtain ⟨base, declared⟩ := h.declarations_eq
    generalize storedDirectory c.document t.directory = directory at gives
    -- The setting is declared below the other directory as well.
    have listed : (s.rebased directory).declaration ∈ Catalog.all directory := by
      rw [rebased_declaration, ← Catalog.map_rebased_all base, ← declared]
      exact List.mem_map_of_mem (List.mem_map_of_mem hs)
    obtain ⟨v, denoted, -⟩ := gives _ listed
    obtain ⟨group, id⟩ := Prod.mk.inj (Setting.rebased_key directory s)
    have kind := (rebased_isValid (h.isValid_of_relocates s hs) directory).kind
    rw [Setting.rebased_value] at kind
    change (s.rebased directory).parameter.denoted?
      (c.document.text? (s.rebased directory).group.key (s.rebased directory).parameter.id)
      network = some v at denoted
    rw [group, id, text?_document h.outline_eq hs, Declaration.denoted?, ← kind] at denoted
    exact Value.isFinite_of_parse?_text denoted
  · intro finite
    exact ⟨_, h.load_document h' finite⟩

end Configuration
end NodeSettings
