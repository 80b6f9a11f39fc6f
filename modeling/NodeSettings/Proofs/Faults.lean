import NodeSettings.Proofs.Declared

/-!
What makes an operation on all settings fail. Settings stand group by group in display order
(`settings_eq`), and a traversal fails with the first fault in that order: `traverse_eq`.
-/

namespace NodeSettings

/-- A list of steps fails with the first error among them. -/
theorem mapM_eq_error_iff {ε α β : Type} {f : α → Except ε β} {g : α → Option ε}
    (agree : ∀ a e, f a = .error e ↔ g a = some e) {l : List α} {e : ε} :
    l.mapM f = .error e ↔ l.findSome? g = some e := by
  induction l with
  | nil => simp [pure, Except.pure]
  | cons a l ih =>
    rw [List.mapM_cons, bind_eq_error_iff, List.findSome?_cons]
    cases h : f a with
    | error e' => simp [(agree a e').1 h]
    | ok b =>
      have none : g a = none := by
        cases hg : g a with
        | none => rfl
        | some e' => rw [(agree a e').2 hg] at h; cases h
      simp [none, bind_eq_error_iff, ih, pure, Except.pure]

/-- The error of a step that failed, told with the group that it was in. -/
def errorIn? {α : Type} (group : Group) : Except SettingError α → Option SettingError
  | .ok _ => none
  | .error e => some (.inGroup group e)

@[simp] theorem errorIn?_ok {α : Type} (group : Group) (a : α) :
    errorIn? group (.ok a) = none := rfl

@[simp] theorem errorIn?_error {α : Type} (group : Group) (e : SettingError) :
    errorIn? group (.error e : Except SettingError α) = some (.inGroup group e) := rfl

/-- What a change has against a setting. -/
def Setting.fault? (f : Group → Parameter → Except SettingError Parameter) (s : Setting) :
    Option SettingError :=
  errorIn? s.group (f s.group s.parameter)

/-! ## What an error is about -/

namespace SettingError

/-- The parameter that an error is about. -/
def subject? : SettingError → Option String
  | missingDefault id _ | notConvertible id _ _ | violation id _ => some id
  | _ => none

/-- The error is told without a group around it. -/
def IsBare (e : SettingError) : Prop := ∀ group cause, e ≠ .inGroup group cause

theorem isBare_of_subject {e : SettingError} {id : String} (h : e.subject? = some id) :
    e.IsBare := by
  rintro group cause rfl
  cases h

end SettingError

/-- A check fails on the kind of a value, or on one of the rules for the kind. -/
theorem Declaration.check_error_cases {d : Declaration} {v : Value} {e : SettingError}
    (h : d.check v = .error e) :
    e = .notConvertible d.id d.kind v.text ∨ ∃ rule, e = .violation d.id rule := by
  have choice (h : d.checkChoice v = .error e) : ∃ rule, e = .violation d.id rule := by
    unfold checkChoice at h
    split at h
    · cases h
    · exact ⟨_, (Except.error.inj h).symm⟩
  have length {s : String} (h : d.checkLength s = .error e) : ∃ rule, e = .violation d.id rule := by
    unfold checkLength at h
    split at h
    · split at h
      · exact ⟨_, (Except.error.inj h).symm⟩
      · cases h
    · cases h
  have pattern {s : String} (h : d.checkPattern s = .error e) :
      ∃ rule, e = .violation d.id rule := by
    unfold checkPattern at h
    split at h
    · split at h
      · cases h
      · split at h
        · exact ⟨_, (Except.error.inj h).symm⟩
        · split at h
          · cases h
          · exact ⟨_, (Except.error.inj h).symm⟩
    · cases h
  have range (h : d.checkRange v = .error e) : ∃ rule, e = .violation d.id rule := by
    unfold checkRange at h
    split at h
    · split at h
      · cases h
      · exact ⟨_, (Except.error.inj h).symm⟩
    · cases h
  unfold check at h
  split at h
  · exact .inl (Except.error.inj h).symm
  · refine .inr ?_
    cases v with
    | choice s =>
      rcases bind_eq_error_iff.1 h with h | ⟨_, -, h⟩
      · exact choice h
      · exact range h
    | string s =>
      rcases bind_eq_error_iff.1 h with h | ⟨_, -, h⟩
      · exact length h
      · rcases bind_eq_error_iff.1 h with h | ⟨_, -, h⟩
        · exact pattern h
        · exact range h
    | bool _ | int _ | uint _ | uint16 _ | float _ => exact range h

theorem Declaration.subject_of_check {d : Declaration} {v : Value} {e : SettingError}
    (h : d.check v = .error e) : e.subject? = some d.id := by
  rcases check_error_cases h with rfl | ⟨rule, rfl⟩ <;> rfl

namespace Parameter

variable {p : Parameter} {e : SettingError}

theorem subject_of_assign {v : Value} (h : p.assign v = .error e) : e.subject? = some p.id := by
  rcases bind_eq_error_iff.1 h with h | ⟨_, -, h⟩
  · exact Declaration.subject_of_check h
  · cases h

/-- A text is refused in the name of the parameter that it was meant for. -/
theorem subject_of_assignText {raw : String} (h : p.assignText raw = .error e) :
    e.subject? = some p.id := by
  unfold assignText at h
  split at h
  · exact subject_of_assign h
  · exact Except.error.inj h ▸ rfl

theorem subject_of_reset {network : Network} (h : p.reset network = .error e) :
    e.subject? = some p.id := by
  rcases bind_eq_error_iff.1 h with h | ⟨_, -, h⟩
  · unfold Declaration.resolveDefault at h
    split at h
    · cases h
    · exact Except.error.inj h ▸ rfl
  · exact subject_of_assign h

end Parameter

/-! ## Display order -/

/-- Settings whose keys are listed group by group are the settings of each group in turn. -/
theorem eq_flatMap_filter {groups : List Group} (distinct : groups.Nodup)
    {ids : Group → List String} {settings : List Setting}
    (listed : settings.map (·.key) = groups.flatMap fun group => (ids group).map (group, ·)) :
    settings = groups.flatMap fun group => settings.filter (·.group = group) := by
  induction groups generalizing settings with
  | nil => simpa using listed
  | cons group groups ih =>
    obtain ⟨fresh, distinct⟩ := List.nodup_cons.1 distinct
    rw [List.flatMap_cons, List.map_eq_append_iff] at listed
    obtain ⟨own, others, rfl, here, there⟩ := listed
    have ofOwn : ∀ s ∈ own, s.group = group := by
      intro s hs
      have : s.key ∈ (ids group).map (group, ·) := here ▸ List.mem_map_of_mem hs
      obtain ⟨id, -, key⟩ := List.mem_map.1 this
      exact (Prod.mk.inj key).1.symm
    have ofOthers : ∀ s ∈ others, s.group ∈ groups := by
      intro s hs
      have : s.key ∈ groups.flatMap fun group => (ids group).map (group, ·) :=
        there ▸ List.mem_map_of_mem hs
      obtain ⟨g, hg, listed⟩ := List.mem_flatMap.1 this
      obtain ⟨id, -, key⟩ := List.mem_map.1 listed
      exact (Prod.mk.inj key).1 ▸ hg
    have keepOwn : own.filter (·.group = group) = own :=
      List.filter_eq_self.2 fun s hs => decide_eq_true (ofOwn s hs)
    have dropOthers : others.filter (·.group = group) = [] :=
      List.filter_eq_nil_iff.2 fun s hs same =>
        fresh (of_decide_eq_true same ▸ ofOthers s hs)
    have dropOwn (g : Group) (hg : g ∈ groups) : own.filter (·.group = g) = [] :=
      List.filter_eq_nil_iff.2 fun s hs same =>
        fresh ((ofOwn s hs).symm.trans (of_decide_eq_true same) ▸ hg)
    rw [List.flatMap_cons, List.filter_append, keepOwn, dropOthers, List.append_nil]
    refine congrArg (own ++ ·) ((ih distinct there).trans ?_)
    refine List.flatMap_congr fun g hg => ?_
    rw [List.filter_append, dropOwn g hg, List.nil_append]

namespace Configuration

variable {c : Configuration}

/-- The settings stand group by group, the top-level ones first. -/
theorem settings_eq (known : c.outline = Catalog.outline) :
    c.settings = Group.all.flatMap fun group => (c.parameters group).map (Setting.mk group) := by
  have listed : c.settings.map (·.key) = Group.all.flatMap fun group =>
      ((Catalog.declarations "" group).map (·.id)).map (group, ·) :=
    (keys_eq known).trans Catalog.keys_eq_flatMap
  have distinct : Group.all.Nodup := by decide
  refine (eq_flatMap_filter distinct listed).trans (List.flatMap_congr fun group _ => ?_)
  have own (s : Setting) (hs : s ∈ c.settings.filter (·.group = group)) :
      (⟨group, s.parameter⟩ : Setting) = s := by
    rw [← of_decide_eq_true (List.mem_filter.1 hs).2]
  rw [parameters, List.map_map]
  exact ((List.map_congr_left own).trans (List.map_id' _)).symm

theorem filterMap_settings {β : Type} (known : c.outline = Catalog.outline)
    (f : Setting → Option β) :
    c.settings.filterMap f = Group.all.flatMap fun group =>
      (c.parameters group).filterMap fun p => f ⟨group, p⟩ := by
  conv_lhs => rw [settings_eq known]
  rw [List.filterMap_flatMap]
  exact List.flatMap_congr fun group _ => List.filterMap_map

/-- A traversal fails with the first fault of any setting. -/
theorem traverse_eq_error_iff {f : Group → Parameter → Except SettingError Parameter}
    {e : SettingError} :
    c.traverse f = .error e ↔ (c.settings.filterMap (Setting.fault? f)).head? = some e := by
  have agree (s : Setting) (e : SettingError) :
      s.change f = .error e ↔ s.fault? f = some e := by
    cases h : f s.group s.parameter <;> simp [Setting.change, Setting.fault?, h]
  show (c.settings.mapM (Setting.change f) >>= fun settings => pure { c with settings }) =
    .error e ↔ _
  rw [bind_eq_error_iff, mapM_eq_error_iff agree, List.head?_filterMap]
  simp [pure, Except.pure]

/-- What a traversal comes to, whether it fails or succeeds. -/
theorem traverse_eq (c : Configuration)
    (f : Group → Parameter → Except SettingError Parameter) :
    c.traverse f = match (c.settings.filterMap (Setting.fault? f)).head? with
      | some e => .error e
      | none => .ok { c with settings := c.settings.map (Setting.changed f) } := by
  cases first : (c.settings.filterMap (Setting.fault? f)).head? with
  | some e => exact traverse_eq_error_iff.2 first
  | none =>
    refine traverse_eq_ok_iff.2 ⟨fun s hs => ?_, rfl⟩
    have none : s.fault? f = none :=
      List.filterMap_eq_nil_iff.1 (List.head?_eq_none_iff.1 first) s hs
    cases h : f s.group s.parameter with
    | ok p => exact ⟨p, rfl⟩
    | error e => simp [Setting.fault?, h] at none

end Configuration
end NodeSettings
