import Mathlib.Data.List.Nodup
import NodeSettings.Configuration.Basic
import NodeSettings.Proofs.Rules

/-!
Changing settings. `traverse_eq_ok_iff`: a traversal succeeds if every setting's change does, and
then each setting is changed on its own. Settings are found by their keys, a group and an id:
`find?_eq_some_iff`.
-/

namespace NodeSettings

theorem mapM_eq_ok_iff {ε α β : Type} {f : α → Except ε β} {g : α → β}
    (agree : ∀ a b, f a = .ok b → g a = b) {l : List α} {l' : List β} :
    l.mapM f = .ok l' ↔ (∀ a ∈ l, ∃ b, f a = .ok b) ∧ l' = l.map g := by
  induction l generalizing l' with
  | nil => simp [pure, Except.pure, eq_comm]
  | cons a l ih =>
    rw [List.mapM_cons, bind_eq_ok_iff]
    constructor
    · rintro ⟨b, hb, h⟩
      obtain ⟨rest, hrest, last⟩ := bind_eq_ok_iff.1 h
      obtain ⟨all, rfl⟩ := ih.1 hrest
      cases last
      refine ⟨fun x hx => ?_, by rw [List.map_cons, agree a b hb]⟩
      rcases List.mem_cons.1 hx with rfl | hx
      · exact ⟨b, hb⟩
      · exact all x hx
    · rintro ⟨all, rfl⟩
      obtain ⟨b, hb⟩ := all a List.mem_cons_self
      refine ⟨b, hb, bind_eq_ok_iff.2 ⟨l.map g, ih.2 ⟨fun x hx => ?_, rfl⟩, ?_⟩⟩
      · exact all x (List.mem_cons_of_mem a hx)
      · rw [List.map_cons, agree a b hb]
        rfl

namespace Setting

/-- A setting is found by its group and its id. -/
def key (s : Setting) : Group × String := (s.group, s.parameter.id)

/-- All of a setting but its value. -/
def declaration (s : Setting) : Group × Declaration := (s.group, s.parameter.toDeclaration)

/-- The attempt to change a setting's parameter. Its group is put into the error. -/
def change (f : Group → Parameter → Except SettingError Parameter) (s : Setting) :
    Except SettingError Setting :=
  match f s.group s.parameter with
  | .ok p => .ok { s with parameter := p }
  | .error e => .error (SettingError.inGroup s.group e)

/-- The setting with its parameter changed; as it was where the change fails. -/
def changed (f : Group → Parameter → Except SettingError Parameter) (s : Setting) : Setting :=
  match f s.group s.parameter with
  | .ok p => { s with parameter := p }
  | .error _ => s

/-- The setting, with the data path's default below a directory. -/
def rebased (directory : String) (s : Setting) : Setting :=
  if s.key = (.smartnode, "dataPath") then
    { s with
      parameter.defaults :=
        s.parameter.defaults.set .all (some (.string (Catalog.dataPath directory))) }
  else s

@[simp] theorem rebased_key (directory : String) (s : Setting) :
    (s.rebased directory).key = s.key := by
  unfold rebased
  split <;> rfl

@[simp] theorem rebased_group (directory : String) (s : Setting) :
    (s.rebased directory).group = s.group := by
  unfold rebased
  split <;> rfl

@[simp] theorem rebased_value (directory : String) (s : Setting) :
    (s.rebased directory).parameter.value = s.parameter.value := by
  unfold rebased
  split <;> rfl

theorem rebased_of_root {directory : String} {s : Setting} (h : s.group = .root) :
    s.rebased directory = s := by
  simp [rebased, key, h]

@[simp] theorem changed_group (f : Group → Parameter → Except SettingError Parameter)
    (s : Setting) : (s.changed f).group = s.group := by
  unfold changed
  split <;> rfl

theorem changed_of_ok {f : Group → Parameter → Except SettingError Parameter} {s : Setting}
    {p : Parameter} (h : f s.group s.parameter = .ok p) : s.changed f = ⟨s.group, p⟩ := by
  rw [changed, h]

/-- A setting is its declaration and its value. -/
theorem eq_of_declaration_eq {s s' : Setting} (declaration : s.declaration = s'.declaration)
    (value : s.parameter.value = s'.parameter.value) : s = s' := by
  obtain ⟨group, p⟩ := s
  obtain ⟨group', q⟩ := s'
  obtain ⟨rfl, same⟩ := Prod.mk.inj declaration
  obtain ⟨d, v⟩ := p
  obtain ⟨e, w⟩ := q
  cases same
  cases value
  rfl

end Setting

namespace Configuration

variable {c c' : Configuration} {group : Group} {id : String} {p : Parameter}

/-- The keys of all settings. -/
def keys (c : Configuration) : List (Group × String) := c.settings.map (·.key)

/-- All settings without their values. -/
def declarations (c : Configuration) : List (Group × Declaration) :=
  c.settings.map (·.declaration)

/-! ## Traversals -/

theorem traverse_eq_ok_iff {f : Group → Parameter → Except SettingError Parameter} :
    c.traverse f = .ok c' ↔
      (∀ s ∈ c.settings, ∃ p, f s.group s.parameter = .ok p) ∧
        c' = { c with settings := c.settings.map (Setting.changed f) } := by
  have succeeds (s : Setting) : (∃ t, s.change f = .ok t) ↔ ∃ p, f s.group s.parameter = .ok p := by
    cases h : f s.group s.parameter <;> simp [Setting.change, h]
  have agree (s t : Setting) (h : s.change f = .ok t) : s.changed f = t := by
    cases hf : f s.group s.parameter with
    | error e => simp [Setting.change, hf] at h
    | ok p => simpa [Setting.change, hf, Setting.changed_of_ok hf] using h
  show (c.settings.mapM (Setting.change f) >>= fun settings => pure { c with settings }) =
    .ok c' ↔ _
  simp only [bind_eq_ok_iff, mapM_eq_ok_iff agree, succeeds]
  constructor
  · rintro ⟨_, ⟨all, rfl⟩, h⟩
    exact ⟨all, (Except.ok.inj h).symm⟩
  · rintro ⟨all, rfl⟩
    exact ⟨_, ⟨all, rfl⟩, rfl⟩

/-- What every changed parameter has, every setting has after the traversal. -/
theorem forall_of_traverse {f : Group → Parameter → Except SettingError Parameter}
    {P : Setting → Prop} (h : c.traverse f = .ok c')
    (each : ∀ s ∈ c.settings, ∀ p, f s.group s.parameter = .ok p → P ⟨s.group, p⟩) :
    ∀ s ∈ c'.settings, P s := by
  obtain ⟨all, rfl⟩ := traverse_eq_ok_iff.1 h
  intro s hs
  obtain ⟨t, ht, rfl⟩ := List.mem_map.1 hs
  obtain ⟨p, hp⟩ := all t ht
  rw [Setting.changed_of_ok hp]
  exact each t ht p hp

/-- A traversal that keeps each parameter's declaration keeps all of them. -/
theorem declarations_of_traverse {f : Group → Parameter → Except SettingError Parameter}
    (h : c.traverse f = .ok c')
    (each : ∀ s ∈ c.settings, ∀ p, f s.group s.parameter = .ok p →
      p.toDeclaration = s.parameter.toDeclaration) :
    c'.declarations = c.declarations := by
  obtain ⟨all, rfl⟩ := traverse_eq_ok_iff.1 h
  simp only [declarations, List.map_map]
  refine List.map_congr_left fun s hs => ?_
  obtain ⟨p, hp⟩ := all s hs
  simp only [Function.comp_apply, Setting.changed_of_ok hp, Setting.declaration, each s hs p hp]

theorem modify_settings (f : Parameter → Parameter) :
    (c.modify group id f).settings = c.settings.map fun s =>
      if s.key = (group, id) then { s with parameter := f s.parameter } else s := by
  simp [modify, Setting.key]

theorem rebase_eq :
    c.rebase = { c with settings := c.settings.map (Setting.rebased c.directory) } := by
  have settings : c.rebase.settings = c.settings.map (Setting.rebased c.directory) := by
    simp only [rebase, modify_settings]
    rfl
  rw [← settings]
  rfl

/-! ## Look-ups -/

theorem find?_eq (c : Configuration) (group : Group) (id : String) :
    c.find? group id = (c.settings.find? fun s => s.key = (group, id)).map (·.parameter) := by
  unfold find? parameters
  rw [List.find?_map, List.find?_filter]
  congr 2
  funext s
  simp [Setting.key]

/-- What is found stands among the settings. -/
theorem mem_of_find? (h : c.find? group id = some p) :
    (⟨group, p⟩ : Setting) ∈ c.settings ∧ p.id = id := by
  rw [find?_eq, Option.map_eq_some_iff] at h
  obtain ⟨⟨g, q⟩, found, rfl⟩ := h
  have key := List.find?_some found
  simp only [Setting.key, decide_eq_true_eq, Prod.mk.injEq] at key
  obtain ⟨rfl, rfl⟩ := key
  exact ⟨List.mem_of_find?_eq_some found, rfl⟩

/-- With no key used twice, a key determines its setting. -/
theorem eq_of_key_eq (unique : c.keys.Nodup) {s t : Setting} (hs : s ∈ c.settings)
    (ht : t ∈ c.settings) (h : s.key = t.key) : s = t :=
  List.inj_on_of_nodup_map unique hs ht h

theorem find?_eq_some_iff (unique : c.keys.Nodup) :
    c.find? group id = some p ↔ (⟨group, p⟩ : Setting) ∈ c.settings ∧ p.id = id := by
  refine ⟨mem_of_find?, ?_⟩
  rintro ⟨mem, rfl⟩
  have present : (c.find? group p.id).isSome := by
    rw [find?_eq, Option.isSome_map, List.find?_isSome]
    exact ⟨_, mem, by simp [Setting.key]⟩
  obtain ⟨q, found⟩ := Option.isSome_iff_exists.1 present
  obtain ⟨qmem, same⟩ := mem_of_find? found
  have := eq_of_key_eq unique qmem mem (Prod.ext rfl same)
  cases this
  exact found

end Configuration
end NodeSettings
