import NodeSettings.Proofs.Loading
import NodeSettings.Proofs.Run

/-!
What of a configuration its operations leave alone. `declarations_run`: an operation changes no
declaration, but that of the data path, whose default follows the base directory. `outline_eq`: a
run never touches more than the defaults and the choices of what the catalog declares, so that no
key is used twice in any configuration (`keys_nodup`).
-/

namespace NodeSettings

namespace Catalog

/-- Everything that is declared, for a base directory. -/
def all (directory : String) : List (Group × Declaration) :=
  Group.all.flatMap fun group => (declarations directory group).map fun d => (group, d)

/-- A declaration, with the data path's default below a directory. -/
def rebased (directory : String) (d : Group × Declaration) : Group × Declaration :=
  if d.1 = .smartnode ∧ d.2.id = "dataPath" then
    (d.1, { d.2 with defaults := d.2.defaults.set .all (some (.string (dataPath directory))) })
  else d

theorem declarations_eq_of_ne {group : Group} (h : group ≠ .smartnode) (a b : String) :
    declarations a group = declarations b group := by
  cases group <;> first | rfl | exact absurd rfl h

theorem map_rebased_declarations (a b : String) (group : Group) :
    ((declarations a group).map fun d => rebased b (group, d)) =
      (declarations b group).map fun d => (group, d) := by
  by_cases h : group = .smartnode
  · subst h
    simp [declarations, smartnode, rebased, Defaults.set, Defaults.always]
  · rw [declarations_eq_of_ne h a b]
    exact List.map_congr_left fun d _ => by simp [rebased, h]

/-- Rebasing the catalog gives the catalog for the other directory. -/
theorem map_rebased_all (a b : String) : (all a).map (rebased b) = all b := by
  simp only [all, List.map_flatMap, List.map_map]
  exact List.flatMap_congr fun group _ => map_rebased_declarations a b group

/-- The keys that the catalog declares, in order. -/
def keys : List (Group × String) := (all "").map fun d => (d.1, d.2.id)

theorem ids_nodup (group : Group) : ((declarations "" group).map (·.id)).Nodup := by
  cases group <;> decide

theorem keys_eq_flatMap :
    keys = Group.all.flatMap fun group => ((declarations "" group).map (·.id)).map (group, ·) := by
  simp [keys, all, List.map_flatMap, Function.comp_def]

theorem keys_nodup : keys.Nodup := by
  rw [keys_eq_flatMap, List.nodup_flatMap]
  refine ⟨fun group _ => ?_, ?_⟩
  · exact (ids_nodup group).map fun _ _ h => (Prod.mk.inj h).2
  · have distinct : Group.all.Nodup := by decide
    refine distinct.imp fun {g h} ne => ?_
    simp only [Function.onFun, List.disjoint_left, List.mem_map]
    rintro _ ⟨_, _, rfl⟩ ⟨_, _, same⟩
    exact ne (Prod.mk.inj same).1.symm

/-- The catalog without defaults and choices. -/
def outline : List (Group × Declaration) := (all "").map fun d => (d.1, d.2.bare)

theorem outline_eq (directory : String) :
    ((all directory).map fun d => (d.1, d.2.bare)) = outline := by
  have bare (d : Group × Declaration) :
      ((rebased directory d).1, (rebased directory d).2.bare) = (d.1, d.2.bare) := by
    unfold rebased
    split <;> rfl
  rw [← map_rebased_all "" directory, List.map_map, outline]
  exact List.map_congr_left fun d _ => bare d

theorem keys_eq_outline : keys = outline.map fun d => (d.1, d.2.id) := by
  simp [keys, outline, Declaration.bare]

theorem key_mem {directory : String} {d : Group × Declaration} (h : d ∈ all directory) :
    (d.1, d.2.id) ∈ keys := by
  have bare : (d.1, d.2.bare) ∈ outline := outline_eq directory ▸ List.mem_map_of_mem h
  rw [keys_eq_outline]
  exact List.mem_map.2 ⟨_, bare, rfl⟩

theorem mem_outline {group : Group} {d : Declaration} (h : d ∈ declarations "" group) :
    (group, d.bare) ∈ outline :=
  List.mem_map.2
    ⟨(group, d), List.mem_flatMap.2 ⟨group, Group.mem_all group, List.mem_map_of_mem h⟩, rfl⟩

theorem float_of_range : ∀ d ∈ outline, d.2.range.isSome → d.2.kind = .float := by
  have each (group : Group) :
      ∀ d ∈ declarations "" group, d.range.isSome → d.kind = .float := by
    cases group <;> decide
  intro d hd bounded
  obtain ⟨declared, mem, rfl⟩ := List.mem_map.1 hd
  obtain ⟨group, -, mem⟩ := List.mem_flatMap.1 mem
  obtain ⟨e, he, rfl⟩ := List.mem_map.1 mem
  exact each group e he bounded

end Catalog

namespace Configuration

variable {c c' : Configuration} {o : Operation} {e : Edit}

/-- All settings without their values, defaults and choices. -/
def outline (c : Configuration) : List (Group × Declaration) :=
  c.settings.map fun s => (s.group, s.parameter.bare)

theorem outline_eq_of_declarations : c.outline = c.declarations.map fun d => (d.1, d.2.bare) := by
  simp [outline, declarations, Setting.declaration]

theorem keys_eq_of_outline : c.keys = c.outline.map fun d => (d.1, d.2.id) := by
  simp only [keys, outline, List.map_map]
  rfl

theorem keys_eq (h : c.outline = Catalog.outline) : c.keys = Catalog.keys := by
  rw [keys_eq_of_outline, h, Catalog.keys_eq_outline]

theorem keys_nodup (h : c.outline = Catalog.outline) : c.keys.Nodup :=
  keys_eq h ▸ Catalog.keys_nodup

/-- What the catalog declares is found, with no more than its defaults and choices changed. -/
theorem exists_find? (known : c.outline = Catalog.outline) (group : Group) {d : Declaration}
    (declared : d ∈ Catalog.declarations "" group) :
    ∃ p, c.find? group d.id = some p ∧ p.bare = d.bare := by
  have listed : (group, d.bare) ∈ c.outline := known ▸ Catalog.mem_outline declared
  obtain ⟨⟨_, p⟩, hs, same⟩ := List.mem_map.1 listed
  obtain ⟨rfl, bare⟩ := Prod.mk.inj same
  have id : p.id = d.id := congrArg (·.id) bare
  exact ⟨p, (find?_eq_some_iff (keys_nodup known)).2 ⟨hs, id⟩, bare⟩

theorem declared_declarations (directory : String) (isNative : Bool) :
    (declared directory isNative).declarations = Catalog.all directory := by
  simp [declarations, declared, Catalog.all, List.map_flatMap, Setting.declaration,
    Parameter.ofDeclaration, Function.comp_def]

theorem rebased_declaration (directory : String) (s : Setting) :
    (s.rebased directory).declaration = Catalog.rebased directory s.declaration := by
  by_cases h : s.group = .smartnode ∧ s.parameter.id = "dataPath"
  · simp [Setting.rebased, Setting.key, Catalog.rebased, Setting.declaration, h]
  · simp [Setting.rebased, Setting.key, Catalog.rebased, Setting.declaration, h]

theorem rebase_declarations :
    c.rebase.declarations = c.declarations.map (Catalog.rebased c.directory) := by
  simp [rebase_eq, declarations, Function.comp_def, rebased_declaration]

/-- A parameter is given a value without a change to what is declared. -/
theorem declarations_of_assignAt {group : Group} {id : String}
    {f : Parameter → Except SettingError Parameter} (unique : c.keys.Nodup)
    (keeps : ∀ p q, f p = .ok q → q.toDeclaration = p.toDeclaration)
    (h : c.assignAt group id f = .ok c') : c'.declarations = c.declarations := by
  unfold assignAt at h
  cases found : c.find? group id with
  | none =>
    rw [found] at h
    exact Except.ok.inj h ▸ rfl
  | some p =>
    rw [found] at h
    obtain ⟨q, hq, last⟩ := bind_eq_ok_iff.1 h
    obtain ⟨mem, rfl⟩ := mem_of_find? found
    rw [← Except.ok.inj last]
    simp only [declarations, modify_settings, List.map_map]
    refine List.map_congr_left fun s hs => ?_
    simp only [Function.comp_apply]
    split
    · next key =>
      have := eq_of_key_eq unique hs mem key
      subst this
      exact Prod.ext rfl (keeps _ _ hq)
    · rfl

theorem declarations_of_switchNetwork {network : Network}
    (h : c.switchNetwork network = .ok c') : c'.declarations = c.declarations := by
  simp only [switchNetwork] at h
  split at h
  · exact Except.ok.inj h ▸ rfl
  · obtain ⟨chosen, first, second⟩ := bind_eq_ok_iff.1 h
    have choice : chosen.declarations = c.declarations := by
      refine declarations_of_traverse first fun s _ p hp => ?_
      split at hp
      · exact (Parameter.takes_of_assign hp).toDeclaration_eq
      · exact Except.ok.inj hp ▸ rfl
    have moved : c'.declarations = chosen.declarations := by
      refine declarations_of_traverse second fun s _ p hp => ?_
      rcases Parameter.eq_or_takes_of_follow hp with rfl | taken
      · rfl
      · exact taken.toDeclaration_eq
    exact moved.trans choice

theorem declarations_of_resetAll (h : c.resetAll = .ok c') :
    c'.declarations = c.declarations.map (Catalog.rebased c'.directory) := by
  have kept : c'.declarations = c.rebase.declarations :=
    declarations_of_traverse h fun _ _ _ hp => (Parameter.takes_of_reset hp).toDeclaration_eq
  unfold resetAll at h
  obtain ⟨-, rfl⟩ := traverse_eq_ok_iff.1 h
  exact kept.trans rebase_declarations

theorem declarations_of_refresh (h : c.refresh = .ok c') :
    c'.declarations = c.declarations := by
  refine declarations_of_traverse h fun s _ p hp => ?_
  split at hp
  · exact (Parameter.takes_of_reset hp).toDeclaration_eq
  · exact Except.ok.inj hp ▸ rfl

theorem declarations_of_load {stored : Document} (h : c.load stored = .ok c') :
    c'.declarations = c.declarations.map (Catalog.rebased c'.directory) := by
  obtain ⟨d, network, isNative, -, -, -, each, rfl⟩ := load_eq_ok_iff.1 h
  simp only [declarations, List.map_map]
  refine List.map_congr_left fun s hs => ?_
  obtain ⟨p, hp⟩ := each s hs
  simp only [Function.comp_apply, ← rebased_declaration, loaded_of_ok hp]
  exact Prod.ext (Setting.rebased_group _ s).symm (Parameter.takes_of_load hp).toDeclaration_eq

/-- The base directory is where resetting and loading put the data path's default. -/
theorem declarations_run (unique : c.keys.Nodup) (h : c.run o = .ok c') :
    c'.declarations = c.declarations ∨
      c'.declarations = c.declarations.map (Catalog.rebased c'.directory) := by
  cases o with
  | assign group id v =>
    exact .inl (declarations_of_assignAt unique
      (fun _ _ hq => (Parameter.takes_of_assign hq).toDeclaration_eq) h)
  | assignText group id raw =>
    exact .inl (declarations_of_assignAt unique
      (fun _ _ hq => (Parameter.takes_of_assignText hq).toDeclaration_eq) h)
  | switchNetwork network => exact .inl (declarations_of_switchNetwork h)
  | resetAll => exact .inr (declarations_of_resetAll h)
  | refresh => exact .inl (declarations_of_refresh h)
  | load stored => exact .inr (declarations_of_load h)

/-- Only a load changes more than the settings. -/
theorem exists_settings_of_run (h : c.run o = .ok c') (other : ∀ stored, o ≠ .load stored) :
    ∃ settings, c' = { c with settings } := by
  cases o with
  | assign group id v | assignText group id raw =>
    simp only [run, assignAt] at h
    split at h
    · obtain ⟨q, -, last⟩ := bind_eq_ok_iff.1 h
      exact ⟨_, (Except.ok.inj last).symm⟩
    · exact ⟨_, (Except.ok.inj h).symm⟩
  | switchNetwork network =>
    simp only [run, switchNetwork] at h
    split at h
    · exact ⟨_, (Except.ok.inj h).symm⟩
    · obtain ⟨chosen, first, second⟩ := bind_eq_ok_iff.1 h
      obtain ⟨-, rfl⟩ := traverse_eq_ok_iff.1 first
      obtain ⟨-, rfl⟩ := traverse_eq_ok_iff.1 second
      exact ⟨_, rfl⟩
  | resetAll | refresh =>
    simp only [run, resetAll, refresh] at h
    obtain ⟨-, rfl⟩ := traverse_eq_ok_iff.1 h
    exact ⟨_, rfl⟩
  | load stored => exact absurd rfl (other stored)

/-- No operation looks at or changes what is known of the execution clients. -/
theorem profiles_run (h : c.run o = .ok c') : c'.profiles = c.profiles := by
  by_cases load : ∃ stored, o = .load stored
  · obtain ⟨stored, rfl⟩ := load
    obtain ⟨_, _, _, -, -, -, -, rfl⟩ := load_eq_ok_iff.1 h
    rfl
  · obtain ⟨settings, rfl⟩ := exists_settings_of_run h (not_exists.1 load)
    rfl

/-! ## The outline -/

theorem outline_map_rebased (directory : String) (l : List (Group × Declaration)) :
    ((l.map (Catalog.rebased directory)).map fun d => (d.1, d.2.bare)) =
      l.map fun d => (d.1, d.2.bare) := by
  rw [List.map_map]
  refine List.map_congr_left fun d _ => ?_
  simp only [Function.comp_apply, Catalog.rebased]
  split <;> rfl

theorem outline_run (unique : c.keys.Nodup) (h : c.run o = .ok c') : c'.outline = c.outline := by
  rw [outline_eq_of_declarations, outline_eq_of_declarations]
  rcases declarations_run unique h with same | based
  · rw [same]
  · rw [based, outline_map_rebased]

/-- What of a declaration is the same for every parameter that may be modified stays. -/
theorem map_declarations_modify {β : Type} {F : Group × Declaration → β} {group : Group}
    {id : String} {f : Parameter → Parameter}
    (keeps : ∀ g p, F (g, (f p).toDeclaration) = F (g, p.toDeclaration)) :
    (c.modify group id f).declarations.map F = c.declarations.map F := by
  simp only [declarations, modify_settings, List.map_map]
  refine List.map_congr_left fun s _ => ?_
  simp only [Function.comp_apply]
  split
  · exact keeps s.group s.parameter
  · rfl

theorem outline_modify {group : Group} {id : String} {f : Parameter → Parameter}
    (keeps : ∀ p, (f p).bare = p.bare) : (c.modify group id f).outline = c.outline := by
  rw [outline_eq_of_declarations, outline_eq_of_declarations]
  exact map_declarations_modify fun g p => by rw [keeps p]

theorem outline_edit : (c.edit e).outline = c.outline := by
  cases e with
  | directory path | isNative flag | profile group profile => rfl
  | default group id network v | addChoice group id choice | choices group id choices =>
    exact outline_modify fun _ => rfl

theorem outline_fresh {directory : String} {isNative : Bool}
    (h : fresh directory isNative = .ok c) : c.outline = Catalog.outline := by
  rw [outline_eq_of_declarations, declarations_of_resetAll h, outline_map_rebased,
    declared_declarations, Catalog.outline_eq]

/-- No run touches more of a declaration than its defaults and its choices. -/
theorem Reachable.outline_eq {permitted : Edit → Prop} (h : c.Reachable permitted) :
    c.outline = Catalog.outline := by
  refine h.induct (fun _ _ _ => outline_fresh) (fun c o c' _ ih h => ?_) fun c e ih _ => ?_
  · rw [outline_run (keys_nodup ih) h, ih]
  · rw [outline_edit, ih]

theorem Reachable.keys_nodup {permitted : Edit → Prop} (h : c.Reachable permitted) :
    c.keys.Nodup :=
  Configuration.keys_nodup h.outline_eq

/-- What neither the base directory nor a permitted edit has a part in is as the catalog has it. -/
theorem Reachable.map_declarations_eq {permitted : Edit → Prop} {β : Type}
    {F : Group × Declaration → β} (based : ∀ directory d, F (Catalog.rebased directory d) = F d)
    (written : ∀ (c : Configuration) e, permitted e →
      (c.edit e).declarations.map F = c.declarations.map F) (h : c.Reachable permitted) :
    c.declarations.map F = (Catalog.all "").map F := by
  have rebased (directory : String) (l : List (Group × Declaration)) :
      (l.map (Catalog.rebased directory)).map F = l.map F := by
    rw [List.map_map]
    exact List.map_congr_left fun d _ => based directory d
  refine h.induct (P := fun c => c.declarations.map F = (Catalog.all "").map F)
    (fun directory isNative c fresh => ?_) (fun c o c' reached same ran => ?_)
    fun c e same allowed => (written c e allowed).trans same
  · rw [declarations_of_resetAll fresh, rebased, declared_declarations,
      ← Catalog.map_rebased_all "" directory, rebased]
  · rcases declarations_run reached.keys_nodup ran with kept | based
    · rw [kept, same]
    · rw [based, rebased, same]

/-- A run that edits no table has the catalog's declarations, for some base directory. -/
theorem Reachable.declarations_eq (h : c.Reachable Edit.Relocates) :
    ∃ base, c.declarations = Catalog.all base := by
  refine h.induct (P := fun c => ∃ base, c.declarations = Catalog.all base)
    (fun directory isNative c h => ?_) ?_ fun c e ih allowed => ?_
  · refine ⟨c.directory, ?_⟩
    rw [declarations_of_resetAll h, declared_declarations, Catalog.map_rebased_all]
  · rintro c o c' reached ⟨base, same⟩ h
    rcases declarations_run reached.keys_nodup h with kept | based
    · exact ⟨base, kept.trans same⟩
    · exact ⟨c'.directory, by rw [based, same, Catalog.map_rebased_all]⟩
  · cases e with
    | directory path | isNative flag => exact ih
    | default | addChoice | choices | profile => exact absurd allowed not_false

/-- Each of its settings is declared in the catalog. -/
theorem Reachable.exists_listed (h : c.Reachable Edit.Relocates) :
    ∃ base, ∀ s ∈ c.settings, s.declaration ∈ Catalog.all base := by
  obtain ⟨base, declared⟩ := h.declarations_eq
  exact ⟨base, fun s hs => declared ▸ List.mem_map_of_mem hs⟩

/-- Nor does it change what is known of the execution clients. -/
theorem Reachable.profiles_eq (h : c.Reachable Edit.Relocates) :
    c.profiles = fun _ => ⟨ConsensusClient.all, 25000⟩ := by
  have start {directory : String} {isNative : Bool} {c : Configuration}
      (h : Configuration.fresh directory isNative = .ok c) :
      c.profiles = fun _ => ⟨ConsensusClient.all, 25000⟩ := by
    unfold Configuration.fresh resetAll at h
    obtain ⟨-, rfl⟩ := traverse_eq_ok_iff.1 h
    rfl
  have written {c : Configuration} {e : Edit} (allowed : e.Relocates) :
      (c.edit e).profiles = c.profiles := by
    cases e with
    | directory path | isNative flag => rfl
    | default | addChoice | choices | profile => exact absurd allowed not_false
  exact h.induct (fun _ _ _ => start) (fun _ _ _ _ ih h => (profiles_run h).trans ih)
    fun _ _ ih allowed => (written allowed).trans ih

end Configuration
end NodeSettings
