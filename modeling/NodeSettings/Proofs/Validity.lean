import NodeSettings.Proofs.Declared

/-!
What holds of every parameter in every run. What a check brings about, every operation leaves true
(`every_run`). So each parameter holds a value that its own rules allow, as long as no choice is
taken away (`Reachable.isValid`), and one of its kind in any case (`Reachable.kind_eq`).
`Reachable.holds_allowed_values` also says what no operation touches.
-/

namespace NodeSettings

namespace Configuration

variable {c c' : Configuration} {o : Operation} {e : Edit}

/-! ## What every operation leaves true of all parameters -/

/-- Every parameter of the configuration is as `Q` says. -/
def Every (Q : Parameter → Prop) (c : Configuration) : Prop := ∀ s ∈ c.settings, Q s.parameter

section Every

variable {Q : Parameter → Prop} (taken : ∀ p q : Parameter, p.Takes q → Q q)

include taken

theorem every_of_assignAt {group : Group} {id : String}
    {f : Parameter → Except SettingError Parameter} (all : c.Every Q)
    (takes : ∀ p q, f p = .ok q → p.Takes q) (h : c.assignAt group id f = .ok c') :
    c'.Every Q := by
  unfold assignAt at h
  cases found : c.find? group id with
  | none =>
    rw [found] at h
    exact Except.ok.inj h ▸ all
  | some p =>
    rw [found] at h
    obtain ⟨q, hq, last⟩ := bind_eq_ok_iff.1 h
    rw [← Except.ok.inj last]
    unfold Every
    rw [modify_settings]
    refine List.forall_mem_map.2 fun s hs => ?_
    split
    · exact taken p q (takes p q hq)
    · exact all s hs

theorem every_of_switchNetwork {network : Network} (all : c.Every Q)
    (h : c.switchNetwork network = .ok c') : c'.Every Q := by
  simp only [switchNetwork] at h
  split at h
  · exact Except.ok.inj h ▸ all
  · obtain ⟨chosen, first, second⟩ := bind_eq_ok_iff.1 h
    -- Defaults may be of any kind by now: each pass keeps only what passes its check.
    have chosenAll : chosen.Every Q := by
      refine forall_of_traverse first fun s hs p hp => ?_
      split at hp
      · exact taken _ p (Parameter.takes_of_assign hp)
      · exact Except.ok.inj hp ▸ all s hs
    refine forall_of_traverse second fun s hs p hp => ?_
    rcases Parameter.eq_or_takes_of_follow hp with rfl | follows
    · exact chosenAll s hs
    · exact taken _ p follows

/-- Whatever the settings held before, a reset leaves checked values only. -/
theorem every_of_resetAll (h : c.resetAll = .ok c') : c'.Every Q :=
  forall_of_traverse h fun _ _ _ hp => taken _ _ (Parameter.takes_of_reset hp)

theorem every_of_refresh (all : c.Every Q) (h : c.refresh = .ok c') : c'.Every Q := by
  refine forall_of_traverse h fun s hs p hp => ?_
  split at hp
  · exact taken _ p (Parameter.takes_of_reset hp)
  · exact Except.ok.inj hp ▸ all s hs

/-- Whatever the settings held before, a load leaves checked values only. -/
theorem every_of_load {stored : Document} (h : c.load stored = .ok c') : c'.Every Q := by
  obtain ⟨d, network, isNative, -, -, -, each, rfl⟩ := load_eq_ok_iff.1 h
  refine List.forall_mem_map.2 fun s hs => ?_
  obtain ⟨p, hp⟩ := each s hs
  rw [loaded_of_ok hp]
  exact taken _ p (Parameter.takes_of_load hp)

theorem every_run (all : c.Every Q) (h : c.run o = .ok c') : c'.Every Q := by
  cases o with
  | assign group id v =>
    exact every_of_assignAt taken all (fun _ _ => Parameter.takes_of_assign) h
  | assignText group id raw =>
    exact every_of_assignAt taken all (fun _ _ => Parameter.takes_of_assignText) h
  | switchNetwork network => exact every_of_switchNetwork taken all h
  | resetAll => exact every_of_resetAll taken h
  | refresh => exact every_of_refresh taken all h
  | load stored => exact every_of_load taken h

end Every

theorem every_modify {Q : Parameter → Prop} {group : Group} {id : String}
    {f : Parameter → Parameter} (all : c.Every Q) (keeps : ∀ p, Q p → Q (f p)) :
    (c.modify group id f).Every Q := by
  unfold Every
  rw [modify_settings]
  refine List.forall_mem_map.2 fun s hs => ?_
  split
  · exact keeps _ (all s hs)
  · exact all s hs

/-! ## Allowed values -/

/-- Every parameter holds a value that its rules allow. -/
def IsValid (c : Configuration) : Prop := ∀ s ∈ c.settings, s.parameter.IsValid

theorem isValid_edit (valid : c.IsValid) (allowed : e.KeepsChoices) : (c.edit e).IsValid := by
  cases e with
  | directory path | isNative flag | profile group profile => exact valid
  | default group id network v =>
    exact every_modify valid fun p hp => hp.mono rfl (List.Subset.refl _)
  | addChoice group id choice =>
    exact every_modify valid fun p hp => hp.mono rfl (List.subset_append_left _ _)
  | choices group id choices => exact absurd allowed not_false

theorem Reachable.isValid (h : c.Reachable Edit.KeepsChoices) : c.IsValid :=
  h.induct (fun _ _ _ => every_of_resetAll fun _ _ taken => taken.isValid)
    (fun _ _ _ _ => every_run fun _ _ taken => taken.isValid) fun _ _ => isValid_edit

/-- Even where choices are taken away each parameter holds a value of its kind. -/
theorem Reachable.kind_eq {permitted : Edit → Prop} (h : c.Reachable permitted) {s : Setting}
    (hs : s ∈ c.settings) : s.parameter.value.kind = s.parameter.kind := by
  have taken (p q : Parameter) (h : p.Takes q) : q.value.kind = q.kind := h.isValid.kind
  have written (c : Configuration) (e : Edit)
      (all : c.Every fun p => p.value.kind = p.kind) :
      (c.edit e).Every fun p => p.value.kind = p.kind := by
    cases e with
    | directory path | isNative flag | profile group profile => exact all
    | default group id network v | addChoice group id choice | choices group id choices =>
      exact every_modify all fun _ hp => hp
  exact h.induct (fun _ _ _ => every_of_resetAll taken) (fun _ _ _ _ => every_run taken)
    (fun c e all _ => written c e all) s hs

/-- Only numbers with a fraction are bounded, so that a bound is held exactly. -/
theorem Reachable.float_of_range {permitted : Edit → Prop} (h : c.Reachable permitted) {s : Setting}
    (hs : s ∈ c.settings) (bounded : s.parameter.range.isSome) : s.parameter.kind = .float := by
  have declared : (s.group, s.parameter.bare) ∈ Catalog.outline :=
    h.outline_eq ▸ List.mem_map_of_mem hs
  exact Catalog.float_of_range _ declared bounded

/-- In every state of every run each parameter holds a value of its kind that its choices, its
limits and its pattern allow, whatever was written into the tables. No operation changes what is
declared, but for the data path's default, and one that fails changes nothing. -/
theorem Reachable.holds_allowed_values (h : c.Reachable Edit.KeepsChoices) :
    (∀ s ∈ c.settings, s.parameter.toDeclaration.Allows s.parameter.value ∧
      (s.parameter.range.isSome → ∃ x, s.parameter.value = .float x)) ∧
    ∀ o, ((c.after o).declarations = c.declarations ∨
        (c.after o).declarations = c.declarations.map (Catalog.rebased (c.after o).directory)) ∧
      ∀ e, c.run o = .error e → c.after o = c := by
  refine ⟨fun s hs => ⟨h.isValid s hs, fun bounded => ?_⟩, fun o => ⟨?_, fun e => after_of_error⟩⟩
  · have kind := (h.isValid s hs).kind.trans (h.float_of_range hs bounded)
    cases value : s.parameter.value with
    | float x => exact ⟨x, rfl⟩
    | bool | int | uint | uint16 | string | choice =>
      rw [value] at kind
      exact absurd kind nofun
  · cases outcome : c.run o with
    | ok c' =>
      rw [after_of_ok outcome]
      exact declarations_run h.keys_nodup outcome
    | error e =>
      rw [after_of_error outcome]
      exact .inl rfl

/-- A default of the wrong kind makes a switch fail on its way through the settings. -/
theorem holds_allowed_values_failed_switch : ∃ c : Configuration,
    c.Reachable Edit.KeepsChoices ∧ (c.run (.switchNetwork .prater)).isOk = false ∧
    (∀ s ∈ c.settings, s.parameter.toDeclaration.Allows s.parameter.value ∧
      (s.parameter.range.isSome → ∃ x, s.parameter.value = .float x)) ∧
    ∀ o, ((c.after o).declarations = c.declarations ∨
        (c.after o).declarations = c.declarations.map (Catalog.rebased (c.after o).directory)) ∧
      ∀ e, c.run o = .error e → c.after o = c := by
  let wrong : Edit := .default .pocket "gatewayID" .prater (some (.bool true))
  have fails : ((fresh "/srv/node" false).toOption.map fun c =>
      ((c.edit wrong).run (.switchNetwork .prater)).isOk) = some false := by decide +kernel
  cases h : fresh "/srv/node" false with
  | error e => simp [h, Except.toOption] at fails
  | ok c =>
    have reached : (c.edit wrong).Reachable Edit.KeepsChoices := .edit trivial (.fresh h)
    exact ⟨c.edit wrong, reached, by simpa [h, Except.toOption] using fails,
      reached.holds_allowed_values⟩

end Configuration
end NodeSettings
