import NodeSettings.Proofs.Defaults
import NodeSettings.Proofs.Faults

/-!
Documents that are refused. `documentFaults` lists what is wrong with an upgraded document in the
order in which a load comes to it, and `Reachable.load_eq_error_iff` says that a load fails with the
first of these, or with what kept the document from being upgraded. A text that is not stored is
never at fault: its default is in order (`Catalog.exists_default`).
-/

namespace NodeSettings

/-- Why the text that a document has for a setting is refused, if it is. -/
def Setting.textFault? (m : Document) (s : Setting) : Option SettingError :=
  (m.text? s.group.key s.parameter.id).bind fun raw => errorIn? s.group (s.parameter.assignText raw)

namespace Configuration

variable {c c' : Configuration} {m stored : Document} {network : Network} {e : SettingError}

/-- The name of a network that there is not. -/
def networkFault? (m : Document) : Option SettingError :=
  (m.text? Group.smartnode.key "network").bind fun raw =>
    if (Named.find? raw : Option Network).isSome then none
    else some (.inGroup .smartnode (.unknownName "network" raw))

/-- A text that does not say whether the node runs natively. -/
def nativeFault? (m : Document) : Option SettingError :=
  (m.text? Group.root.key nativeKey).bind fun raw =>
    if (Value.parse? .bool raw).isSome then none
    else some (.inGroup .root (.notConvertible nativeKey .bool raw))

/-- The refused texts of a group, in display order. -/
def textFaults (c : Configuration) (m : Document) (group : Group) : List SettingError :=
  (c.parameters group).filterMap fun p => Setting.textFault? m ⟨group, p⟩

/-- Everything that is wrong with an upgraded document, in the order in which it is read. -/
def documentFaults (c : Configuration) (m : Document) : List SettingError :=
  (networkFault? m).toList ++ c.textFaults m .root ++ (nativeFault? m).toList
    ++ Group.services.flatMap (c.textFaults m)

theorem storedNetwork_eq_error_iff : storedNetwork m = .error e ↔ networkFault? m = some e := by
  unfold storedNetwork networkFault?
  cases m.text? Group.smartnode.key "network" with
  | none => simp
  | some raw =>
    cases found : (Named.find? raw : Option Network) <;> simp [Named.parse, found]

theorem storedNative_eq_error_iff {otherwise : Bool} :
    storedNative m otherwise = .error e ↔ nativeFault? m = some e := by
  unfold storedNative nativeFault?
  cases m.text? Group.root.key nativeKey with
  | none => simp
  | some raw =>
    cases spelled : Value.parseBool? (Text.trim raw) <;>
      simp [Value.parse?, spelled, Value.asBool?]

/-! ## The two passes -/

/-- The default of the data path has no part in what is said of a text for it. -/
theorem errorIn?_assignText_rebased (s : Setting) (directory : String) (group : Group)
    (raw : String) :
    errorIn? group ((s.rebased directory).parameter.assignText raw) =
      errorIn? group (s.parameter.assignText raw) := by
  unfold Setting.rebased
  split
  · unfold Parameter.assignText
    simp only
    cases Value.parse? s.parameter.kind raw with
    | none => rfl
    | some v =>
      unfold Parameter.assign
      show errorIn? group (s.parameter.check v >>= _) = errorIn? group (s.parameter.check v >>= _)
      cases s.parameter.check v <;> rfl
  · rfl

/-- A stored text is read, or refused, as it is when it is assigned. -/
theorem errorIn?_load_of_text {s : Setting} {directory raw : String}
    (text : m.text? s.group.key s.parameter.id = some raw) :
    errorIn? s.group ((s.rebased directory).parameter.load
      (m.text? s.group.key s.parameter.id) network) = s.textFault? m := by
  rw [Setting.textFault?, text]
  exact errorIn?_assignText_rebased s directory s.group raw

/-- A setting whose text is not stored is not at fault where its default is in order. -/
theorem errorIn?_load {s : Setting} (directory : String) {base : String}
    (declared : s.declaration ∈ Catalog.all base) (selectable : network ≠ .all ∨ s.group = .root) :
    errorIn? s.group ((s.rebased directory).parameter.load
      (m.text? s.group.key s.parameter.id) network) = s.textFault? m := by
  cases text : m.text? s.group.key s.parameter.id with
  | some raw =>
    rw [← text]
    exact errorIn?_load_of_text text
  | none =>
    have based : (s.rebased directory).declaration ∈ Catalog.all directory := by
      rw [rebased_declaration, ← Catalog.map_rebased_all base directory]
      exact List.mem_map_of_mem declared
    have selectable : network ≠ .all ∨ (s.rebased directory).declaration.1 = .root :=
      selectable.imp_right (Setting.rebased_group directory s).trans
    obtain ⟨v, default, allowed⟩ := Catalog.exists_default based selectable
    have reset : (s.rebased directory).parameter.reset network =
        .ok { (s.rebased directory).parameter with value := v } :=
      Parameter.reset_eq_ok_iff.2 ⟨v, default, allowed, rfl⟩
    simp [Setting.textFault?, text, Parameter.load, reset]

theorem fault?_takeTop {s : Setting} {base : String} (declared : s.declaration ∈ Catalog.all base) :
    s.fault? (takeTop m network) = if s.group = .root then s.textFault? m else none := by
  unfold Setting.fault? takeTop
  by_cases root : s.group = .root
  · rw [if_pos root, if_pos root, ← errorIn?_load "" declared (.inr root),
      Setting.rebased_of_root root]
  · simp [root]

/-- The second pass, over what the first pass and the rebasing made of a setting. -/
theorem fault?_takeRest {s : Setting} {directory : String} :
    ((s.changed (takeTop m network)).rebased directory).fault? (takeRest m network) =
      if s.group = .root then none
      else errorIn? s.group ((s.rebased directory).parameter.load
        (m.text? s.group.key s.parameter.id) network) := by
  unfold Setting.fault? takeRest
  by_cases root : s.group = .root
  · simp [root]
  · have top : s.changed (takeTop m network) = s :=
      Setting.changed_of_ok (by simp [takeTop, root])
    have id := (Prod.mk.inj (Setting.rebased_key directory s)).2
    simp [top, root, id]

theorem filterMap_root {β : Type} (known : c.outline = Catalog.outline) (f : Setting → Option β) :
    c.settings.filterMap (fun s => if s.group = .root then f s else none) =
      (c.parameters .root).filterMap fun p => f ⟨.root, p⟩ := by
  have others : (Group.services.flatMap fun group => (c.parameters group).filterMap fun p =>
      if group = .root then f ⟨group, p⟩ else none) = [] := by
    refine List.flatMap_eq_nil_iff.2 fun group hg =>
      List.filterMap_eq_nil_iff.2 fun p _ => if_neg ?_
    rintro rfl
    exact absurd hg (by decide)
  rw [filterMap_settings known, Group.all, List.flatMap_cons, others, List.append_nil]
  exact List.filterMap_congr fun p _ => if_pos rfl

theorem filterMap_services {β : Type} (known : c.outline = Catalog.outline)
    (f : Setting → Option β) :
    c.settings.filterMap (fun s => if s.group = .root then none else f s) =
      Group.services.flatMap fun group => (c.parameters group).filterMap fun p => f ⟨group, p⟩ := by
  have top : ((c.parameters .root).filterMap fun p =>
      if Group.root = .root then none else f ⟨.root, p⟩) = [] :=
    List.filterMap_eq_nil_iff.2 fun p _ => if_pos rfl
  rw [filterMap_settings known, Group.all, List.flatMap_cons, top, List.nil_append]
  refine List.flatMap_congr fun group hg => List.filterMap_congr fun p _ => if_neg ?_
  rintro rfl
  exact absurd hg (by decide)

end Configuration

namespace Catalog

/-- The network is the first setting below the top level, and every network to choose is one that a
node can be set up for. -/
theorem all_eq (directory : String) : ∃ d rest,
    all directory = topLevel.map (Prod.mk .root) ++ (.smartnode, d) :: rest ∧
      d.id = "network" ∧ d.kind = .choice ∧
      ∀ choice ∈ d.choices, ∃ n : Network, n ≠ .all ∧ choice.value = .ofNamed n :=
  ⟨_, _, rfl, rfl, rfl, List.forall_mem_cons.2 ⟨⟨.mainnet, nofun, rfl⟩,
    List.forall_mem_cons.2 ⟨⟨.prater, nofun, rfl⟩, nofun⟩⟩⟩

end Catalog

namespace Document

/-- What keeps a document from being upgraded is in no group. -/
theorem isBare_of_upgrade {stored : Document} {e : SettingError} (h : stored.upgrade = .error e) :
    e.IsBare := by
  rcases upgrade_eq_error_iff.1 h with h | ⟨found, -, -, rfl⟩
  · unfold version at h
    split at h
    · unfold Version.parse at h
      split at h
      · cases h
      · exact Except.error.inj h ▸ nofun
    · cases h
  · exact nofun

end Document

namespace Configuration

variable {c c' : Configuration} {m stored : Document} {network : Network} {e : SettingError}

/-- The name that stands for every network is no network to choose. -/
theorem exists_textFault {s : Setting} (named : storedNetwork m = .ok .all)
    (key : s.key = (.smartnode, "network")) (kind : s.parameter.kind = .choice)
    (choices : ∀ choice ∈ s.parameter.choices, ∃ n : Network, n ≠ .all ∧
      choice.value = .ofNamed n) :
    ∃ raw e, m.text? s.group.key s.parameter.id = some raw ∧ s.textFault? m = some e := by
  obtain ⟨group, id⟩ := Prod.mk.inj key
  rw [storedNetwork_eq_ok_iff] at named
  cases text : m.text? Group.smartnode.key "network" with
  | none => simp [text] at named
  | some raw =>
    rw [text] at named
    rw [← group, ← id] at text
    cases assigned : s.parameter.assignText raw with
    | error e =>
      exact ⟨raw, .inGroup s.group e, text, by simp [Setting.textFault?, text, assigned]⟩
    | ok q =>
      obtain ⟨v, parsed, allowed, -⟩ := Parameter.assignText_eq_ok_iff.1 assigned
      obtain ⟨choice, offered, value⟩ := allowed.choice kind
      obtain ⟨n, supported, is⟩ := choices choice offered
      rw [kind] at parsed
      have same : raw = n.name := by
        rw [is, ← Option.some.inj parsed] at value
        exact (Value.choice.inj value).symm
      rw [same] at named
      exact absurd (Option.some.inj ((Network.find?_name n).symm.trans named)) supported

/-- What the first pass has against the settings. -/
theorem filterMap_takeTop {base : String} (known : c.outline = Catalog.outline)
    (declared : c.declarations = Catalog.all base) :
    c.settings.filterMap (Setting.fault? (takeTop m network)) = c.textFaults m .root := by
  rw [textFaults, ← filterMap_root known (Setting.textFault? m)]
  refine List.filterMap_congr fun s hs => ?_
  have listed : s.declaration ∈ Catalog.all base := declared ▸ List.mem_map_of_mem hs
  exact fault?_takeTop listed

/-- What the second pass fails with. -/
theorem head?_takeRest {base : String} (known : c.outline = Catalog.outline)
    (declared : c.declarations = Catalog.all base) (named : storedNetwork m = .ok network)
    (directory : String) :
    (((c.settings.map (Setting.changed (takeTop m network))).map
      (Setting.rebased directory)).filterMap (Setting.fault? (takeRest m network))).head? =
      (Group.services.flatMap (c.textFaults m)).head? := by
  simp only [List.filterMap_map, Function.comp_def, fault?_takeRest]
  unfold textFaults
  rw [← filterMap_services known (Setting.textFault? m)]
  by_cases selectable : network = .all
  · -- Pocket's default is missing here, but the name of the network is refused before.
    subst selectable
    obtain ⟨d, rest, all, id, kind, choices⟩ := Catalog.all_eq base
    rw [all] at declared
    obtain ⟨tops, below, settings, top, first⟩ := List.map_eq_append_iff.1 declared
    obtain ⟨s, others, rfl, is, -⟩ := List.map_eq_cons_iff.1 first
    obtain ⟨group, rfl⟩ := Prod.mk.inj is
    obtain ⟨raw, e, text, fault⟩ :=
      exists_textFault named (Prod.ext group id) kind choices
    have notRoot : s.group ≠ .root := group ▸ nofun
    have skipped : ∀ s ∈ tops, s.group = .root := by
      intro s hs
      have : s.declaration ∈ Catalog.topLevel.map (Prod.mk .root) := top ▸ List.mem_map_of_mem hs
      obtain ⟨d, -, is⟩ := List.mem_map.1 this
      exact (Prod.mk.inj is).1.symm
    have skip (f : Setting → Option SettingError) (same : ∀ s ∈ tops, f s = none)
        (found : f s = some e) : (c.settings.filterMap f).head? = some e := by
      rw [settings, List.filterMap_append, List.filterMap_eq_nil_iff.2 same, List.nil_append,
        List.filterMap_cons_some found, List.head?_cons]
    refine (skip _ (fun t ht => if_pos (skipped t ht)) ?_).trans
      (skip _ (fun t ht => if_pos (skipped t ht)) ?_).symm
    · rw [if_neg notRoot, errorIn?_load_of_text text, fault]
    · rw [if_neg notRoot, fault]
  · refine congrArg List.head? (List.filterMap_congr fun s hs => ?_)
    have member : s.declaration ∈ Catalog.all base := declared ▸ List.mem_map_of_mem hs
    rw [errorIn?_load directory member (.inl selectable)]

/-- A load fails with what keeps the document from being upgraded, else with the first thing that is
wrong with the upgraded one. -/
theorem Reachable.load_eq_error_iff (h : c.Reachable Edit.Relocates) :
    c.load stored = .error e ↔ stored.upgrade = .error e ∨
      ∃ m, stored.upgrade = .ok m ∧ (c.documentFaults m).head? = some e := by
  obtain ⟨base, declared⟩ := h.declarations_eq
  have known := h.outline_eq
  show (stored.upgrade >>= fun m => storedNetwork m >>= fun network =>
    c.traverse (takeTop m network) >>= fun top => storedNative m c.isNative >>= fun isNative =>
    (Configuration.rebase { top with
      isNative
      directory := storedDirectory m c.directory
      version := (m.text? Group.root.key versionKey).getD c.version }).traverse
        (takeRest m network)) = .error e ↔ _
  rw [bind_eq_error_iff]
  refine or_congr_right (exists_congr fun m => and_congr_right fun _ => ?_)
  rw [documentFaults, List.head?_append, List.head?_append, List.head?_append,
    Option.head?_toList, Option.head?_toList]
  cases name : networkFault? m with
  | some e' => simp [storedNetwork_eq_error_iff.2 name, bind, Except.bind]
  | none =>
    cases named : storedNetwork m with
    | error e' => rw [storedNetwork_eq_error_iff.1 named] at name; cases name
    | ok network =>
      show (c.traverse (takeTop m network) >>= _) = .error e ↔ _
      rw [traverse_eq, filterMap_takeTop known declared]
      cases (c.textFaults m .root).head? with
      | some e' => simp [bind, Except.bind]
      | none =>
        show (storedNative m c.isNative >>= _) = .error e ↔ _
        cases spelling : nativeFault? m with
        | some e' => simp [storedNative_eq_error_iff.2 spelling, bind, Except.bind]
        | none =>
          cases spelled : storedNative m c.isNative with
          | error e' => rw [storedNative_eq_error_iff.1 spelled] at spelling; cases spelling
          | ok isNative =>
            show Configuration.traverse _ _ = .error e ↔ _
            rw [traverse_eq_error_iff, rebase_eq]
            show (List.filterMap _ (List.map _ (List.map _ c.settings))).head? = some e ↔ _
            rw [head?_takeRest known declared named]
            simp

theorem networkFault?_isSome_iff :
    (networkFault? m).isSome ↔
      ∃ raw, m.text? "smartnode" "network" = some raw ∧
        (Named.find? raw : Option Network) = none := by
  show ((m.text? "smartnode" "network").bind _).isSome ↔ _
  cases m.text? "smartnode" "network" with
  | none => simp
  | some raw => cases found : (Named.find? raw : Option Network) <;> simp [found]

theorem nativeFault?_isSome_iff :
    (nativeFault? m).isSome ↔
      ∃ raw, m.text? "root" "isNative" = some raw ∧ Value.parse? .bool raw = none := by
  show ((m.text? "root" "isNative").bind _).isSome ↔ _
  cases m.text? "root" "isNative" with
  | none => simp
  | some raw => cases parsed : Value.parse? .bool raw <;> simp [parsed]

theorem textFault?_isSome_iff {s : Setting} :
    (s.textFault? m).isSome ↔
      ∃ raw e, m.text? s.group.key s.parameter.id = some raw ∧
        s.parameter.assignText raw = .error e := by
  unfold Setting.textFault?
  cases m.text? s.group.key s.parameter.id with
  | none => simp
  | some raw => cases assigned : s.parameter.assignText raw <;> simp [assigned]

/-- Something is wrong with an upgraded document if the network, a text or the flag is. -/
theorem exists_documentFault_iff (known : c.outline = Catalog.outline) :
    (∃ e, (c.documentFaults m).head? = some e) ↔
      (networkFault? m).isSome ∨ (∃ s ∈ c.settings, (s.textFault? m).isSome) ∨
        (nativeFault? m).isSome := by
  have texts : (∃ s ∈ c.settings, (s.textFault? m).isSome) ↔
      (c.textFaults m .root).head?.isSome ∨
        (Group.services.flatMap (c.textFaults m)).head?.isSome := by
    rw [← List.findSome?_isSome_iff, ← List.head?_filterMap, filterMap_settings known, Group.all,
      List.flatMap_cons, List.head?_append, Option.isSome_or, Bool.or_eq_true]
    rfl
  rw [← Option.isSome_iff_exists, texts]
  simp only [documentFaults, List.head?_append, Option.head?_toList, Option.isSome_or,
    Bool.or_eq_true]
  tauto

/-- What can be wrong with an upgraded document: its network, how the node is run, or a text. -/
theorem documentFaults_cases (h : e ∈ c.documentFaults m) :
    (∃ raw, e = .inGroup .smartnode (.unknownName "network" raw)) ∨
      (∃ raw, e = .inGroup .root (.notConvertible nativeKey .bool raw)) ∨
      ∃ group, ∃ p ∈ c.parameters group, ∃ raw cause, p.assignText raw = .error cause ∧
        e = .inGroup group cause := by
  have texts {group : Group} (h : e ∈ c.textFaults m group) :
      ∃ p ∈ c.parameters group, ∃ raw cause, p.assignText raw = .error cause ∧
        e = .inGroup group cause := by
    obtain ⟨p, hp, fault⟩ := List.mem_filterMap.1 h
    obtain ⟨raw, -, refused⟩ := Option.bind_eq_some_iff.1 fault
    cases assigned : p.assignText raw with
    | ok q => simp [assigned] at refused
    | error cause =>
      rw [assigned] at refused
      exact ⟨p, hp, raw, cause, assigned, (Option.some.inj refused).symm⟩
  rcases List.mem_append.1 h with h | h
  · rcases List.mem_append.1 h with h | h
    · rcases List.mem_append.1 h with h | h
      · obtain ⟨raw, -, h⟩ := Option.bind_eq_some_iff.1 (Option.mem_toList.1 h)
        split at h
        · cases h
        · exact .inl ⟨raw, (Option.some.inj h).symm⟩
      · exact .inr (.inr ⟨.root, texts h⟩)
    · obtain ⟨raw, -, h⟩ := Option.bind_eq_some_iff.1 (Option.mem_toList.1 h)
      split at h
      · cases h
      · exact .inr (.inl ⟨raw, (Option.some.inj h).symm⟩)
  · obtain ⟨group, -, h⟩ := List.mem_flatMap.1 h
    exact .inr (.inr ⟨group, texts h⟩)

/-- What is wrong with an upgraded document is told with the group that it is in, and only that. -/
theorem isBare_of_mem_documentFaults (h : e ∈ c.documentFaults m) :
    ∃ group cause, e = .inGroup group cause ∧ cause.IsBare := by
  rcases documentFaults_cases h with
    ⟨raw, rfl⟩ | ⟨raw, rfl⟩ | ⟨group, p, -, raw, cause, refused, rfl⟩
  · exact ⟨_, _, rfl, nofun⟩
  · exact ⟨_, _, rfl, nofun⟩
  · exact ⟨group, cause, rfl,
      SettingError.isBare_of_subject (Parameter.subject_of_assignText refused)⟩

/-- When a load fails, and how. It fails if the document cannot be upgraded, names no network, has a
text that its setting refuses, or does not say in words that are understood whether the node runs
natively; no text that is missing makes it fail. Of several failures the first in the order of
`documentFaults` is told, inside the group that it is in. Then nothing has changed. -/
theorem Reachable.load_fails_iff (h : c.Reachable Edit.Relocates) (stored : Document) :
    ((∃ e, c.load stored = .error e) ↔
      (∃ e, stored.upgrade = .error e) ∨ ∃ m, stored.upgrade = .ok m ∧
        ((∃ raw, m.text? "smartnode" "network" = some raw ∧
            (Named.find? raw : Option Network) = none) ∨
          (∃ s ∈ c.settings, ∃ raw e, m.text? s.group.key s.parameter.id = some raw ∧
            s.parameter.assignText raw = .error e) ∨
          ∃ raw, m.text? "root" "isNative" = some raw ∧ Value.parse? .bool raw = none)) ∧
    (∀ e, c.load stored = .error e ↔ stored.upgrade = .error e ∨
      ∃ m, stored.upgrade = .ok m ∧ (c.documentFaults m).head? = some e) ∧
    (∀ e, stored.upgrade = .error e → e.IsBare) ∧
    (∀ m, ∀ e ∈ c.documentFaults m, ∃ group cause, e = .inGroup group cause ∧ cause.IsBare) ∧
    ∀ e, c.load stored = .error e → c.after (.load stored) = c := by
  refine ⟨?_, fun e => h.load_eq_error_iff, fun e => Document.isBare_of_upgrade,
    fun m e => isBare_of_mem_documentFaults, fun e failed => after_of_error failed⟩
  simp only [h.load_eq_error_iff, exists_or, ← networkFault?_isSome_iff, ← textFault?_isSome_iff,
    ← nativeFault?_isSome_iff, ← exists_documentFault_iff h.outline_eq]
  refine or_congr_right ⟨?_, ?_⟩
  · rintro ⟨e, m, upgraded, first⟩
    exact ⟨m, upgraded, e, first⟩
  · rintro ⟨m, upgraded, e, first⟩
    exact ⟨e, m, upgraded, first⟩

/-- The name for every network is refused by the setting, before the missing default of Pocket's
gateway or the bad cache size count. -/
theorem load_fails_every_network : ∃ (c : Configuration) (stored : Document),
    c.Reachable Edit.Relocates ∧
    c.load stored = .error (.inGroup .smartnode (.violation "network" (.notAnOption "all"))) ∧
    c.after (.load stored) = c := by
  let stored : Document := .ofList
    [("geth", .ofList [("cache", "-1")]), ("root", .ofList [("network", "all"), ("isNative", "1")])]
  let fault : SettingError := .inGroup .smartnode (.violation "network" (.notAnOption "all"))
  obtain ⟨c, reached, first⟩ :=
    exists_reachable Edit.Relocates "/srv/node" false (fun _ h => h)
      (P := fun c => (stored.upgrade.toOption.bind fun m => (c.documentFaults m).head?) =
        some fault) (by decide +kernel)
  cases upgraded : stored.upgrade with
  | error e => simp [upgraded, Except.toOption] at first
  | ok m =>
    obtain ⟨-, told, -, -, unchanged⟩ := reached.load_fails_iff stored
    have failed : c.load stored = .error fault :=
      (told fault).2 (.inr ⟨m, upgraded, by simpa [upgraded, Except.toOption] using first⟩)
    exact ⟨c, stored, reached, failed, unchanged fault failed⟩

end Configuration

end NodeSettings
