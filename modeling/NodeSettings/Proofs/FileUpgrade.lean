import NodeSettings.Proofs.JsonText
import NodeSettings.Proofs.Obliging
import NodeSettings.Proofs.Refreshing

/-!
Bringing a settings file up to date. `upgrade_outcome`: whatever the system refuses, the file was
current and stays as it is, or there is an error and it stays as it is, or it holds the refreshed
configuration afterwards. In the last case a second upgrade finds it current, as long as the text
that is written is read back; with JSON it always is. A file that can be loaded is brought up to
date by every system that refuses nothing.
-/

namespace NodeSettings.SettingsFile

open FileTree StoreError

variable {t u : FileTree} {path : String} {system : FileSystem} {c r : Configuration} {d : Document}

/-! ## Reading -/

theorem readDocument_eq_some_iff :
    readDocument system t path = .ok (some d) ↔ ∃ text, t.readBy system path = .ok text ∧
      Document.decode text (.ofPath path) = .ok d := by
  unfold readDocument
  cases read : t.readBy system path with
  | error failure => cases failure <;> simp
  | ok text =>
    simp only [Except.ok.injEq, exists_eq_left']
    cases Document.decode text (.ofPath path) with
    | error e => simp [within, Except.map]
    | ok found => simp [within, Except.map]

theorem configurationOf_eq_ok_iff :
    configurationOf d path = .ok c ↔
      ∃ fresh, Configuration.fresh (baseDirectory d path) false = .ok fresh ∧
        fresh.load d = .ok c := by
  simp only [configurationOf, bind_eq_ok_iff, within_eq_ok_iff, ofSetting_eq_ok_iff]

theorem load_eq_some_iff :
    load system t path = .ok (some c) ↔ ∃ d, readDocument system t path = .ok (some d) ∧
      configurationOf d path = .ok c := by
  unfold load
  rw [bind_eq_ok_iff]
  constructor
  · rintro ⟨found, read, h⟩
    cases found with
    | none => cases h
    | some d =>
      obtain ⟨c', made, h⟩ := bind_eq_ok_iff.1 h
      cases h
      exact ⟨d, read, made⟩
  · rintro ⟨d, read, made⟩
    exact ⟨some d, read, bind_eq_ok_iff.2 ⟨c, made, rfl⟩⟩

/-- A file holds a configuration: whoever may read the file loads it as that. -/
def Holds (t : FileTree) (path : String) (c : Configuration) : Prop :=
  ∀ reader : FileSystem, reader.refuses .read t = false → load reader t path = .ok (some c)

theorem holds_of_read {text : String} (read : t.read path = .ok text)
    (decoded : Document.decode text (.ofPath path) = .ok d)
    (made : configurationOf d path = .ok c) : Holds t path c := fun _ grants =>
  load_eq_some_iff.2
    ⟨d, readDocument_eq_some_iff.2 ⟨text, readBy_eq_ok_iff.2 ⟨grants, read⟩, decoded⟩, made⟩

/-! ## What is due -/

theorem upgraded_eq_ok_iff :
    upgraded d path = .ok r ↔ ∃ c, configurationOf d path = .ok c ∧ c.refresh = .ok r := by
  simp only [upgraded, bind_eq_ok_iff, within_eq_ok_iff, ofSetting_eq_ok_iff]

theorem isCurrent_iff :
    isCurrent d = true ↔ d.text? "root" "version" = some Version.current.stamp :=
  beq_iff_eq

theorem due_of_read (read : readDocument system t path = .ok (some d)) :
    due system t path = (within (.readingVersion path) (ofSetting d.version) >>= fun _ =>
      if isCurrent d then .ok none else upgraded d path >>= fun r => .ok (some r)) := by
  unfold due
  rw [read]
  rfl

theorem exists_of_due {found : Option Configuration} (h : due system t path = .ok found) :
    ∃ d, readDocument system t path = .ok (some d) := by
  unfold due at h
  obtain ⟨d, read, h⟩ := bind_eq_ok_iff.1 h
  cases d with
  | none => cases h
  | some d => exact ⟨d, read⟩

/-- Nothing is due for a file that bears the very stamp of the current layout, and for no other. -/
theorem due_eq_none_iff :
    due system t path = .ok none ↔ ∃ d, readDocument system t path = .ok (some d) ∧
      d.text? "root" "version" = some Version.current.stamp := by
  constructor
  · intro h
    obtain ⟨d, read⟩ := exists_of_due h
    rw [due_of_read read] at h
    obtain ⟨_, -, h⟩ := bind_eq_ok_iff.1 h
    by_cases current : isCurrent d = true
    · exact ⟨d, read, isCurrent_iff.1 current⟩
    · rw [if_neg current] at h
      obtain ⟨_, -, h⟩ := bind_eq_ok_iff.1 h
      cases h
  · rintro ⟨d, read, stamp⟩
    rw [due_of_read read, Document.version_of_current stamp]
    exact if_pos (isCurrent_iff.2 stamp)

/-- Whether a file is current does not depend on who reads it. -/
theorem due_none_of_grants {system' : FileSystem} (h : due system t path = .ok none)
    (grants : system'.refuses .read t = false) : due system' t path = .ok none := by
  obtain ⟨d, read, stamp⟩ := due_eq_none_iff.1 h
  obtain ⟨text, read, decoded⟩ := readDocument_eq_some_iff.1 read
  have read' := readBy_eq_ok_iff.2 ⟨grants, (readBy_eq_ok_iff.1 read).2⟩
  exact due_eq_none_iff.2 ⟨d, readDocument_eq_some_iff.2 ⟨text, read', decoded⟩, stamp⟩

theorem upgraded_of_due (h : due system t path = .ok (some r)) :
    ∃ d, readDocument system t path = .ok (some d) ∧ upgraded d path = .ok r := by
  obtain ⟨d, read⟩ := exists_of_due h
  rw [due_of_read read] at h
  obtain ⟨_, -, h⟩ := bind_eq_ok_iff.1 h
  by_cases current : isCurrent d = true
  · rw [if_pos current] at h
    cases h
  · rw [if_neg current] at h
    obtain ⟨r', made, h⟩ := bind_eq_ok_iff.1 h
    cases h
    exact ⟨d, read, made⟩

/-- What can be loaded can be refreshed too. -/
theorem exists_due (held : load system t path = .ok (some c)) :
    ∃ found, due system t path = .ok found := by
  obtain ⟨d, read, made⟩ := load_eq_some_iff.1 held
  obtain ⟨g, fresh, loaded⟩ := configurationOf_eq_ok_iff.1 made
  have reached : g.Reachable Edit.Relocates := .fresh fresh
  obtain ⟨r, refreshed⟩ := (reached.of_run (o := .load d) loaded).exists_refresh
  obtain ⟨m, _, _, migrated, -⟩ := reached.load_eq_ok_iff.1 loaded
  obtain ⟨found, version, -⟩ := Document.upgrade_eq_ok_iff.1 migrated
  rw [due_of_read read, version, upgraded_eq_ok_iff.2 ⟨c, made, refreshed⟩]
  by_cases current : isCurrent d = true
  · exact ⟨none, if_pos current⟩
  · exact ⟨some r, if_neg current⟩

/-- What is saved for an old document is loaded as what was saved. -/
theorem configurationOf_upgraded (h : upgraded d path = .ok r) :
    configurationOf r.document path = .ok r := by
  obtain ⟨c, made, refreshed⟩ := upgraded_eq_ok_iff.1 h
  obtain ⟨g, fresh, loaded⟩ := configurationOf_eq_ok_iff.1 made
  have directory : baseDirectory r.document path = r.directory := by
    rw [baseDirectory, show Group.root.key = "root" from rfl,
      Configuration.text?_document_directory, Option.getD_some]
  obtain ⟨g', fresh'⟩ := Configuration.exists_fresh r.directory false
  refine configurationOf_eq_ok_iff.2 ⟨g', directory ▸ fresh', ?_⟩
  exact Configuration.load_document_of_refresh (.fresh fresh) (.fresh fresh') loaded refreshed

/-! ## Upgrades -/

/-- How an upgrade can end. -/
inductive Ends (system : FileSystem) (t : FileTree) (path : String) :
    Except (Failed StoreError) (FileTree × Bool) → Prop
  | refused {e : StoreError} : due system t path = .error e → Ends system t path (.error ⟨e, t⟩)
  | current : due system t path = .ok none → Ends system t path (.ok (t, false))
  | failed {r : Configuration} {failed : Failed StoreError} :
      due system t path = .ok (some r) → save system t r path = .error failed →
        Ends system t path (.error failed)
  | saved {r : Configuration} {u : FileTree} :
      due system t path = .ok (some r) → save system t r path = .ok u →
        Ends system t path (.ok (u, true))

theorem ends_upgrade (system : FileSystem) (t : FileTree) (path : String) :
    Ends system t path (upgrade system t path) := by
  unfold upgrade
  cases found : due system t path with
  | error e => exact .refused found
  | ok r =>
    cases r with
    | none => exact .current found
    | some r =>
      cases saved : save system t r path with
      | error failed =>
        simp only [saved]
        exact .failed found saved
      | ok u =>
        simp only [saved]
        exact .saved found saved

theorem upgrade_of_due_none (h : due system t path = .ok none) :
    upgrade system t path = .ok (t, false) := by
  rw [upgrade, h]

/-- Where an upgrade is due there is a file. -/
theorem exists_find_of_due (due : due system t path = .ok (some r)) :
    ∃ mode before, t.find path = .ok (.file mode before) := by
  obtain ⟨d, read, -⟩ := upgraded_of_due due
  obtain ⟨text, read, -⟩ := readDocument_eq_some_iff.1 read
  obtain ⟨mode, before, there, -⟩ := read_eq_ok_iff.1 (readBy_eq_ok_iff.1 read).2
  exact ⟨mode, before, there⟩

/-- The save for an upgrade rewrites the file. -/
theorem rewrites_of_due (due : due system t path = .ok (some r))
    (saved : save system t r path = .ok u) :
    t.Rewrites path (r.document.encode (.ofPath path)).toUTF8 u := by
  obtain ⟨mode, before, there⟩ := exists_find_of_due due
  exact rewrites_of_save there saved

/-- A system that refuses nothing upgrades every file that can be loaded. -/
theorem exists_upgrade (obliges : system.Obliges) (held : load system t path = .ok (some c)) :
    ∃ u changed, upgrade system t path = .ok (u, changed) := by
  obtain ⟨found, isDue⟩ := exists_due held
  cases found with
  | none => exact ⟨t, false, upgrade_of_due_none isDue⟩
  | some r =>
    obtain ⟨mode, before, there⟩ := exists_find_of_due isDue
    obtain ⟨u, saved⟩ := exists_save obliges there r
    refine ⟨u, true, ?_⟩
    rw [upgrade, isDue]
    simp only [saved]
    rfl

/-- A file that was brought up to date holds the refreshed configuration. -/
theorem holds_of_rewrites (due : due system t path = .ok (some r))
    (rewrites : t.Rewrites path (r.document.encode (.ofPath path)).toUTF8 u)
    (readsBack : Document.decode (r.document.encode (.ofPath path)) (.ofPath path) =
      .ok r.document) : Holds u path r := by
  obtain ⟨d, -, made⟩ := upgraded_of_due due
  exact holds_of_read rewrites.read_eq readsBack (configurationOf_upgraded made)

/-- Whoever may read a file that was brought up to date finds it current. -/
theorem due_of_rewrites
    (rewrites : t.Rewrites path (r.document.encode (.ofPath path)).toUTF8 u)
    (readsBack : Document.decode (r.document.encode (.ofPath path)) (.ofPath path) =
      .ok r.document) (grants : system.refuses .read u = false) :
    due system u path = .ok none := by
  refine due_eq_none_iff.2 ⟨r.document, ?_, Configuration.text?_document_version r⟩
  exact readDocument_eq_some_iff.2
    ⟨_, readBy_eq_ok_iff.2 ⟨grants, rewrites.read_eq⟩, readsBack⟩

/-- What an upgrade does to a file. It finds the file current exactly if the file bears the very
stamp of the current layout and may be read, and then does nothing. With an error it leaves every
file as it was. Otherwise the file keeps its permissions and holds what it held, with the settings
that track the software's version at their defaults; no other file changes. After that, and where
nothing was due, another upgrade finds the file current if it may read it. A file that can be loaded
gives no error, unless the system refuses something. -/
theorem upgrade_outcome (system : FileSystem) (t : FileTree) (path : String)
    (readsBack : ∀ r, due system t path = .ok (some r) →
      Document.decode (r.document.encode (.ofPath path)) (.ofPath path) = .ok r.document) :
    ((∃ u, upgrade system t path = .ok (u, false)) ↔
      ∃ text d, t.readBy system path = .ok text ∧ Document.decode text (.ofPath path) = .ok d ∧
        d.text? "root" "version" = some "v1.5.0") ∧
    (∀ u, upgrade system t path = .ok (u, false) → u = t) ∧
    (∀ failed, upgrade system t path = .error failed → t.SameFiles failed.tree) ∧
    (∀ u, upgrade system t path = .ok (u, true) →
      ∃ c r, load system t path = .ok (some c) ∧ c.Refreshes r ∧ Holds u path r ∧
        t.Rewrites path (r.document.encode (.ofPath path)).toUTF8 u) ∧
    (∀ u changed, upgrade system t path = .ok (u, changed) →
      ∀ system' : FileSystem, system'.refuses .read u = false →
        upgrade system' u path = .ok (u, false)) ∧
    ∀ c, load system t path = .ok (some c) → system.Obliges →
      ∃ u changed, upgrade system t path = .ok (u, changed) := by
  have stamp : Version.current.stamp = "v1.5.0" := by decide +kernel
  have ends := ends_upgrade system t path
  refine ⟨⟨?_, ?_⟩, ?_, ?_, ?_, ?_, fun c held obliges => exists_upgrade obliges held⟩
  · rintro ⟨u, h⟩
    rw [h] at ends
    cases ends with
    | current none =>
      obtain ⟨d, read, current⟩ := due_eq_none_iff.1 none
      obtain ⟨text, read, decoded⟩ := readDocument_eq_some_iff.1 read
      exact ⟨text, d, read, decoded, stamp ▸ current⟩
  · rintro ⟨text, d, read, decoded, current⟩
    have read := readDocument_eq_some_iff.2 ⟨text, read, decoded⟩
    exact ⟨t, upgrade_of_due_none (due_eq_none_iff.2 ⟨d, read, stamp ▸ current⟩)⟩
  · intro u h
    rw [h] at ends
    cases ends with
    | current none => rfl
  · intro failed h
    rw [h] at ends
    cases ends with
    | refused => exact (Extends.refl t).sameFiles
    | failed due save => exact ((save_outcome system t _ path).1 failed save).sameFiles
  · intro u h
    rw [h] at ends
    cases ends with
    | @saved r _ due save =>
      obtain ⟨d, read, made⟩ := upgraded_of_due due
      obtain ⟨c, held, refreshed⟩ := upgraded_eq_ok_iff.1 made
      have rewrites := rewrites_of_due due save
      exact ⟨c, r, load_eq_some_iff.2 ⟨d, read, held⟩, Configuration.refreshes_of_refresh refreshed,
        holds_of_rewrites due rewrites (readsBack r due), rewrites⟩
  · intro u changed h system' grants
    rw [h] at ends
    cases ends with
    | current none => exact upgrade_of_due_none (due_none_of_grants none grants)
    | @saved r _ due save =>
      exact upgrade_of_due_none
        (due_of_rewrites (rewrites_of_due due save) (readsBack r due) grants)

/-- A file of an older layout is brought up to date once, and keeps its permissions. -/
theorem upgrade_outcome_old : ∃ (t u : FileTree) (c r : Configuration) (bytes : ByteArray),
    upgrade .plain t "s.json" = .ok (u, true) ∧ load .plain t "s.json" = .ok (some c) ∧
    (c.network = .prater ∧ c.text .geth "containerTag" = "geth:old") ∧ c.Refreshes r ∧
    load .plain u "s.json" = .ok (some r) ∧ u.find "s.json" = .ok (.file 0o640 bytes) ∧
    upgrade .plain u "s.json" = .ok (u, false) := by
  let text : String := "\x7b\"root\": \x7b\"version\": \"v1.4.0\"\x7d, " ++
    "\"smartnode\": \x7b\"network\": \"prater\"\x7d, " ++
    "\"geth\": \x7b\"containerTag\": \"geth:old\"\x7d\x7d"
  let d : Document := .ofList
    [("root", .ofList [("version", "v1.4.0")]), ("smartnode", .ofList [("network", "prater")]),
      ("geth", .ofList [("containerTag", "geth:old")])]
  let t : FileTree := ⟨.ofList [("s.json", .file 0o640 text.toUTF8)]⟩
  have json : Document.Format.ofPath "s.json" = .json := by decide +kernel
  have decodes : (Document.decode text .json).toOption = some d := by decide +kernel
  have holds : ((configurationOf d "s.json").toOption.map fun c =>
      (c.network, c.text .geth "containerTag")) = some (.prater, "geth:old") := by decide +kernel
  have old : d.text? "root" "version" = some "v1.4.0" := by decide +kernel
  have there : t.find "s.json" = .ok (.file 0o640 text.toUTF8) := by rfl
  have read : readDocument .plain t "s.json" = .ok (some d) := by
    refine readDocument_eq_some_iff.2 ⟨text, ?_, json ▸ eq_ok_of_toOption decodes⟩
    refine readBy_eq_ok_iff.2 ⟨rfl, ?_⟩
    exact read_eq_ok_iff.2 ⟨_, _, there, fromUTF8?_toUTF8 text⟩
  obtain ⟨c, made, facts⟩ := Option.map_eq_some_iff.1 holds
  have held : load .plain t "s.json" = .ok (some c) :=
    load_eq_some_iff.2 ⟨d, read, eq_ok_of_toOption made⟩
  obtain ⟨current, -, -, changed, again, succeeds⟩ :=
    upgrade_outcome .plain t "s.json" fun r _ => by
      rw [json]
      exact Document.decode_encode_json r.document
  obtain ⟨u, isChanged, changes⟩ := succeeds c held plain_obliges
  cases isChanged with
  | false =>
    -- The stamp is another than the current one.
    obtain ⟨text', d', read', decoded, stamp⟩ := current.1 ⟨u, changes⟩
    cases read.symm.trans (readDocument_eq_some_iff.2 ⟨text', read', decoded⟩)
    exact absurd (old.symm.trans stamp) (by decide)
  | true =>
    obtain ⟨c', r, held', refreshes, now, place, mode, before, leads, leads', stood, stands, -⟩ :=
      changed u changes
    cases held.symm.trans held'
    cases there.symm.trans (find_eq_ok_iff.2 ⟨place, leads, stood⟩)
    exact ⟨t, u, c, r, _, changes, held, Prod.mk.inj facts, refreshes, now .plain rfl,
      find_eq_ok_iff.2 ⟨place, leads', stands⟩, again u true changes .plain rfl⟩

end NodeSettings.SettingsFile
