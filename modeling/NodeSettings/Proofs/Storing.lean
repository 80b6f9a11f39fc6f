import NodeSettings.Proofs.FileUpgrade

/-!
Settings files as a store. `load_of_save`: whatever the system refuses, what was saved at a path is
loaded from it again, and saving that once more leaves every byte of the tree as it is. The file
keeps its permissions, a new one is private to its owner, and beside it only directories on its way
are new. A save that fails has changed no file and left none behind.
-/

namespace NodeSettings.SettingsFile

open FileTree

variable {t u v : FileTree} {place : List String} {path : String} {system : FileSystem}
  {c : Configuration} {bytes : ByteArray} {mode : Nat}

/-- The places that the directory of a path comes by. -/
def wayTo (path : String) : List (List String) := way [] (Path.components (directoryOf path))

/-- `u` is `t` with a file at a path, at the place that the path leads to. Every directory on the
way is there, and nothing else is new. -/
structure Saves (t : FileTree) (path : String) (bytes : ByteArray) (u : FileTree)
    (place : List String) (mode : Nat) : Prop where
  leads : u.locate path = .ok place
  stands : u.at? place = some (.file mode bytes)
  /-- A file that was there keeps its permissions; a new one may be read and written by its
  owner. -/
  permissions : (∃ before, t.at? place = some (.file mode before)) ∨
    (t.at? place = none ∧ mode = 0o600)
  directories : ∀ passed ∈ wayTo path, ∃ mode, u.at? passed = some (.directory mode)
  others : ∀ key ≠ keyOf place, u.entries.get? key = t.entries.get? key ∨
    (t.entries.get? key = none ∧ u.entries.get? key = some (.directory directoryMode) ∧
      ∃ passed ∈ wayTo path, key = keyOf passed)

namespace Saves

theorem named (h : Saves t path bytes u place mode) : place ≠ [] :=
  ne_nil_of_at? fun mode is => by
    rw [h.stands] at is
    cases is

theorem find_eq (h : Saves t path bytes u place mode) : u.find path = .ok (.file mode bytes) :=
  find_eq_ok_iff.2 ⟨place, h.leads, h.stands⟩

theorem read_eq {text : String} (h : Saves t path text.toUTF8 u place mode) :
    u.read path = .ok text :=
  read_eq_ok_iff.2 ⟨mode, _, h.find_eq, fromUTF8?_toUTF8 text⟩

end Saves

/-- The permissions that a file gets are those of the file that was there before any directory was
made. -/
theorem permissions_of_extends (grown : t.Extends v) (leads : v.locate path = .ok place)
    (file : ∀ mode, v.at? place ≠ some (.directory mode)) :
    (∃ before, t.at? place = some (.file (modeFor v path) before)) ∨
      (t.at? place = none ∧ modeFor v path = 0o600) := by
  have named : place ≠ [] := ne_nil_of_at? file
  cases stood : v.at? place with
  | none =>
    refine .inr ⟨?_, ?_⟩
    · cases before : t.at? place with
      | none => rfl
      | some e =>
        rw [grown.at?_of_some before] at stood
        cases stood
    · have nothing : v.find path = .error .notFound := by
        unfold FileTree.find
        rw [leads]
        simp only [bind, Except.bind, stood]
        rfl
      rw [modeFor, nothing]
      rfl
  | some e =>
    cases e with
    | directory mode => exact absurd stood (file mode)
    | file mode before =>
      have kept : modeFor v path = mode := by
        rw [modeFor, find_eq_ok_iff.2 ⟨place, leads, stood⟩]
        rfl
      rw [at?_of_ne named] at stood
      exact .inl ⟨before, by rw [at?_of_ne named, kept, (grown.sameFiles _ _ _).2 stood]⟩

/-- A save that succeeds does this and nothing else. -/
theorem exists_saves (saved : save system t c path = .ok u) :
    ∃ place mode, Saves t path (c.document.encode (.ofPath path)).toUTF8 u place mode := by
  obtain ⟨v, made, place, leads, file, rfl⟩ := (save_cases system t c path).2 u saved
  have grown : t.Grows (wayTo path) v := by
    have grown := makeWay_grows system t [] (Path.components (directoryOf path))
    rw [show t.makeWay system [] _ = .ok v from made] at grown
    exact grown
  obtain ⟨into, -⟩ := directoriesIn_put file (modeFor v path)
    (c.document.encode (.ofPath path)).toUTF8
  refine ⟨place, modeFor v path, into.locate leads, ?_,
    permissions_of_extends grown.extends leads file, fun passed among => ?_, fun key other => ?_⟩
  · rw [at?_of_ne (ne_nil_of_at? file), entries_put, if_pos rfl]
  · obtain ⟨mode, there⟩ := directory_of_makeWay made passed among
    exact into passed mode there
  · rw [entries_put, if_neg other]
    exact grown key

/-- Saving once more what a file holds leaves the tree as it is, however the save ends. -/
theorem leftBy_save_again (leads : u.locate path = .ok place)
    (stands : u.at? place = some (.file mode (c.document.encode (.ofPath path)).toUTF8)) :
    leftBy (save system u c path) = u := by
  have file (m : Nat) : u.at? place ≠ some (.directory m) := fun is => by
    rw [stands] at is
    cases is
  obtain ⟨-, -, -, -, made⟩ := exists_inside system leads file
  obtain ⟨fails, succeeds⟩ := save_cases system u c path
  rw [made] at fails succeeds
  cases again : save system u c path with
  | error failed => exact fails failed again
  | ok w =>
    obtain ⟨_, same, puts⟩ := succeeds w again
    cases same
    obtain ⟨place', leads', -, rfl⟩ := puts
    cases leads.symm.trans leads'
    have kept : modeFor u path = mode := by
      rw [modeFor, find_eq_ok_iff.2 ⟨place, leads, stands⟩]
      rfl
    rw [kept]
    exact put_of_at? (ne_nil_of_at? file) stands

/-- A failed save leaves no trace but directories on the way. -/
theorem grows_of_save_error {failed : Failed StoreError}
    (h : save system t c path = .error failed) : t.Grows (wayTo path) failed.tree := by
  rw [(save_cases system t c path).1 failed h]
  exact makeWay_grows system t [] (Path.components (directoryOf path))

/-- What is stored of a configuration is read back as that configuration, wherever the file is. -/
theorem configurationOf_document (reached : c.Reachable Edit.Relocates)
    (finite : ∀ s ∈ c.settings, s.parameter.value.IsFinite) (path : String) :
    configurationOf c.document path =
      .ok { c.rebase with version := Version.current.stamp } := by
  obtain ⟨g, fresh⟩ := Configuration.exists_fresh (baseDirectory c.document path) false
  exact configurationOf_eq_ok_iff.2 ⟨g, fresh, reached.load_document (.fresh fresh) finite⟩

/-- Saving a configuration and loading it again. A save that succeeds puts the file where its path
leads, makes the directories on the way that are missing, and does nothing else. Whoever may read
the file then loads it as a configuration that stores the same document and has the same directory,
network and way of running; saving that one leaves the tree as it is. A save that fails, after
however many bytes, has changed no file, left none behind, and made at most directories on the way.
Where a path leads to no directory, it does not fail unless the system refuses something. -/
theorem load_of_save (reached : c.Reachable Edit.Relocates)
    (finite : ∀ s ∈ c.settings, ∀ x, s.parameter.value = .float x → x.isFinite = true)
    (system : FileSystem) (t : FileTree) (path : String)
    (readsBack : Document.decode (c.document.encode (.ofPath path)) (.ofPath path) =
      .ok c.document) :
    (∀ u, save system t c path = .ok u →
      (∃ place mode, Saves t path (c.document.encode (.ofPath path)).toUTF8 u place mode) ∧
      ∃ c', Holds u path c' ∧ c'.document = c.document ∧ c'.directory = c.directory ∧
        c'.isNative = c.isNative ∧ c'.network = c.network ∧
        ∀ system', leftBy (save system' u c' path) = u) ∧
    (∀ failed, save system t c path = .error failed →
      t.SameFiles failed.tree ∧ t.Grows (wayTo path) failed.tree) ∧
    ∀ place, t.locate path = .ok place → (∀ mode, t.at? place ≠ some (.directory mode)) →
      system.Obliges → ∃ u, save system t c path = .ok u := by
  refine ⟨fun u saved => ?_, fun failed h => ?_, fun place leads file obliges => ?_⟩
  · obtain ⟨place, mode, saves⟩ := exists_saves saved
    have same := Configuration.document_rebase c
    refine ⟨⟨place, mode, saves⟩, _,
      holds_of_read saves.read_eq readsBack (configurationOf_document reached finite path), same,
      rfl, rfl, Configuration.network_rebase c, fun system' => ?_⟩
    exact leftBy_save_again saves.leads (by rw [saves.stands, ← same]; rfl)
  · have grown := grows_of_save_error h
    exact ⟨grown.extends.sameFiles, grown⟩
  · exact exists_save_of_locate obliges leads file c

/-- A test node's configuration is saved below directories that are not there yet. -/
theorem load_of_save_new_directory : ∃ (c c' : Configuration) (u : FileTree) (bytes : ByteArray),
    c.Reachable Edit.Relocates ∧ c.network = .prater ∧
    save .plain {} c "a/b/s.json" = .ok u ∧
    u.find "a/b/s.json" = .ok (.file 0o600 bytes) ∧
    load .plain u "a/b/s.json" = .ok (some c') ∧ c'.document = c.document ∧ c'.network = .prater ∧
    leftBy (save .plain u c' "a/b/s.json") = u := by
  have json : Document.Format.ofPath "a/b/s.json" = .json := by decide +kernel
  obtain ⟨c, reached, network, finite⟩ :=
    Configuration.exists_reachable Edit.Relocates "/srv/node" false
      (fun _ h => h.operation (.switchNetwork .prater))
      (P := fun c => c.network = .prater ∧ ∀ s ∈ c.settings, s.parameter.value.IsFinite)
      (by decide +kernel)
  have succeeds : (save .plain {} c "a/b/s.json").isOk = true := by rfl
  obtain ⟨stores, -⟩ := load_of_save reached finite .plain {} "a/b/s.json" (by
    rw [json]
    exact Document.decode_encode_json c.document)
  cases saved : save .plain {} c "a/b/s.json" with
  | error failed =>
    rw [saved] at succeeds
    cases succeeds
  | ok u =>
    obtain ⟨⟨place, mode, saves⟩, c', holds, same, -, -, network', again⟩ := stores u saved
    obtain ⟨before, there⟩ | ⟨-, rfl⟩ := saves.permissions
    · -- Nothing is in the empty tree.
      rw [at?_of_ne saves.named] at there
      cases there
    · exact ⟨c, c', u, _, reached, network, saved, saves.find_eq, holds .plain rfl,
        same, network'.trans network, again .plain⟩

end NodeSettings.SettingsFile
