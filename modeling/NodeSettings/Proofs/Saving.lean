import NodeSettings.Proofs.FileTree
import NodeSettings.SettingsFile

/-!
What saving a configuration does to a tree of files, whatever the system refuses. A save that fails
has changed no file; one that succeeds has put the text of the configuration in place of the file,
which keeps its permissions, and has changed no other file: `save_cases`, `save_outcome`.
-/

namespace NodeSettings.SettingsFile

open FileTree

variable {t u : FileTree} {place temporary : List String} {path : String} {bytes : ByteArray}
  {system : FileSystem} {c : Configuration}

/-- `u` is `t` with bytes in the file at a path, which need not have been there. -/
def Puts (t : FileTree) (path : String) (bytes : ByteArray) (u : FileTree) : Prop :=
  ∃ place, t.locate path = .ok place ∧ (∀ mode, t.at? place ≠ some (.directory mode)) ∧
    u = t.put place (.file (modeFor t path) bytes)

/-! ## Temporary files -/

/-- A path leads past a temporary file, but for one that stands where the path leads. -/
theorem find_put (other : ∀ mode, t.at? temporary ≠ some (.directory mode))
    (leads : t.locate path = .ok place) (file : ∀ mode, t.at? place ≠ some (.directory mode)) :
    (t.put temporary (.file temporaryMode bytes)).find path =
      if keyOf place = keyOf temporary then .ok (.file temporaryMode bytes)
      else t.find path := by
  have named : place ≠ [] := ne_nil_of_at? file
  have leads' : (t.put temporary (.file temporaryMode bytes)).locate path = .ok place :=
    (directoriesIn_put other _ _).1.locate leads
  unfold FileTree.find
  rw [leads, leads']
  simp only [bind, Except.bind, at?_of_ne named, entries_put]
  by_cases same : keyOf place = keyOf temporary
  · rw [if_pos same, if_pos same]
    rfl
  · rw [if_neg same, if_neg same]

section Temporary

variable (free : t.entries.get? (keyOf temporary) = none)
  (other : ∀ mode, t.at? temporary ≠ some (.directory mode))

include free other

/-- A temporary file does not change the permissions that a file saved at a path gets. -/
theorem modeFor_put (leads : t.locate path = .ok place)
    (file : ∀ mode, t.at? place ≠ some (.directory mode)) :
    modeFor (t.put temporary (.file temporaryMode bytes)) path = modeFor t path := by
  unfold modeFor
  rw [find_put other leads file]
  by_cases same : keyOf place = keyOf temporary
  · have nothing : t.find path = .error .notFound := by
      unfold FileTree.find
      rw [leads]
      simp only [bind, Except.bind, at?_of_ne (ne_nil_of_at? file), same, free]
      rfl
    rw [if_pos same, nothing]
    rfl
  · rw [if_neg same]

/-- A temporary file that is filled and moved leaves no trace but the file at its target. -/
theorem fillAndMove_eq_ok
    (h : fillAndMove system (t.put temporary (.file temporaryMode .empty)) temporary path bytes =
      .ok u) : Puts t path bytes u := by
  unfold fillAndMove at h
  obtain ⟨filled, filling, h⟩ := bind_eq_ok_iff.1 h
  obtain rfl := fill_eq_ok (mapError_eq_ok_iff.1 filling)
  obtain ⟨-, h⟩ := check_bind_eq_ok_iff.1 h
  obtain ⟨-, h⟩ := check_bind_eq_ok_iff.1 h
  have moved := mapError_eq_ok_iff.1 h
  simp only [put_put] at moved
  generalize ready : modeFor (t.put temporary (.file temporaryMode bytes)) path = mode at moved
  obtain ⟨place, e, leads, file, there, rfl⟩ := rename_eq_ok moved
  obtain ⟨into, back⟩ := directoriesIn_put other mode bytes
  have leads' : t.locate path = .ok place := back.locate leads
  have file' (m : Nat) : t.at? place ≠ some (.directory m) := fun directory => by
    obtain ⟨m', directory⟩ := into place m directory
    exact file m' directory
  have filled : e = .file mode bytes := by
    rw [at?_of_ne (ne_nil_of_at? other), entries_put, if_pos rfl] at there
    exact (Option.some.inj there).symm
  refine ⟨place, leads', file', ?_⟩
  rw [remove_put free, filled, ← ready, modeFor_put free other leads' file']

end Temporary

theorem tree_of_ask_error {step : StoreStep} {request : Request} {failed : Failed StoreError}
    (h : ask system t step request = .error failed) : failed.tree = t := by
  unfold ask at h
  by_cases refused : system.refuses request t = true
  · rw [if_pos refused] at h
    cases h
    rfl
  · rw [if_neg refused] at h
    cases h

/-- Wherever the move of a temporary file stops, the tree differs in that file only. -/
theorem tree_of_fillAndMove_error {e : FileEntry} {failed : Failed StoreError}
    (h : fillAndMove system (t.put temporary e) temporary path bytes = .error failed) :
    ∃ mode part, failed.tree = t.put temporary (.file mode part) := by
  unfold fillAndMove at h
  obtain filling | ⟨filled, filling, h⟩ := bind_eq_error_iff.1 h
  · obtain ⟨refused, partly, rfl⟩ := mapError_eq_error_iff.1 filling
    obtain ⟨count, left⟩ := tree_of_fill_error partly
    exact ⟨_, _, left.trans (put_put ..)⟩
  obtain rfl := fill_eq_ok (mapError_eq_ok_iff.1 filling)
  rw [put_put] at h
  obtain granting | ⟨_, -, h⟩ := bind_eq_error_iff.1 h
  · by_cases found : ((t.put temporary (.file temporaryMode bytes)).find path).isOk = true
    · rw [if_pos found] at granting
      exact ⟨_, _, tree_of_ask_error granting⟩
    · rw [if_neg found] at granting
      cases granting
  rw [put_put] at h
  obtain granting | ⟨_, -, h⟩ := bind_eq_error_iff.1 h
  · exact ⟨_, _, tree_of_ask_error granting⟩
  · obtain ⟨failure, -, rfl⟩ := mapError_eq_error_iff.1 h
    exact ⟨_, _, rfl⟩

/-! ## Saving -/

/-- A save that fails leaves what making the directories has left. One that succeeds has made them
and has put the text of the configuration into the file. -/
theorem save_cases (system : FileSystem) (t : FileTree) (c : Configuration) (path : String) :
    (∀ failed, save system t c path = .error failed →
      failed.tree = leftBy (t.makeDirectories system (directoryOf path))) ∧
    ∀ u, save system t c path = .ok u → ∃ v, t.makeDirectories system (directoryOf path) = .ok v ∧
      Puts v path (c.document.encode (.ofPath path)).toUTF8 u := by
  unfold save
  dsimp only
  cases t.makeDirectories system (directoryOf path) with
  | error failed =>
    refine ⟨fun _ h => ?_, fun _ h => ?_⟩
    · cases h
      rfl
    · cases h
  | ok v =>
    cases created : v.createTemporary system (directoryOf path) with
    | error failure =>
      refine ⟨fun _ h => ?_, fun _ h => ?_⟩
      · simp only [created] at h
        cases h
        rfl
      · simp only [created] at h
        cases h
    | ok result =>
      obtain ⟨w, temporary⟩ := result
      obtain ⟨free, rfl, other⟩ := createTemporary_eq_ok created
      simp only [created]
      cases filled : fillAndMove system (v.put temporary (.file temporaryMode .empty)) temporary
          path (c.document.encode (.ofPath path)).toUTF8 with
      | error failed =>
        refine ⟨fun _ h => ?_, fun _ h => ?_⟩
        · cases h
          -- Whatever the temporary file holds by now, it is gone again.
          obtain ⟨mode, part, left⟩ := tree_of_fillAndMove_error filled
          exact left ▸ remove_put free
        · cases h
      | ok u =>
        refine ⟨fun _ h => ?_, fun _ h => ?_⟩
        · cases h
        · cases h
          exact ⟨v, rfl, fillAndMove_eq_ok free other filled⟩

/-- A save that fails has done no more than make some directories. One that succeeds has done so and
has put the text of the configuration into the file. -/
theorem save_outcome (system : FileSystem) (t : FileTree) (c : Configuration) (path : String) :
    (∀ failed, save system t c path = .error failed → t.Extends failed.tree) ∧
    ∀ u, save system t c path = .ok u →
      ∃ v, t.Extends v ∧ Puts v path (c.document.encode (.ofPath path)).toUTF8 u := by
  obtain ⟨fails, succeeds⟩ := save_cases system t c path
  have grown := makeDirectories_extends system t (directoryOf path)
  refine ⟨fun failed h => fails failed h ▸ grown, fun u h => ?_⟩
  obtain ⟨v, made, puts⟩ := succeeds u h
  rw [made] at grown
  exact ⟨v, grown, puts⟩

/-- A save over a file that is there. -/
theorem rewrites_of_save {before : ByteArray} (there : t.find path = .ok (.file mode before))
    (saved : save system t c path = .ok u) :
    t.Rewrites path (c.document.encode (.ofPath path)).toUTF8 u := by
  obtain ⟨v, grown, place, leads, other, rfl⟩ := (save_outcome system t c path).2 u saved
  obtain ⟨origin, led, stood⟩ := find_eq_ok_iff.1 there
  have same : v.locate path = .ok origin := grown.directoriesIn.locate led
  cases leads.symm.trans same
  have stands : v.at? place = some (.file mode before) := grown.at?_of_some stood
  have kept : modeFor v path = mode := by
    unfold modeFor
    rw [find_eq_ok_iff.2 ⟨place, leads, stands⟩]
    rfl
  refine ⟨place, mode, before, led, (directoriesIn_put other _ _).1.locate leads, stood, ?_, ?_⟩
  · rw [at?_of_ne (ne_nil_of_at? other), entries_put, if_pos rfl, kept]
  · intro key elsewhere m b
    rw [entries_put, if_neg elsewhere]
    exact grown.sameFiles key m b

end NodeSettings.SettingsFile
