import NodeSettings.Proofs.Directories
import NodeSettings.Proofs.Saving

/-!
Systems that refuse nothing. Such a system can save wherever a path leads to no directory
(`exists_save_of_locate`), so over any file (`exists_save`): the directory of the file is there, and
the temporary file beside it does not stand in the way.
-/

namespace NodeSettings

/-- A system that refuses nothing and has a free name for every temporary file. -/
structure FileSystem.Obliges (system : FileSystem) : Prop where
  grants : ∀ request t, system.refuses request t = false
  free : ∀ (t : FileTree) place, t.at? (place ++ [system.temporaryName t]) = none

namespace FileTree

variable {t : FileTree} {place source inside : List String} {path directory : String}
  {system : FileSystem} {e : FileEntry} {mode : Nat} {bytes : ByteArray}

theorem length_le_keyOf (place : List String) (name : String) :
    name.length ≤ (keyOf (place ++ [name])).length := by
  induction place with
  | nil => exact Nat.le_of_eq (congrArg String.length String.intercalate_singleton.symm)
  | cons part place ih =>
    have more : place ++ [name] ≠ [] := List.concat_ne_nil name place
    rw [List.cons_append, keyOf, String.intercalate_cons_of_ne_nil more, String.length_append]
    exact Nat.le_add_left_of_le ih

/-- Every key is shorter than the plain system's name for a temporary file. -/
theorem length_lt_temporaryName {key : String} (there : t.entries.get? key = some e) :
    key.length < (FileSystem.plain.temporaryName t).length := by
  rw [← t.entries.ofList_entries] at there
  have among := List.mem_map_of_mem (f := (·.1.length)) (Table.mem_of_get?_ofList there)
  have largest := (List.max?_eq_some_iff.1 List.max?_cons').2 _ (List.mem_cons_of_mem 0 among)
  have length : (FileSystem.plain.temporaryName t).length =
      (t.entries.entries.map (·.1.length)).foldl max 0 + 1 := by
    rw [FileSystem.plain, String.length_ofList, List.length_cons, List.length_replicate]
  exact length ▸ Nat.lt_succ_of_le largest

theorem plain_obliges : FileSystem.plain.Obliges where
  grants _ _ := rfl
  free t place := by
    rw [at?_of_ne (List.concat_ne_nil _ place)]
    cases there : t.entries.get? (keyOf (place ++ [FileSystem.plain.temporaryName t])) with
    | none => rfl
    | some e =>
      exact absurd (length_le_keyOf place _) (Nat.not_le.2 (length_lt_temporaryName there))

theorem createTemporary_of_obliges (obliges : system.Obliges)
    (leads : t.locate directory = .ok inside) (stands : t.at? inside = some (.directory mode)) :
    t.createTemporary system directory =
      .ok (t.put (inside ++ [system.temporaryName t]) (.file temporaryMode .empty),
        inside ++ [system.temporaryName t]) := by
  unfold createTemporary
  rw [leads]
  simp only [bind, Except.bind, stands, obliges.grants, obliges.free]
  rfl

theorem rename_of_not_directory (leads : t.locate path = .ok place)
    (file : ∀ mode, t.at? place ≠ some (.directory mode)) (there : t.at? source = some e) :
    t.rename source path = .ok ((t.remove source).put place e) := by
  unfold rename
  rw [leads]
  simp only [bind, Except.bind, there]
  cases stands : t.at? place with
  | none => rfl
  | some found =>
    cases found with
    | directory mode => exact absurd stands (file mode)
    | file mode bytes => rfl

end FileTree

namespace SettingsFile

open FileTree

variable {t : FileTree} {place temporary : List String} {path parent : String}
  {system : FileSystem} {mode : Nat} {before : ByteArray}

theorem components_directoryOf (is : Path.parent? path = some parent) :
    Path.components (directoryOf path) = Path.components parent := by
  rw [directoryOf, is]
  by_cases empty : parent.isEmpty = true
  · rw [String.isEmpty_iff.1 empty]
    rfl
  · exact congrArg Path.components (if_neg empty)

theorem not_isEmpty_directoryOf (path : String) : ¬ (directoryOf path).isEmpty = true := by
  unfold directoryOf
  cases Path.parent? path with
  | none => decide
  | some parent =>
    by_cases empty : parent.isEmpty = true
    · simp only [if_pos empty]
      decide
    · simp only [if_neg empty]
      exact empty

/-- The directory of a file's path leads to where the file's path came by, whether or not the file
is there. -/
theorem exists_inside (system : FileSystem) (leads : t.locate path = .ok place)
    (file : ∀ mode, t.at? place ≠ some (.directory mode)) :
    ∃ inside m, t.at? inside = some (.directory m) ∧ t.locate (directoryOf path) = .ok inside ∧
      t.makeDirectories system (directoryOf path) = .ok t := by
  unfold locate at leads
  by_cases empty : path.isEmpty = true
  · rw [if_pos empty] at leads
    cases leads
  rw [if_neg empty] at leads
  rcases List.eq_nil_or_concat (Path.parts path) with none | ⟨init, last, split⟩
  · rw [none] at leads
    cases leads
    exact absurd rfl (file directoryMode)
  rw [List.concat_eq_append] at split
  obtain ⟨inside, m, way, directory, rfl⟩ := exists_follow_of_concat (split ▸ leads)
  have counts : Path.isIdle last = false := Bool.eq_false_iff.2 fun idle => by
    rw [step, if_pos idle] at file
    exact file m directory
  obtain ⟨parent, is, same⟩ := Path.exists_parent? split counts
  have way : t.follow [] (Path.components (directoryOf path)) = .ok inside := by
    rw [components_directoryOf is, same]
    exact (follow_filter directory).2 way
  refine ⟨inside, m, directory, ?_, makeWay_of_follow system way directory⟩
  rw [locate, if_neg (not_isEmpty_directoryOf path)]
  exact (follow_filter directory).1 way

theorem ask_of_obliges (obliges : system.Obliges) (t : FileTree) (s : StoreStep)
    (request : Request) : ask system t s request = .ok () := by
  rw [ask, obliges.grants]
  rfl

theorem fill_of_obliges (obliges : system.Obliges) (t : FileTree) (place : List String)
    (bytes : ByteArray) :
    t.fill system place bytes = .ok (t.put place (.file temporaryMode bytes)) := by
  rw [fill, obliges.grants]
  rfl

theorem exists_fillAndMove (obliges : system.Obliges) (free : t.at? temporary = none)
    (leads : t.locate path = .ok place) (file : ∀ mode, t.at? place ≠ some (.directory mode))
    (bytes : ByteArray) :
    ∃ u, fillAndMove system (t.put temporary (.file temporaryMode .empty)) temporary path bytes =
      .ok u := by
  have other (m : Nat) : t.at? temporary ≠ some (.directory m) := fun is => by
    rw [free] at is
    cases is
  unfold fillAndMove
  simp only [fill_of_obliges obliges, ask_of_obliges obliges, ite_self, put_put, mapError_ok, bind,
    Except.bind]
  generalize modeFor (t.put temporary (.file temporaryMode bytes)) path = mode
  obtain ⟨into, back⟩ := directoriesIn_put other mode bytes
  have leads' : (t.put temporary (.file mode bytes)).locate path = .ok place := into.locate leads
  have filled : (t.put temporary (.file mode bytes)).at? temporary = some (.file mode bytes) := by
    rw [at?_of_ne (ne_nil_of_at? other), entries_put, if_pos rfl]
  have file' (m : Nat) : (t.put temporary (.file mode bytes)).at? place ≠ some (.directory m) :=
    fun directory => by
      obtain ⟨m', directory⟩ := back place m directory
      exact file m' directory
  exact ⟨_, by rw [rename_of_not_directory leads' file' filled, mapError_ok]⟩

/-- A system that refuses nothing can save wherever there is a directory for the file. -/
theorem exists_save_of_locate (obliges : system.Obliges) (leads : t.locate path = .ok place)
    (file : ∀ mode, t.at? place ≠ some (.directory mode)) (c : Configuration) :
    ∃ u, save system t c path = .ok u := by
  obtain ⟨inside, m, directory, into, made⟩ := exists_inside system leads file
  obtain ⟨u, moved⟩ := exists_fillAndMove obliges (obliges.free t inside) leads file
    (c.document.encode (.ofPath path)).toUTF8
  refine ⟨u, ?_⟩
  unfold save
  simp only [made, createTemporary_of_obliges obliges into directory, moved]

/-- A system that refuses nothing can save over any file. -/
theorem exists_save (obliges : system.Obliges) (there : t.find path = .ok (.file mode before))
    (c : Configuration) : ∃ u, save system t c path = .ok u := by
  obtain ⟨place, leads, stands⟩ := find_eq_ok_iff.1 there
  exact exists_save_of_locate obliges leads (fun m is => by rw [stands] at is; cases is) c

end SettingsFile
end NodeSettings
