import NodeSettings.FileTree
import NodeSettings.Proofs.Rules

/-!
What operations do to a tree of files. Making directories only adds directories where nothing was,
at places on the way (`makeWay_grows`), so that no file changes and every path still leads where it
led (`DirectoriesIn.locate`). A temporary file that is removed again leaves no trace
(`remove_put`).
-/

namespace NodeSettings

/-- The tree that an operation leaves, whether it succeeds or fails. -/
def leftBy {ε : Type} : Except (Failed ε) FileTree → FileTree
  | .ok t => t
  | .error failed => failed.tree

namespace FileTree

variable {t u v : FileTree} {place source : List String} {path directory : String}
  {system : FileSystem} {e : FileEntry}

/-! ## Entries -/

theorem ext_entries (h : ∀ key, t.entries.get? key = u.entries.get? key) : t = u := by
  cases t
  cases u
  exact congrArg FileTree.mk (Table.ext_get? h)

/-- Only the root has no parts, and it is always there. -/
theorem at?_of_ne (other : place ≠ []) : t.at? place = t.entries.get? (keyOf place) := by
  rw [at?, if_neg (by simpa using other)]

theorem ne_nil_of_at? (h : ∀ mode, t.at? place ≠ some (.directory mode)) : place ≠ [] := by
  rintro rfl
  exact h directoryMode rfl

/-- An entry that is put where nothing was can be removed again. -/
theorem remove_put (free : t.entries.get? (keyOf place) = none) :
    (t.put place e).remove place = t := by
  refine ext_entries fun key => ?_
  rw [entries_remove, entries_put]
  by_cases same : key = keyOf place
  · rw [if_pos same, same, free]
  · rw [if_neg same, if_neg same]

/-- Putting what is there already changes nothing. -/
theorem put_of_at? (named : place ≠ []) (stands : t.at? place = some e) : t.put place e = t := by
  rw [at?_of_ne named] at stands
  refine ext_entries fun key => ?_
  rw [entries_put]
  by_cases same : key = keyOf place
  · rw [if_pos same, same, stands]
  · rw [if_neg same]

theorem put_put (t : FileTree) (place : List String) (e e' : FileEntry) :
    (t.put place e).put place e' = t.put place e' := by
  refine ext_entries fun key => ?_
  simp only [entries_put]
  by_cases same : key = keyOf place
  · rw [if_pos same, if_pos same]
  · rw [if_neg same, if_neg same, if_neg same]

/-! ## Trees with more directories -/

/-- `u` is `t`, with directories made where nothing was. -/
def Extends (t u : FileTree) : Prop :=
  ∀ key, u.entries.get? key = t.entries.get? key ∨
    (t.entries.get? key = none ∧ ∃ mode, u.entries.get? key = some (.directory mode))

/-- Two trees hold the same files, each with the same bytes and permissions. -/
def SameFiles (t u : FileTree) : Prop :=
  ∀ key mode bytes, t.entries.get? key = some (.file mode bytes) ↔
    u.entries.get? key = some (.file mode bytes)

theorem Extends.refl (t : FileTree) : t.Extends t := fun _ => .inl rfl

theorem Extends.trans (h : t.Extends u) (h' : u.Extends v) : t.Extends v := by
  intro key
  rcases h' key with same | ⟨free, made⟩
  · rw [same]
    exact h key
  · rcases h key with same | ⟨-, mode, there⟩
    · exact .inr ⟨same ▸ free, made⟩
    · rw [free] at there
      cases there

theorem Extends.get?_of_some (h : t.Extends u) {key : String}
    (there : t.entries.get? key = some e) : u.entries.get? key = some e := by
  rcases h key with same | ⟨free, -⟩
  · rw [same, there]
  · rw [free] at there
    cases there

theorem Extends.sameFiles (h : t.Extends u) : t.SameFiles u := by
  intro key mode bytes
  refine ⟨h.get?_of_some, fun there => ?_⟩
  rcases h key with same | ⟨-, _, made⟩
  · rw [← same, there]
  · rw [made] at there
    cases there

theorem Extends.at?_of_some (h : t.Extends u) (there : t.at? place = some e) :
    u.at? place = some e := by
  by_cases root : place = []
  · subst root
    exact there
  · rw [at?_of_ne root] at there ⊢
    exact h.get?_of_some there

/-! ## Directories on a way -/

/-- The places that parts of a path come by, one after another. -/
def way (place : List String) : List String → List (List String)
  | [] => []
  | part :: rest => step place part :: way (step place part) rest

/-- `u` is `t`, with directories made at some places, where nothing was. -/
def Grows (t : FileTree) (places : List (List String)) (u : FileTree) : Prop :=
  ∀ key, u.entries.get? key = t.entries.get? key ∨
    (t.entries.get? key = none ∧ u.entries.get? key = some (.directory directoryMode) ∧
      ∃ place ∈ places, key = keyOf place)

theorem Grows.refl (t : FileTree) (places : List (List String)) : t.Grows places t :=
  fun _ => .inl rfl

theorem Grows.mono {places more : List (List String)} (h : t.Grows places u)
    (sub : places ⊆ more) : t.Grows more u := by
  intro key
  rcases h key with same | ⟨free, made, place, among, is⟩
  · exact .inl same
  · exact .inr ⟨free, made, place, sub among, is⟩

theorem Grows.extends {places : List (List String)} (h : t.Grows places u) : t.Extends u := by
  intro key
  rcases h key with same | ⟨free, made, -⟩
  · exact .inl same
  · exact .inr ⟨free, directoryMode, made⟩

theorem Grows.trans {places others : List (List String)} (h : t.Grows places u)
    (h' : u.Grows others v) : t.Grows (places ++ others) v := by
  intro key
  rcases h' key with same | ⟨free, made, place, among, is⟩
  · rw [same]
    exact h.mono (List.subset_append_left places others) key
  · rcases h key with same | ⟨-, there, -⟩
    · exact .inr ⟨same ▸ free, made, place, List.mem_append_right places among, is⟩
    · rw [free] at there
      cases there

theorem grows_put (free : t.at? place = none) :
    t.Grows [place] (t.put place (.directory directoryMode)) := by
  have other : place ≠ [] := by
    rintro rfl
    cases free
  rw [at?_of_ne other] at free
  intro key
  rw [entries_put]
  by_cases same : key = keyOf place
  · rw [if_pos same]
    exact .inr ⟨same ▸ free, rfl, place, List.mem_singleton_self place, same⟩
  · rw [if_neg same]
    exact .inl rfl

/-- Making a way makes directories at places on it, and only there. -/
theorem makeWay_grows (system : FileSystem) (t : FileTree) (place parts : List String) :
    t.Grows (way place parts) (leftBy (t.makeWay system place parts)) := by
  induction parts generalizing t place with
  | nil => exact .refl t []
  | cons part rest ih =>
    cases there : t.at? (step place part) with
    | some e =>
      cases e with
      | directory mode =>
        simp only [makeWay, there]
        exact (ih t _).mono (List.subset_cons_self ..)
      | file mode bytes =>
        simp only [makeWay, there]
        exact .refl t _
    | none =>
      by_cases refused : system.refuses .makeDirectory t = true
      · simp only [makeWay, there, if_pos refused]
        exact .refl t _
      · simp only [makeWay, there, if_neg refused]
        exact (grows_put there).trans (ih _ _)

/-- Once a way is made there is a directory at every place on it. -/
theorem directory_of_makeWay {place parts : List String}
    (made : t.makeWay system place parts = .ok u) :
    ∀ passed ∈ way place parts, ∃ mode, u.at? passed = some (.directory mode) := by
  induction parts generalizing t place with
  | nil => exact nofun
  | cons part rest ih =>
    have later {v : FileTree} {mode : Nat}
        (stands : v.at? (step place part) = some (.directory mode))
        (made : v.makeWay system (step place part) rest = .ok u) :
        ∀ passed ∈ way place (part :: rest), ∃ mode, u.at? passed = some (.directory mode) := by
      have grown := (makeWay_grows system v (step place part) rest).extends
      rw [made] at grown
      exact List.forall_mem_cons.2 ⟨⟨mode, grown.at?_of_some stands⟩, ih made⟩
    cases there : t.at? (step place part) with
    | some e =>
      cases e with
      | directory mode =>
        simp only [makeWay, there] at made
        exact later there made
      | file mode bytes =>
        simp only [makeWay, there] at made
        cases made
    | none =>
      by_cases refused : system.refuses .makeDirectory t = true
      · simp only [makeWay, there, if_pos refused] at made
        cases made
      · simp only [makeWay, there, if_neg refused] at made
        have other : step place part ≠ [] := ne_nil_of_at? fun mode is => by
          rw [there] at is
          cases is
        have stands : (t.put (step place part) (.directory directoryMode)).at? (step place part) =
            some (.directory directoryMode) := by
          rw [at?_of_ne other, entries_put, if_pos rfl]
        exact later stands made

theorem makeDirectories_extends (system : FileSystem) (t : FileTree) (path : String) :
    t.Extends (leftBy (t.makeDirectories system path)) :=
  (makeWay_grows system t [] (Path.components path)).extends

/-! ## Places -/

/-- Every directory of `t` is one of `u`. -/
def DirectoriesIn (t u : FileTree) : Prop :=
  ∀ place mode, t.at? place = some (.directory mode) →
    ∃ mode, u.at? place = some (.directory mode)

theorem Extends.directoriesIn (h : t.Extends u) : t.DirectoriesIn u :=
  fun _ mode there => ⟨mode, h.at?_of_some there⟩

theorem follow_cons_eq_ok_iff {part : String} {parts target : List String} :
    t.follow place (part :: parts) = .ok target ↔
      (∃ mode, t.at? place = some (.directory mode)) ∧
        t.follow (step place part) parts = .ok target := by
  rw [FileTree.follow]
  cases t.at? place with
  | none => simp
  | some e =>
    cases e with
    | directory mode => simp
    | file mode bytes => simp

theorem DirectoriesIn.follow (h : t.DirectoriesIn u) {parts place target : List String}
    (leads : t.follow place parts = .ok target) : u.follow place parts = .ok target := by
  induction parts generalizing place with
  | nil => exact leads
  | cons part rest ih =>
    obtain ⟨⟨mode, there⟩, leads⟩ := follow_cons_eq_ok_iff.1 leads
    exact follow_cons_eq_ok_iff.2 ⟨h place mode there, ih leads⟩

/-- Where every directory is kept, a path leads to the same place. -/
theorem DirectoriesIn.locate (h : t.DirectoriesIn u) (leads : t.locate path = .ok place) :
    u.locate path = .ok place := by
  unfold FileTree.locate at leads ⊢
  by_cases empty : path.isEmpty = true
  · rw [if_pos empty] at leads
    cases leads
  · rw [if_neg empty] at leads ⊢
    exact h.follow leads

/-- A file that is put where no directory is leaves the directories as they are. -/
theorem directoriesIn_put (other : ∀ mode, t.at? place ≠ some (.directory mode))
    (mode : Nat) (bytes : ByteArray) :
    t.DirectoriesIn (t.put place (.file mode bytes)) ∧
      (t.put place (.file mode bytes)).DirectoriesIn t := by
  have named := ne_nil_of_at? other
  have apart (q : List String) (nonempty : q ≠ []) :
      FileTree.at? (t.put place (.file mode bytes)) q =
        if keyOf q = keyOf place then some (.file mode bytes) else t.at? q := by
    rw [at?_of_ne nonempty, at?_of_ne nonempty, entries_put]
  constructor
  · intro q m there
    by_cases root : q = []
    · exact ⟨m, root ▸ there⟩
    · have distinct : keyOf q ≠ keyOf place := by
        intro same
        rw [at?_of_ne root, same, ← at?_of_ne named] at there
        exact other m there
      exact ⟨m, by rw [apart q root, if_neg distinct, there]⟩
  · intro q m there
    by_cases root : q = []
    · exact ⟨m, root ▸ there⟩
    · rw [apart q root] at there
      split at there
      · cases there
      · exact ⟨m, there⟩

/-! ## Reading -/

theorem find_eq_ok_iff {e : FileEntry} :
    t.find path = .ok e ↔ ∃ place, t.locate path = .ok place ∧ t.at? place = some e := by
  unfold find
  rw [bind_eq_ok_iff]
  refine exists_congr fun place => and_congr_right fun _ => ?_
  cases t.at? place with
  | none => simp [throw, throwThe, MonadExceptOf.throw]
  | some found => simp [pure, Except.pure]

theorem fromUTF8?_toUTF8 (s : String) : String.fromUTF8? s.toUTF8 = some s := by
  simp only [String.fromUTF8?, String.toUTF8_eq_toByteArray, dif_pos s.isValidUTF8]
  rfl

theorem read_eq_ok_iff {text : String} :
    t.read path = .ok text ↔ ∃ mode bytes, t.find path = .ok (.file mode bytes) ∧
      String.fromUTF8? bytes = some text := by
  constructor
  · intro h
    obtain ⟨e, found, h⟩ := bind_eq_ok_iff.1 h
    cases e with
    | directory mode => cases h
    | file mode bytes =>
      cases decoded : String.fromUTF8? bytes with
      | none =>
        simp only [decoded] at h
        cases h
      | some read =>
        simp only [decoded] at h
        cases h
        exact ⟨mode, bytes, found, decoded⟩
  · rintro ⟨mode, bytes, found, decoded⟩
    refine bind_eq_ok_iff.2 ⟨_, found, ?_⟩
    simp only [decoded]
    rfl

theorem readBy_eq_ok_iff {text : String} :
    t.readBy system path = .ok text ↔
      system.refuses .read t = false ∧ t.read path = .ok text := by
  unfold readBy
  cases system.refuses .read t <;> simp

/-- `u` has the files of `t`, with other bytes in the one at a path, which keeps its permissions. -/
def Rewrites (t : FileTree) (path : String) (bytes : ByteArray) (u : FileTree) : Prop :=
  ∃ place mode before, t.locate path = .ok place ∧ u.locate path = .ok place ∧
    t.at? place = some (.file mode before) ∧ u.at? place = some (.file mode bytes) ∧
    ∀ key ≠ keyOf place, ∀ mode bytes, t.entries.get? key = some (.file mode bytes) ↔
      u.entries.get? key = some (.file mode bytes)

theorem Rewrites.read_eq {text : String} (h : t.Rewrites path text.toUTF8 u) :
    u.read path = .ok text := by
  obtain ⟨place, mode, _, -, leads, -, there, -⟩ := h
  exact read_eq_ok_iff.2 ⟨mode, _, find_eq_ok_iff.2 ⟨place, leads, there⟩, fromUTF8?_toUTF8 text⟩

/-! ## Temporary files -/

theorem createTemporary_eq_ok (h : t.createTemporary system directory = .ok (u, place)) :
    t.entries.get? (keyOf place) = none ∧ u = t.put place (.file temporaryMode .empty) ∧
      ∀ mode, t.at? place ≠ some (.directory mode) := by
  unfold createTemporary at h
  obtain ⟨inside, -, h⟩ := bind_eq_ok_iff.1 h
  cases there : t.at? inside with
  | none =>
    rw [there] at h
    cases h
  | some e =>
    rw [there] at h
    cases e with
    | file mode bytes => cases h
    | directory mode =>
      by_cases refused : system.refuses .createTemporary t = true
      · simp only [if_pos refused] at h
        cases h
      · simp only [if_neg refused] at h
        have named : inside ++ [system.temporaryName t] ≠ [] := by simp
        cases free : t.at? (inside ++ [system.temporaryName t]) with
        | some e =>
          simp only [free] at h
          cases h
        | none =>
          simp only [free] at h
          cases h
          refine ⟨by rw [← at?_of_ne named, free], rfl, fun mode there => ?_⟩
          rw [free] at there
          cases there

theorem fill_eq_ok {bytes : ByteArray} (h : t.fill system place bytes = .ok u) :
    u = t.put place (.file temporaryMode bytes) := by
  unfold fill at h
  by_cases refused : system.refuses .writeTemporary t = true
  · rw [if_pos refused] at h
    cases h
  · rw [if_neg refused] at h
    exact (Except.ok.inj h).symm

/-- A refused write leaves the temporary file with some bytes, the first of those to write. -/
theorem tree_of_fill_error {bytes : ByteArray} {failed : Failed FileFailure}
    (h : t.fill system place bytes = .error failed) :
    ∃ count, failed.tree = t.put place (.file temporaryMode (bytes.extract 0 count)) := by
  unfold fill at h
  by_cases refused : system.refuses .writeTemporary t = true
  · rw [if_pos refused] at h
    cases h
    exact ⟨_, rfl⟩
  · rw [if_neg refused] at h
    cases h

theorem rename_eq_ok (h : t.rename source path = .ok u) :
    ∃ place e, t.locate path = .ok place ∧ (∀ mode, t.at? place ≠ some (.directory mode)) ∧
      t.at? source = some e ∧ u = (t.remove source).put place e := by
  unfold rename at h
  obtain ⟨place, leads, h⟩ := bind_eq_ok_iff.1 h
  cases there : t.at? source with
  | none =>
    rw [there] at h
    cases h
  | some e =>
    rw [there] at h
    cases target : t.at? place with
    | none =>
      simp only [target] at h
      exact ⟨place, e, leads, by simp [target], rfl, (Except.ok.inj h).symm⟩
    | some found =>
      cases found with
      | directory mode =>
        simp only [target] at h
        cases h
      | file mode bytes =>
        simp only [target] at h
        exact ⟨place, e, leads, by simp [target], rfl, (Except.ok.inj h).symm⟩

end FileTree
end NodeSettings
