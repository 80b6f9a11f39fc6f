import NodeSettings.Proofs.FileTree

/-!
The directory that a path's file stands in. The path's parent has the parts of the path that count,
without the last one (`Path.exists_parent?`), and parts that do not count lead nowhere
(`FileTree.follow_filter`). So the parent leads to a directory that the path comes by
(`FileTree.exists_follow_of_concat`), and none has to be made on the way.
-/

namespace NodeSettings

/-! ## The path of a directory -/

namespace Path

variable {ps init : List String} {path last : String}

/-- What may stand between the slashes of a path. -/
def IsPart (part : String) : Prop := '/' ∉ part.toList

theorem isPart_of_mem_parts {part : String} (h : part ∈ parts path) : IsPart part := by
  obtain ⟨field, among, rfl⟩ := List.mem_map.1 h
  rw [IsPart, String.toList_ofList]
  exact Text.not_mem_of_mem_fields among

theorem parts_intercalate (nonempty : ps ≠ []) (each : ∀ part ∈ ps, IsPart part) :
    parts ("/".intercalate ps) = ps := by
  induction ps with
  | nil => exact absurd rfl nonempty
  | cons part ps ih =>
    obtain ⟨free, each⟩ := List.forall_mem_cons.1 each
    cases ps with
    | nil =>
      rw [String.intercalate_singleton, parts, Text.fields_of_not_mem free, List.map_singleton,
        String.ofList_toList]
    | cons next ps =>
      have slash : ("/" : String).toList = ['/'] := rfl
      have rest := ih (List.cons_ne_nil _ _) each
      rw [parts] at rest ⊢
      rw [String.intercalate_cons_cons, String.toList_append, String.toList_append, slash,
        List.append_assoc, List.singleton_append, Text.fields_append free, List.map_cons, rest,
        String.ofList_toList]

theorem components_ofParts (each : ∀ part ∈ ps, IsPart part) :
    components (ofParts ps) = ps.filter fun part => !isIdle part := by
  unfold ofParts
  split
  · rfl
  · by_cases empty : ps = []
    · subst empty
      rfl
    · rw [components, parts_intercalate empty each]

theorem filter_dropIdle (ps : List String) :
    (dropIdle ps).filter (fun part => !isIdle part) = ps.filter fun part => !isIdle part := by
  have dropped (ps : List String) : (ps.dropWhile isIdle).filter (fun part => !isIdle part) =
      ps.filter fun part => !isIdle part := by
    induction ps with
    | nil => rfl
    | cons part ps ih =>
      cases idle : isIdle part <;> simp [idle, ih]
  cases ps with
  | nil => rfl
  | cons front rest =>
    rw [dropIdle, List.filter_cons, List.filter_cons, List.filter_reverse, dropped,
      List.filter_reverse, List.reverse_reverse]

theorem dropIdle_subset (ps : List String) : dropIdle ps ⊆ ps := by
  cases ps with
  | nil => exact List.Subset.refl _
  | cons front rest =>
    refine List.cons_subset_cons _ fun part kept => ?_
    exact List.mem_reverse.1 ((List.dropWhile_suffix _).subset (List.mem_reverse.1 kept))

theorem dropIdle_concat (counts : isIdle last = false) :
    dropIdle (init ++ [last]) = init ++ [last] := by
  cases init with
  | nil => rfl
  | cons front rest =>
    rw [List.cons_append, dropIdle, List.reverse_append, List.reverse_singleton,
      List.singleton_append, List.dropWhile_cons, counts, if_neg Bool.false_ne_true,
      List.reverse_cons, List.reverse_reverse]

/-- A path whose last part counts is a path below its parent. -/
theorem exists_parent? (split : parts path = init ++ [last]) (counts : isIdle last = false) :
    ∃ parent, parent? path = some parent ∧
      components parent = init.filter fun part => !isIdle part := by
  have named : last ≠ "" := by
    rintro rfl
    cases counts
  have nonempty : ¬ path.isEmpty = true := by
    intro empty
    rw [String.isEmpty_iff.1 empty, show parts "" = [] ++ [""] from rfl] at split
    exact named (List.singleton_inj.1 (List.append_inj' split rfl).2).symm
  have each : ∀ part ∈ dropIdle init, IsPart part := fun part kept =>
    isPart_of_mem_parts (split ▸ List.mem_append_left _ (dropIdle_subset init kept))
  refine ⟨ofParts (dropIdle init), ?_, by rw [components_ofParts each, filter_dropIdle]⟩
  rw [parent?, trimmedParts, if_neg nonempty, split, dropIdle_concat counts]
  split
  case h_1 none => exact absurd none (List.concat_ne_nil last init)
  case h_2 root =>
    have same : [last] = [""] := (List.append_inj' (root.trans (List.nil_append [""]).symm) rfl).2
    exact absurd (List.singleton_inj.1 same) named
  case h_3 => rw [List.dropLast_concat]

end Path

/-! ## Ways through a tree -/

namespace FileTree

variable {t : FileTree} {place target ps init : List String} {last : String} {mode : Nat}

/-- What leads to a directory starts at one. -/
theorem exists_at?_of_follow (leads : t.follow place ps = .ok target)
    (there : t.at? target = some (.directory mode)) :
    ∃ mode, t.at? place = some (.directory mode) := by
  cases ps with
  | nil =>
    cases leads
    exact ⟨mode, there⟩
  | cons part rest => exact (follow_cons_eq_ok_iff.1 leads).1

/-- Parts that do not count lead nowhere. -/
theorem follow_filter (there : t.at? target = some (.directory mode)) :
    t.follow place (ps.filter fun part => !Path.isIdle part) = .ok target ↔
      t.follow place ps = .ok target := by
  induction ps generalizing place with
  | nil => exact Iff.rfl
  | cons part ps ih =>
    rw [follow_cons_eq_ok_iff]
    by_cases idle : Path.isIdle part = true
    · rw [List.filter_cons_of_neg (by simp [idle]), show step place part = place from if_pos idle,
        ih]
      exact ⟨fun leads => ⟨exists_at?_of_follow leads there, leads⟩, And.right⟩
    · rw [List.filter_cons_of_pos (by simp [idle]), follow_cons_eq_ok_iff, ih]

/-- What leads through a last part leads to a directory first. -/
theorem exists_follow_of_concat (leads : t.follow place (init ++ [last]) = .ok target) :
    ∃ inside mode, t.follow place init = .ok inside ∧ t.at? inside = some (.directory mode) ∧
      target = step inside last := by
  induction init generalizing place with
  | nil =>
    obtain ⟨⟨mode, there⟩, leads⟩ := follow_cons_eq_ok_iff.1 leads
    cases leads
    exact ⟨place, mode, rfl, there, rfl⟩
  | cons part init ih =>
    obtain ⟨there, leads⟩ := follow_cons_eq_ok_iff.1 leads
    obtain ⟨inside, mode, leads, stands, target⟩ := ih leads
    exact ⟨inside, mode, follow_cons_eq_ok_iff.2 ⟨there, leads⟩, stands, target⟩

/-- No directory has to be made on a way that leads to one. -/
theorem makeWay_of_follow (system : FileSystem) (leads : t.follow place ps = .ok target)
    (there : t.at? target = some (.directory mode)) : t.makeWay system place ps = .ok t := by
  induction ps generalizing place with
  | nil => rfl
  | cons part ps ih =>
    obtain ⟨-, leads⟩ := follow_cons_eq_ok_iff.1 leads
    obtain ⟨_, next⟩ := exists_at?_of_follow leads there
    simp only [makeWay, next]
    exact ih leads

end FileTree
end NodeSettings
