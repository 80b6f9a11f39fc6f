import NodeSettings.Text.Blank

/-!
Texts taken apart: into the fields between marks, and into the words between blanks.
`eq_append_of_fields` puts the fields together again.
-/

namespace NodeSettings.Text

/-- The parts of a list between marks. -/
def fields (mark : Char) : List Char → List (List Char)
  | [] => [[]]
  | c :: rest =>
    if c = mark then [] :: fields mark rest
    else
      match fields mark rest with
      | field :: others => (c :: field) :: others
      | [] => [[c]]

/-- Puts a character in front of a text of which the first word and the others are known; the first
one is empty where the text starts with a blank. -/
private def consWord (c : Char) (state : List Char × List (List Char)) :
    List Char × List (List Char) :=
  if !isBlank c then (c :: state.1, state.2)
  else ([], if state.1.isEmpty then state.2 else state.1 :: state.2)

/-- The stretches of a text between blanks. -/
def words (cs : List Char) : List (List Char) :=
  let (first, others) := cs.foldr consWord ([], [])
  if first.isEmpty then others else first :: others

variable {mark : Char} {field : List Char}

/-- There is a field even in an empty list. -/
theorem fields_ne_nil (mark : Char) (cs : List Char) : fields mark cs ≠ [] := by
  cases cs with
  | nil => exact List.cons_ne_nil _ _
  | cons c cs =>
    rw [fields]
    split
    · exact List.cons_ne_nil _ _
    · split <;> exact List.cons_ne_nil _ _

theorem fields_of_not_mem (free : mark ∉ field) : fields mark field = [field] := by
  induction field with
  | nil => rfl
  | cons c field ih =>
    obtain ⟨other, free⟩ := not_or.1 (mt List.mem_cons.2 free)
    rw [fields, if_neg (Ne.symm other), ih free]

theorem fields_append (free : mark ∉ field) (rest : List Char) :
    fields mark (field ++ mark :: rest) = field :: fields mark rest := by
  induction field with
  | nil => exact if_pos rfl
  | cons c field ih =>
    obtain ⟨other, free⟩ := not_or.1 (mt List.mem_cons.2 free)
    rw [List.cons_append, fields, if_neg (Ne.symm other), ih free]

theorem not_mem_of_mem_fields {cs : List Char} (among : field ∈ fields mark cs) : mark ∉ field := by
  induction cs generalizing field with
  | nil =>
    cases List.mem_singleton.1 among
    exact List.not_mem_nil
  | cons c rest ih =>
    rw [fields] at among
    by_cases same : c = mark
    · rw [if_pos same] at among
      rcases List.mem_cons.1 among with rfl | among
      · exact List.not_mem_nil
      · exact ih among
    · have longer {field : List Char} (free : mark ∉ field) : mark ∉ c :: field := fun within =>
        (List.mem_cons.1 within).elim (fun is => same is.symm) free
      rw [if_neg same] at among
      cases split : fields mark rest with
      | nil =>
        rw [split] at among
        cases List.mem_singleton.1 among
        exact longer List.not_mem_nil
      | cons first others =>
        rw [split] at among ih
        rcases List.mem_cons.1 among with rfl | among
        · exact longer (ih List.mem_cons_self)
        · exact ih (List.mem_cons_of_mem _ among)

/-- The first field, and the others behind a mark if there are any. -/
theorem eq_append_of_fields {cs : List Char} {others : List (List Char)}
    (h : fields mark cs = field :: others) : (others = [] ∧ cs = field) ∨
      ∃ rest, cs = field ++ mark :: rest ∧ fields mark rest = others := by
  induction cs generalizing field with
  | nil =>
    cases h
    exact .inl ⟨rfl, rfl⟩
  | cons c cs ih =>
    rw [fields] at h
    by_cases same : c = mark
    · rw [if_pos same] at h
      cases h
      exact .inr ⟨cs, by rw [same, List.nil_append], rfl⟩
    · rw [if_neg same] at h
      cases split : fields mark cs with
      | nil => exact absurd split (fields_ne_nil mark cs)
      | cons first later =>
        rw [split] at h
        cases h
        rcases ih split with ⟨none, rfl⟩ | ⟨rest, rfl, behind⟩
        · exact .inl ⟨none, rfl⟩
        · exact .inr ⟨rest, rfl, behind⟩

example : fields '.' ['a', '.', '.'] = [['a'], [], []] := by decide
example : words [' ', 'a', 'b', '\n', ' ', 'c'] = [['a', 'b'], ['c']] := by decide

end NodeSettings.Text
