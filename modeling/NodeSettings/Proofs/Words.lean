import NodeSettings.Proofs.Matching

/-!
Words that patterns match. `Stands` says which word stands between two places of a text; for the
parts of patterns that are made of characters, a match is told by the word that it reads. A pattern
between the anchors of the text is held against the whole of it (`occursIn_whole_iff`).
-/

namespace NodeSettings.Pattern

variable {text : List Char}

/-- What stands between two places of a text. -/
def Stands (text : List Char) (i j : Nat) (word : List Char) : Prop :=
  text.drop i = word ++ text.drop j ∧ j = i + word.length

section Words

variable {word : List Char} {c : Char} {s : CharacterSet} {n i j k : Nat}

theorem stands_nil_iff : Stands text i j [] ↔ i = j := by
  constructor
  · rintro ⟨-, rfl⟩
    rfl
  · rintro rfl
    exact ⟨rfl, rfl⟩

theorem stands_cons_iff :
    Stands text i j (c :: word) ↔ text[i]? = some c ∧ Stands text (i + 1) j word := by
  have length : i + (c :: word).length = i + 1 + word.length := by
    rw [List.length_cons, Nat.add_right_comm, Nat.add_assoc]
  rw [Stands, Stands, length]
  by_cases inside : i < text.length
  · rw [List.drop_eq_getElem_cons inside, List.cons_append, List.cons.injEq,
      List.getElem?_eq_getElem inside, Option.some.injEq, and_assoc]
  · have behind : text.length ≤ i := Nat.le_of_not_lt inside
    simp [List.drop_eq_nil_of_le behind, List.getElem?_eq_none behind]

theorem stands_append_iff {rest : List Char} :
    Stands text i k (word ++ rest) ↔ ∃ j, Stands text i j word ∧ Stands text j k rest := by
  induction word generalizing i with
  | nil =>
    simp only [List.nil_append, stands_nil_iff]
    exact ⟨fun stands => ⟨i, rfl, stands⟩, fun ⟨_, same, stands⟩ => same ▸ stands⟩
  | cons c word ih =>
    simp only [List.cons_append, stands_cons_iff, ih]
    exact ⟨fun ⟨here, j, first, last⟩ => ⟨j, ⟨here, first⟩, last⟩,
      fun ⟨j, ⟨here, first⟩, last⟩ => ⟨here, j, first, last⟩⟩

/-- Between the two ends of a text there is all of it. -/
theorem stands_whole_iff : Stands text 0 text.length word ↔ word = text := by
  constructor
  · rintro ⟨same, -⟩
    rw [List.drop_zero, List.drop_length, List.append_nil] at same
    exact same.symm
  · rintro rfl
    exact ⟨by simp, by simp⟩

/-- Characters of a set, one by one. -/
theorem steps_chars_iff : Steps ((chars s).Matches text) n i j ↔
    ∃ word, Stands text i j word ∧ word.length = n ∧ ∀ c ∈ word, s.contains c = true := by
  induction n generalizing i with
  | zero =>
    rw [steps_zero_iff]
    constructor
    · intro same
      exact ⟨[], stands_nil_iff.2 same, rfl, List.forall_mem_nil _⟩
    · rintro ⟨word, stands, none, -⟩
      exact stands_nil_iff.1 (List.eq_nil_of_length_eq_zero none ▸ stands)
  | succ n ih =>
    rw [steps_succ_iff]
    simp only [ih]
    constructor
    · rintro ⟨_, ⟨⟨c, here, member⟩, rfl⟩, word, stands, rfl, members⟩
      exact ⟨c :: word, stands_cons_iff.2 ⟨here, stands⟩, rfl,
        List.forall_mem_cons.2 ⟨member, members⟩⟩
    · rintro ⟨word, stands, length, members⟩
      cases word with
      | nil => cases length
      | cons c word =>
        obtain ⟨here, stands⟩ := stands_cons_iff.1 stands
        obtain ⟨member, members⟩ := List.forall_mem_cons.1 members
        exact ⟨_, ⟨⟨c, here, member⟩, rfl⟩, word, stands, Nat.succ.inj length, members⟩

/-- As many characters of a set as a repeated part asks for. -/
theorem matches_repeated_chars_iff {least : Nat} {most : Option Nat} :
    (repeated (chars s) least most).Matches text i j ↔
      ∃ word, Stands text i j word ∧ least ≤ word.length ∧
        (∀ limit ∈ most, word.length - least ≤ limit - least) ∧
        ∀ c ∈ word, s.contains c = true := by
  constructor
  · rintro ⟨more, few, steps⟩
    obtain ⟨word, stands, length, members⟩ := steps_chars_iff.1 steps
    refine ⟨word, stands, length ▸ Nat.le_add_right _ _, ?_, members⟩
    rwa [length, Nat.add_sub_cancel_left]
  · rintro ⟨word, stands, many, few, members⟩
    refine ⟨word.length - least, few, steps_chars_iff.2 ⟨word, stands, ?_, members⟩⟩
    exact (Nat.add_sub_cancel' many).symm

/-- Nothing, or what the part matches. -/
theorem matches_optional_iff {p : Pattern} :
    (repeated p 0 (some 1)).Matches text i j ↔ i = j ∨ p.Matches text i j := by
  constructor
  · rintro ⟨more, few, steps⟩
    rw [Nat.zero_add] at steps
    have few : more ≤ 1 := few 1 rfl
    cases more with
    | zero => exact .inl (steps_zero_iff.1 steps)
    | succ more =>
      obtain rfl : more = 0 := Nat.le_zero.1 (Nat.le_of_succ_le_succ few)
      obtain ⟨k, found, rest⟩ := steps_succ_iff.1 steps
      exact .inr (steps_zero_iff.1 rest ▸ found)
  · rintro (rfl | found)
    · exact ⟨0, fun _ _ => Nat.zero_le _, .stay⟩
    · exact ⟨1, fun _ limit => Option.some.inj limit ▸ Nat.le_refl 1, .step found .stay⟩

theorem matches_single_iff :
    (chars (.single c)).Matches text i j ↔ text[i]? = some c ∧ j = i + 1 := by
  simp [Matches]

theorem matches_single_sequence_iff {p : Pattern} :
    (sequence (chars (.single c)) p).Matches text i j ↔
      text[i]? = some c ∧ p.Matches text (i + 1) j := by
  constructor
  · rintro ⟨k, found, rest⟩
    obtain ⟨here, rfl⟩ := matches_single_iff.1 found
    exact ⟨here, rest⟩
  · rintro ⟨here, rest⟩
    exact ⟨i + 1, matches_single_iff.2 ⟨here, rfl⟩, rest⟩

theorem matches_sequence_assoc {p q r : Pattern} :
    (sequence p (sequence q r)).Matches text i k ↔
      (sequence (sequence p q) r).Matches text i k := by
  constructor
  · rintro ⟨j, first, l, second, third⟩
    exact ⟨l, ⟨j, first, second⟩, third⟩
  · rintro ⟨l, ⟨j, first, second⟩, third⟩
    exact ⟨j, first, l, second, third⟩

end Words

/-! ## The whole text -/

section Whole

variable {i j : Nat} {p q : Pattern} {s : String}

theorem matches_textStart_iff (inside : i ≤ text.length) :
    (anchor .textStart).Matches text i j ↔ i = 0 ∧ j = 0 := by
  cases i with
  | zero => simp [Matches, Anchor.holds, charBefore, eq_comm]
  | succ i => simp [Matches, Anchor.holds, charBefore, List.getElem?_eq_getElem inside]

theorem matches_textEnd_iff (inside : i ≤ text.length) :
    (anchor .textEnd).Matches text i j ↔ i = text.length ∧ j = text.length := by
  simp only [Matches, Anchor.holds, Option.isNone_iff_eq_none, List.getElem?_eq_none_iff]
  constructor
  · rintro ⟨rfl, behind⟩
    have same := Nat.le_antisymm inside behind
    exact ⟨same, same⟩
  · rintro ⟨rfl, rfl⟩
    exact ⟨rfl, Nat.le_refl _⟩

/-- No match reaches beyond the text. -/
theorem Matches.le_length (h : p.Matches text i j) (inside : i ≤ text.length) :
    j ≤ text.length := by
  obtain ⟨length, ends⟩ := advance_carries text p (List.replicate (text.length + 1) true)
    List.length_replicate
  have marked : (List.replicate (text.length + 1) true)[i]? = some true := by
    rw [List.getElem?_replicate, if_pos (Nat.lt_succ_of_le inside)]
  obtain ⟨reached, -⟩ := List.getElem?_eq_some_iff.1 ((ends j).2 ⟨i, marked, h⟩)
  rw [length] at reached
  exact Nat.le_of_lt_succ reached

/-- Between its two anchors, a pattern is held against the whole text. -/
theorem occursIn_whole_iff : (sequence (anchor .textStart) (sequence p (anchor .textEnd))).occursIn
    s = true ↔ p.Matches s.toList 0 s.toList.length := by
  rw [occursIn_iff]
  constructor
  · rintro ⟨i, j, inside, k, start, l, found, ends⟩
    obtain ⟨rfl, rfl⟩ := (matches_textStart_iff inside).1 start
    obtain ⟨rfl, -⟩ := (matches_textEnd_iff (found.le_length inside)).1 ends
    exact found
  · intro found
    refine ⟨0, _, Nat.zero_le _, 0, (matches_textStart_iff (Nat.zero_le _)).2 ⟨rfl, rfl⟩, _, found,
      (matches_textEnd_iff (Nat.le_refl _)).2 ⟨rfl, rfl⟩⟩

theorem occursIn_either_iff :
    (either p q).occursIn s = true ↔ p.occursIn s = true ∨ q.occursIn s = true := by
  simp only [occursIn_iff, Matches, and_or_left, exists_or]

/-- Patterns that match alike occur alike. -/
theorem occursIn_congr (same : ∀ i j, p.Matches s.toList i j ↔ q.Matches s.toList i j) :
    p.occursIn s = true ↔ q.occursIn s = true := by
  simp only [occursIn_iff, same]

theorem occursIn_whole_sequence_iff :
    (sequence (anchor .textStart) (sequence p (sequence q (anchor .textEnd)))).occursIn s = true ↔
      (sequence p q).Matches s.toList 0 s.toList.length := by
  rw [← occursIn_whole_iff]
  refine occursIn_congr fun i j => ?_
  exact exists_congr fun k => and_congr_right fun _ => matches_sequence_assoc

theorem occursIn_ends_iff :
    (sequence (anchor .textStart) (anchor .textEnd)).occursIn s = true ↔ s.toList = [] := by
  have same (i j : Nat) : (sequence (anchor .textStart) (anchor .textEnd)).Matches s.toList i j ↔
      (sequence (anchor .textStart) (sequence empty (anchor .textEnd))).Matches s.toList i j := by
    refine exists_congr fun k => and_congr_right fun _ => ?_
    simp [Matches]
  rw [occursIn_congr same, occursIn_whole_iff, Matches, eq_comm, List.length_eq_zero_iff]

end Whole

end NodeSettings.Pattern
