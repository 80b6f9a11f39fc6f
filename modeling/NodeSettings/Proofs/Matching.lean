import NodeSettings.Pattern.Basic

/-!
What a pattern matches, told without marks. `Matches` says between which places of a text a pattern
matches, by the parts of the pattern. Marks are carried to the ends of exactly the matches that
begin at a mark (`advance_carries`), so that a pattern occurs in a text if it matches somewhere in
it (`occursIn_iff`).
-/

namespace NodeSettings.Pattern

/-! ## Matches -/

/-- `Steps r n i j`: `n` steps of `r` lead from `i` to `j`. -/
inductive Steps (r : Nat → Nat → Prop) : Nat → Nat → Nat → Prop
  | stay {i : Nat} : Steps r 0 i i
  | step {n i j k : Nat} : r i j → Steps r n j k → Steps r (n + 1) i k

/-- The character before a place; there is none before the first. -/
def charBefore (text : List Char) : Nat → Option Char
  | 0 => none
  | i + 1 => text[i]?

/-- `p.Matches text i j`: the pattern matches what stands between two places of a text. A repeated
part is there as often as it must, and then some more times. -/
def Matches (text : List Char) : Pattern → Nat → Nat → Prop
  | empty, i, j => i = j
  | chars s, i, j => (∃ c, text[i]? = some c ∧ s.contains c = true) ∧ j = i + 1
  | anchor a, i, j => i = j ∧ a.holds (charBefore text i) text[i]? = true
  | sequence p q, i, k => ∃ j, p.Matches text i j ∧ q.Matches text j k
  | either p q, i, j => p.Matches text i j ∨ q.Matches text i j
  | repeated p least most, i, j =>
    ∃ more, (∀ limit ∈ most, more ≤ limit - least) ∧ Steps (p.Matches text) (least + more) i j

section Steps

variable {r : Nat → Nat → Prop} {m n i j k : Nat}

theorem steps_zero_iff : Steps r 0 i j ↔ i = j := by
  constructor
  · rintro ⟨⟩
    rfl
  · rintro rfl
    exact .stay

theorem steps_succ_iff : Steps r (n + 1) i k ↔ ∃ j, r i j ∧ Steps r n j k := by
  constructor
  · intro h
    cases h with
    | step first rest => exact ⟨_, first, rest⟩
  · rintro ⟨j, first, rest⟩
    exact .step first rest

theorem steps_add_iff : Steps r (m + n) i k ↔ ∃ j, Steps r m i j ∧ Steps r n j k := by
  induction m generalizing i with
  | zero => simp [steps_zero_iff]
  | succ m ih =>
    rw [Nat.succ_add_eq_add_succ, Nat.add_succ, steps_succ_iff]
    simp only [steps_succ_iff, ih]
    constructor
    · rintro ⟨l, first, j, rest, last⟩
      exact ⟨j, ⟨l, first, rest⟩, last⟩
    · rintro ⟨j, ⟨l, first, rest⟩, last⟩
      exact ⟨l, first, j, rest, last⟩

end Steps

/-! ## Marks -/

section Marks

variable {marks new : List Bool} {j : Nat}

theorem contains_true_iff : marks.contains true = true ↔ ∃ i : Nat, marks[i]? = some true := by
  rw [List.contains_iff_mem, List.mem_iff_getElem?]

theorem length_join (marks new : List Bool) : (join marks new).length = marks.length := by
  induction marks generalizing new with
  | nil => rfl
  | cons m marks ih =>
    cases new with
    | nil => rfl
    | cons n new => exact congrArg (· + 1) (ih new)

theorem getElem?_join (same : marks.length = new.length) :
    (join marks new)[j]? = some true ↔ marks[j]? = some true ∨ new[j]? = some true := by
  induction marks generalizing new j with
  | nil =>
    rw [List.eq_nil_of_length_eq_zero same.symm]
    simp [join]
  | cons m marks ih =>
    cases new with
    | nil => cases same
    | cons n new =>
      cases j with
      | zero => simp [join]
      | succ j => simpa [join] using ih (Nat.succ.inj same)

end Marks

/-- A function on marks follows a relation: it marks the places that the relation leads to from a
marked one. -/
def Carries (size : Nat) (f : List Bool → List Bool) (r : Nat → Nat → Prop) : Prop :=
  ∀ marks : List Bool, marks.length = size → (f marks).length = size ∧
    ∀ j : Nat, (f marks)[j]? = some true ↔ ∃ i : Nat, marks[i]? = some true ∧ r i j

namespace Carries

variable {size : Nat} {f g : List Bool → List Bool} {r s : Nat → Nat → Prop}

theorem congr (h : Carries size f r) (same : ∀ i j, r i j ↔ s i j) : Carries size f s := by
  intro marks is
  obtain ⟨length, ends⟩ := h marks is
  refine ⟨length, fun j => ?_⟩
  simp only [ends, same]

theorem comp (hf : Carries size f r) (hg : Carries size g s) :
    Carries size (fun marks => g (f marks)) (fun i k => ∃ j, r i j ∧ s j k) := by
  intro marks is
  obtain ⟨length, ends⟩ := hf marks is
  obtain ⟨length', ends'⟩ := hg (f marks) length
  refine ⟨length', fun k => ?_⟩
  simp only [ends', ends]
  constructor
  · rintro ⟨j, ⟨i, marked, first⟩, last⟩
    exact ⟨i, marked, j, first, last⟩
  · rintro ⟨i, marked, j, first, last⟩
    exact ⟨j, ⟨i, marked, first⟩, last⟩

/-- Joined to the marks it is given, a function marks where it leads in at most one step. -/
theorem join (h : Carries size f r) {marks : List Bool} (is : marks.length = size) :
    (Pattern.join marks (f marks)).length = size ∧
      ∀ j : Nat, (Pattern.join marks (f marks))[j]? = some true ↔
        marks[j]? = some true ∨ ∃ i : Nat, marks[i]? = some true ∧ r i j := by
  obtain ⟨length, ends⟩ := h marks is
  refine ⟨(length_join marks _).trans is, fun j => ?_⟩
  rw [getElem?_join (is.trans length.symm), ends]

/-- From the joined marks, some steps lead where as many or one more lead from the marks alone. -/
theorem exists_join_iff (h : Carries size f r) {marks : List Bool} (is : marks.length = size)
    {n j : Nat} :
    (∃ i : Nat, (Pattern.join marks (f marks))[i]? = some true ∧ Steps r n i j) ↔
      ∃ i : Nat, marks[i]? = some true ∧ (Steps r n i j ∨ Steps r (n + 1) i j) := by
  obtain ⟨-, ends⟩ := h.join is
  constructor
  · rintro ⟨i, marked, steps⟩
    rcases (ends i).1 marked with marked | ⟨i', marked, first⟩
    · exact ⟨i, marked, .inl steps⟩
    · exact ⟨i', marked, .inr (.step first steps)⟩
  · rintro ⟨i, marked, steps | steps⟩
    · exact ⟨i, (ends i).2 (.inl marked), steps⟩
    · obtain ⟨k, first, rest⟩ := steps_succ_iff.1 steps
      exact ⟨k, (ends k).2 (.inr ⟨i, marked, first⟩), rest⟩

/-- Where a step marks nothing new, no number of steps does. -/
theorem of_steps (h : Carries size f r) {marks : List Bool} (is : marks.length = size)
    (settled : Pattern.join marks (f marks) = marks) {n i j : Nat} (marked : marks[i]? = some true)
    (steps : Steps r n i j) : marks[j]? = some true := by
  induction steps with
  | stay => exact marked
  | step first rest ih =>
    refine ih ?_
    rw [← settled]
    exact ((h.join is).2 _).2 (.inr ⟨_, marked, first⟩)

theorem stepTimes (h : Carries size f r) (n : Nat) :
    Carries size (Pattern.stepTimes f n) (Steps r n) := by
  induction n with
  | zero =>
    intro marks is
    refine ⟨is, fun j => ?_⟩
    simp [Pattern.stepTimes, steps_zero_iff]
  | succ n ih =>
    intro marks is
    unfold Pattern.stepTimes
    split
    · have both := (h.comp ih) marks is
      simpa only [steps_succ_iff] using both
    · next unmarked =>
      -- From no mark nothing is reached, so that the marks may stay as they are.
      have unmarked (i : Nat) : marks[i]? ≠ some true :=
        fun marked => unmarked (contains_true_iff.2 ⟨i, marked⟩)
      refine ⟨is, fun j => ?_⟩
      simp [unmarked]

theorem stepUpTo (h : Carries size f r) (n : Nat) :
    Carries size (Pattern.stepUpTo f n) (fun i j => ∃ m, m ≤ n ∧ Steps r m i j) := by
  induction n with
  | zero =>
    intro marks is
    refine ⟨is, fun j => ?_⟩
    simp [Pattern.stepUpTo, steps_zero_iff]
  | succ n ih =>
    intro marks is
    unfold Pattern.stepUpTo
    split
    · next settled =>
      refine ⟨is, fun j => ⟨fun marked => ⟨j, marked, 0, Nat.zero_le _, .stay⟩, ?_⟩⟩
      rintro ⟨i, marked, m, -, steps⟩
      exact h.of_steps is settled marked steps
    · obtain ⟨length, ends⟩ := ih _ (h.join is).1
      refine ⟨length, fun j => ?_⟩
      rw [ends]
      constructor
      · rintro ⟨i, marked, m, few, steps⟩
        obtain ⟨k, marked, steps | steps⟩ := (h.exists_join_iff is).1 ⟨i, marked, steps⟩
        · exact ⟨k, marked, m, Nat.le_succ_of_le few, steps⟩
        · exact ⟨k, marked, m + 1, Nat.succ_le_succ few, steps⟩
      · rintro ⟨i, marked, m, few, steps⟩
        cases m with
        | zero =>
          obtain ⟨k, marked, steps⟩ := (h.exists_join_iff is).2 ⟨i, marked, .inl steps⟩
          exact ⟨k, marked, 0, Nat.zero_le _, steps⟩
        | succ m =>
          obtain ⟨k, marked, steps⟩ := (h.exists_join_iff is).2 ⟨i, marked, .inr steps⟩
          exact ⟨k, marked, m, Nat.le_of_succ_le_succ few, steps⟩

theorem closure (h : Carries size f r) :
    Carries size (Pattern.closure f) (fun i j => ∃ n, Steps r n i j) := by
  intro marks is
  fun_induction Pattern.closure f marks with
  | case1 marks settled =>
    refine ⟨is, fun j => ⟨fun marked => ⟨j, marked, 0, .stay⟩, ?_⟩⟩
    rintro ⟨i, marked, n, steps⟩
    exact h.of_steps is settled marked steps
  | case2 marks _ ih =>
    obtain ⟨length, ends⟩ := ih (h.join is).1
    refine ⟨length, fun j => ?_⟩
    rw [ends]
    constructor
    · rintro ⟨i, marked, n, steps⟩
      obtain ⟨k, marked, steps | steps⟩ := (h.exists_join_iff is).1 ⟨i, marked, steps⟩
      · exact ⟨k, marked, n, steps⟩
      · exact ⟨k, marked, n + 1, steps⟩
    · rintro ⟨i, marked, n, steps⟩
      obtain ⟨k, marked, steps⟩ := (h.exists_join_iff is).2 ⟨i, marked, .inl steps⟩
      exact ⟨k, marked, n, steps⟩

end Carries

/-! ## The parts of a pattern -/

variable {text : List Char}

theorem stepOver_carries (s : CharacterSet) (text : List Char) :
    Carries (text.length + 1) (stepOver s text) ((chars s).Matches text) := by
  intro marks is
  constructor
  · simp [stepOver, is]
  · intro j
    cases j with
    | zero => simp [stepOver, Matches]
    | succ j =>
      simp only [stepOver, Matches, List.getElem?_cons_succ, List.getElem?_zipWith_eq_some]
      constructor
      · rintro ⟨m, c, marked, here, holds⟩
        obtain ⟨rfl, holds⟩ := Bool.and_eq_true_iff.1 holds
        exact ⟨j, marked, ⟨c, here, holds⟩, rfl⟩
      · rintro ⟨i, marked, ⟨c, here, holds⟩, same⟩
        obtain rfl := Nat.succ.inj same
        exact ⟨true, c, marked, here, holds⟩

/-- The characters on both sides of a place. -/
theorem getElem?_sides {j : Nat} (inside : j ≤ text.length) :
    (List.zip (none :: text.map some) (text.map some ++ [none]))[j]? =
      some (charBefore text j, text[j]?) := by
  have left : (none :: text.map some)[j]? = some (charBefore text j) := by
    cases j with
    | zero => rfl
    | succ j => simp [charBefore, List.getElem?_eq_getElem (Nat.lt_of_succ_le inside)]
  have right : (text.map some ++ [none])[j]? = some text[j]? := by
    rcases Nat.lt_or_eq_of_le inside with less | rfl
    · simp [List.getElem?_append_left, less]
    · simp
  exact List.getElem?_zip_eq_some.2 ⟨left, right⟩

theorem keepAt_carries (a : Anchor) (text : List Char) :
    Carries (text.length + 1) (keepAt a text) ((anchor a).Matches text) := by
  intro marks is
  constructor
  · simp [keepAt, is]
  · intro j
    simp only [keepAt, Matches, List.getElem?_zipWith_eq_some]
    constructor
    · rintro ⟨m, sides, marked, here, holds⟩
      obtain ⟨rfl, holds⟩ := Bool.and_eq_true_iff.1 holds
      have inside : j < marks.length := (List.getElem?_eq_some_iff.1 marked).1
      rw [getElem?_sides (by omega)] at here
      obtain rfl := Option.some.inj here
      exact ⟨j, marked, rfl, holds⟩
    · rintro ⟨i, marked, rfl, holds⟩
      have inside : i < marks.length := (List.getElem?_eq_some_iff.1 marked).1
      exact ⟨true, _, marked, getElem?_sides (by omega), holds⟩

/-- Marks are carried to the ends of the matches that begin at a mark. -/
theorem advance_carries (text : List Char) (p : Pattern) :
    Carries (text.length + 1) (p.advance text) (p.Matches text) := by
  induction p with
  | empty =>
    intro marks is
    exact ⟨is, fun j => by simp [advance, Matches]⟩
  | chars s => exact stepOver_carries s text
  | anchor a => exact keepAt_carries a text
  | sequence p q ihp ihq => exact ihp.comp ihq
  | either p q ihp ihq =>
    intro marks is
    obtain ⟨length, ends⟩ := ihp marks is
    obtain ⟨length', ends'⟩ := ihq marks is
    refine ⟨(length_join _ _).trans length, fun j => ?_⟩
    rw [advance, getElem?_join (length.trans length'.symm), ends, ends']
    simp only [Matches, and_or_left, exists_or]
  | repeated p least most ih =>
    have first := ih.stepTimes least
    cases most with
    | none =>
      refine (first.comp ih.closure).congr fun i k => ?_
      simp only [Matches, steps_add_iff]
      constructor
      · rintro ⟨j, must, more, rest⟩
        exact ⟨more, nofun, j, must, rest⟩
      · rintro ⟨more, -, j, must, rest⟩
        exact ⟨j, must, more, rest⟩
    | some limit =>
      refine (first.comp (ih.stepUpTo (limit - least))).congr fun i k => ?_
      simp only [Matches, steps_add_iff, Option.mem_some_iff, forall_eq']
      constructor
      · rintro ⟨j, must, more, few, rest⟩
        exact ⟨more, few, j, must, rest⟩
      · rintro ⟨more, few, j, must, rest⟩
        exact ⟨j, must, more, few, rest⟩

/-- A pattern occurs in a text if it matches what stands between some two places of it. -/
theorem occursIn_iff {p : Pattern} {s : String} :
    p.occursIn s = true ↔ ∃ i j, i ≤ s.toList.length ∧ p.Matches s.toList i j := by
  have ends := (advance_carries s.toList p (List.replicate (s.toList.length + 1) true)
    List.length_replicate).2
  simp only [occursIn, contains_true_iff, ends, List.getElem?_replicate]
  constructor
  · rintro ⟨j, i, marked, found⟩
    split at marked
    · next inside => exact ⟨i, j, Nat.le_of_lt_succ inside, found⟩
    · cases marked
  · rintro ⟨i, j, inside, found⟩
    exact ⟨j, i, if_pos (Nat.lt_succ_of_le inside), found⟩

end NodeSettings.Pattern
