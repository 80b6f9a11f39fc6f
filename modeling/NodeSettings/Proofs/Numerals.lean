import NodeSettings.Text.Blank
import NodeSettings.Text.Numeral

/-!
How numbers are written: natural numbers (`IsNumeral`) and integers (`IsInteger`). What is written
so, and nothing else, is read. `Trims` says what is left of a text without the blanks around it;
there is just one such stretch, the one that trimming gives: `trims_iff`.
-/

namespace NodeSettings.Text

variable {cs digits : List Char} {n : Nat} {c : Char}

/-- How a number is written: digits, and a `+` in front of them or not. -/
def IsNumeral (cs : List Char) (n : Nat) : Prop :=
  ∃ digits, (cs = digits ∨ cs = '+' :: digits) ∧ digits ≠ [] ∧
    (∀ c ∈ digits, c.isDigit = true) ∧ Nat.ofDigitChars 10 digits 0 = n

theorem isDigit_of_digitValue? {d : Nat} (value : digitValue? c = some d) (small : d < 10) :
    c.isDigit = true := by
  unfold digitValue? at value
  split at value
  · assumption
  · split at value
    · next lower =>
      have least : 97 ≤ c.toNat :=
        UInt32.le_iff_toNat_le.1 (of_decide_eq_true (Bool.and_eq_true_iff.1 lower).1)
      cases value
      omega
    · split at value
      · next upper =>
        have least : 65 ≤ c.toNat := UInt32.le_iff_toNat_le.1 (of_decide_eq_true upper).1
        cases value
        omega
      · cases value

theorem isDigit_of_appendDigits? {start : Nat} (h : appendDigits? 10 start digits = some n) :
    ∀ c ∈ digits, c.isDigit = true := by
  induction digits generalizing start with
  | nil => exact nofun
  | cons c digits ih =>
    unfold appendDigits? at h
    cases value : digitValue? c with
    | none =>
      rw [value] at h
      cases h
    | some d =>
      simp only [value] at h
      split at h
      · next small => exact List.forall_mem_cons.2 ⟨isDigit_of_digitValue? value small, ih h⟩
      · cases h

theorem natOfDigits?_eq_some_iff : natOfDigits? 10 digits = some n ↔
    digits ≠ [] ∧ (∀ c ∈ digits, c.isDigit = true) ∧ Nat.ofDigitChars 10 digits 0 = n := by
  unfold natOfDigits?
  split
  · next none => simp [List.isEmpty_iff.1 none]
  · next some_ =>
    have nonempty : digits ≠ [] := fun none => some_ (List.isEmpty_iff.2 none)
    constructor
    · intro h
      have all := isDigit_of_appendDigits? h
      rw [appendDigits?_of_isDigit all] at h
      exact ⟨nonempty, all, Option.some.inj h⟩
    · rintro ⟨-, all, rfl⟩
      exact appendDigits?_of_isDigit all 0

theorem readNat?_eq_some_iff : readNat? cs = some n ↔ IsNumeral cs n := by
  constructor
  · intro h
    unfold readNat? at h
    split at h
    · next digits => exact ⟨digits, .inr rfl, natOfDigits?_eq_some_iff.1 h⟩
    · exact ⟨_, .inl rfl, natOfDigits?_eq_some_iff.1 h⟩
  · rintro ⟨digits, rfl | rfl, written⟩
    · have bare : readNat? cs = natOfDigits? 10 cs := by
        unfold readNat?
        split
        · exact absurd (written.2.1 '+' List.mem_cons_self) (by decide)
        · rfl
      rw [bare]
      exact natOfDigits?_eq_some_iff.2 written
    · exact natOfDigits?_eq_some_iff.2 written

/-- A numeral has neither blanks in it nor what stands around the numbers of a stamp. -/
theorem IsNumeral.of_mem (h : IsNumeral cs n) (hc : c ∈ cs) :
    isBlank c = false ∧ c ≠ '.' ∧ c ≠ '-' ∧ c ≠ 'v' := by
  have digit {c : Char} (h : c.isDigit = true) :
      isBlank c = false ∧ c ≠ '.' ∧ c ≠ '-' ∧ c ≠ 'v' := by
    refine ⟨isBlank_of_isDigit h, ?_, ?_, ?_⟩ <;> rintro rfl <;> exact absurd h (by decide)
  obtain ⟨digits, rfl | rfl, -, all, -⟩ := h
  · exact digit (all c hc)
  · rcases List.mem_cons.1 hc with rfl | hc
    · decide
    · exact digit (all c hc)

/-- How an integer is written: as a natural number, or as digits behind a `-`. -/
inductive IsInteger : List Char → Int → Prop
  | natural {cs : List Char} {n : Nat} : IsNumeral cs n → IsInteger cs n
  | negative {digits : List Char} : digits ≠ [] → (∀ c ∈ digits, c.isDigit = true) →
      IsInteger ('-' :: digits) (-(Nat.ofDigitChars 10 digits 0 : Nat))

/-- A sign, and what is read behind it. -/
theorem readInt?_minus (digits : List Char) :
    readInt? ('-' :: digits) = (natOfDigits? 10 digits).map fun n : Nat => -(n : Int) := by
  rw [readInt?]
  cases natOfDigits? 10 digits <;> rfl

theorem readInt?_of_head?_ne (unsigned : cs.head? ≠ some '-') :
    readInt? cs = (readNat? cs).map fun n : Nat => (n : Int) := by
  unfold readInt?
  split
  · exact absurd rfl unsigned
  · cases readNat? cs <;> rfl

theorem readInt?_eq_some_iff {i : Int} : readInt? cs = some i ↔ IsInteger cs i := by
  constructor
  · intro h
    by_cases signed : cs.head? = some '-'
    · obtain ⟨digits, rfl⟩ := List.head?_eq_some_iff.1 signed
      rw [readInt?_minus] at h
      obtain ⟨n, read, rfl⟩ := Option.map_eq_some_iff.1 h
      obtain ⟨nonempty, all, rfl⟩ := natOfDigits?_eq_some_iff.1 read
      exact .negative nonempty all
    · rw [readInt?_of_head?_ne signed] at h
      obtain ⟨n, read, rfl⟩ := Option.map_eq_some_iff.1 h
      exact .natural (readNat?_eq_some_iff.1 read)
  · intro h
    cases h with
    | natural written =>
      have unsigned : cs.head? ≠ some '-' := fun signed =>
        (written.of_mem (List.mem_of_mem_head? signed)).2.2.1 rfl
      rw [readInt?_of_head?_ne unsigned, readNat?_eq_some_iff.2 written, Option.map_some]
    | negative nonempty all =>
      rw [readInt?_minus, natOfDigits?_eq_some_iff.2 ⟨nonempty, all, rfl⟩, Option.map_some]

/-! ## Blanks around a text -/

/-- A stretch that neither starts nor ends with a blank, and has only blanks around it. -/
def Trims (cs inner : List Char) : Prop :=
  (∃ before behind, cs = before ++ inner ++ behind ∧ (∀ c ∈ before, isBlank c = true) ∧
    ∀ c ∈ behind, isBlank c = true) ∧
  (∀ c, inner.head? = some c → isBlank c = false) ∧
    ∀ c, inner.getLast? = some c → isBlank c = false

theorem isBlank_of_head?_trimStart (h : (trimStart cs).head? = some c) : isBlank c = false := by
  have stops := List.head?_dropWhile_not isBlank cs
  rw [trimStart] at h
  rw [h] at stops
  simpa using stops

theorem trims_trimChars (cs : List Char) : Trims cs (trimChars cs) := by
  refine ⟨exists_append_trimChars cs, fun c hc => ?_, fun c hc => ?_⟩
  · -- What is dropped at the end leaves the first character alone.
    obtain ⟨behind, split⟩ : trimChars cs <+: trimStart cs := by
      rw [← List.reverse_suffix, trimChars, List.reverse_reverse]
      exact List.dropWhile_suffix isBlank
    have starts : (trimStart cs).head? = some c := by
      rw [← split, List.head?_append, hc, Option.some_or]
    exact isBlank_of_head?_trimStart starts
  · rw [trimChars, List.getLast?_reverse] at hc
    exact isBlank_of_head?_trimStart hc

theorem trimChars_of_trims {inner : List Char} (h : Trims cs inner) : trimChars cs = inner := by
  obtain ⟨⟨before, behind, rfl, blank, blank'⟩, first, last⟩ := h
  have ends : (trimStart (inner ++ behind).reverse).reverse = inner := by
    rw [List.reverse_append, trimStart_append fun c hc => blank' c (List.mem_reverse.1 hc),
      trimStart_of_head (by simpa using last), List.reverse_reverse]
  rw [List.append_assoc, trimChars, trimStart_append blank]
  cases inner with
  | nil =>
    have none : trimStart behind = [] := by
      have dropped := trimStart_append blank' []
      rwa [List.append_nil] at dropped
    rw [List.nil_append, none]
    rfl
  | cons c inner =>
    have starts : trimStart (c :: inner ++ behind) = c :: inner ++ behind :=
      trimStart_of_head first
    rw [starts, ends]

theorem trims_iff {inner : List Char} : Trims cs inner ↔ trimChars cs = inner :=
  ⟨trimChars_of_trims, fun same => same ▸ trims_trimChars cs⟩

theorem exists_trims_iff {α : Type} {P : List Char → α → Prop} :
    (∃ inner a, Trims cs inner ∧ P inner a) ↔ ∃ a, P (trimChars cs) a := by
  simp only [trims_iff]
  constructor
  · rintro ⟨_, a, rfl, h⟩
    exact ⟨a, h⟩
  · rintro ⟨a, h⟩
    exact ⟨_, a, rfl, h⟩

end NodeSettings.Text
