import Mathlib.Data.List.TakeWhile
import NodeSettings.Proofs.Shortest
import NodeSettings.Value.Basic

/-!
Texts of numbers. `read?_text`: the text that a finite number is persisted as reads back as the
number. The layout only moves the point and the zeros around, which a reading counts again.
-/

namespace NodeSettings

namespace Decimal

variable {digits whole fraction : List Char} {negative : Bool} {k : ℕ}

/-! ## Reading digits -/

theorem ofDigits_append_zeros (digits : List Char) (k : ℕ) :
    ofDigits (digits ++ List.replicate k '0') = ofDigits digits * 10 ^ k := by
  show Nat.ofDigitChars 10 (digits ++ List.replicate k '0') 0 = _
  rw [Nat.ofDigitChars_append, Nat.ofDigitChars_replicate_zero, mul_comm]
  rfl

theorem ofDigits_zeros_append (k : ℕ) (digits : List Char) :
    ofDigits (List.replicate k '0' ++ digits) = ofDigits digits := by
  show Nat.ofDigitChars 10 (List.replicate k '0' ++ digits) 0 = _
  rw [Nat.ofDigitChars_append, Nat.ofDigitChars_replicate_zero, mul_zero]
  rfl

theorem ofDigits_toDigits (n : ℕ) : ofDigits (Nat.toDigits 10 n) = n :=
  Nat.ofDigitChars_ten_toDigits

theorem readUnsigned?_whole (all : ∀ c ∈ whole, c.isDigit = true) (some_ : whole ≠ []) :
    readUnsigned? negative whole = some ⟨negative, ofDigits whole, 0⟩ := by
  have taken : whole.takeWhile Char.isDigit = whole := List.takeWhile_eq_self_iff.2 all
  have dropped : whole.dropWhile Char.isDigit = [] := List.dropWhile_eq_nil_iff.2 all
  simp [readUnsigned?, taken, dropped, some_, readExponent?]

theorem readUnsigned?_point (all : ∀ c ∈ whole, c.isDigit = true)
    (all' : ∀ c ∈ fraction, c.isDigit = true) (some_ : whole ≠ []) :
    readUnsigned? negative (whole ++ '.' :: fraction) =
      some ⟨negative, ofDigits (whole ++ fraction), -fraction.length⟩ := by
  have taken : (whole ++ '.' :: fraction).takeWhile Char.isDigit = whole := by
    rw [List.takeWhile_append_of_pos all, List.takeWhile_cons_of_neg (by decide), List.append_nil]
  have dropped : (whole ++ '.' :: fraction).dropWhile Char.isDigit = '.' :: fraction := by
    rw [List.dropWhile_append_of_pos all, List.dropWhile_cons_of_neg (by decide)]
  have taken' : fraction.takeWhile Char.isDigit = fraction := List.takeWhile_eq_self_iff.2 all'
  have dropped' : fraction.dropWhile Char.isDigit = [] := List.dropWhile_eq_nil_iff.2 all'
  simp [readUnsigned?, taken, dropped, taken', dropped', some_, readExponent?]

/-- What is read without a sign has none. -/
theorem read?_of_readUnsigned? {cs : List Char} {d : Decimal}
    (h : readUnsigned? false cs = some d) : read? cs = some d := by
  unfold read?
  split
  · cases h
  · cases h
  · exact h

/-- The sign of a decimal is that of the number it stands for. -/
theorem toBinary64_sign {n : ℕ} {e : ℤ} {rank : Fin Binary64.rankLimit}
    (h : toBinary64 ⟨false, n, e⟩ = .finite false rank) (negative : Bool) :
    toBinary64 ⟨negative, n, e⟩ = .finite negative rank := by
  by_cases zero : n = 0
  · rw [toBinary64_of_zero zero] at h ⊢
    exact Binary64.ofRatio_sign h negative
  rcases lt_or_ge (⟨false, n, e⟩ : Decimal).top (-330) with low | low
  · rw [toBinary64_of_low low] at h
    rw [toBinary64_of_low (d := ⟨negative, n, e⟩) low]
    exact Binary64.ofRatio_sign h negative
  rcases lt_or_ge 310 (⟨false, n, e⟩ : Decimal).top with high | high
  · rw [toBinary64_of_high zero high] at h
    cases h
  · obtain ⟨num, den, -, -, rounded⟩ := exists_ofRatio (d := ⟨false, n, e⟩) zero low high
    exact (rounded negative).trans (Binary64.ofRatio_sign ((rounded false).symm.trans h) negative)

end Decimal

namespace Binary64

open Decimal

variable {digits : List Char} {negative : Bool}

/-! ## The layout -/

theorem exists_dropTrailingZeros (digits : List Char) :
    ∃ k, digits = dropTrailingZeros digits ++ List.replicate k '0' := by
  refine ⟨(digits.reverse.takeWhile (· == '0')).length, ?_⟩
  have zeros : digits.reverse.takeWhile (· == '0') =
      List.replicate (digits.reverse.takeWhile (· == '0')).length '0' := by
    refine List.eq_replicate_of_mem fun c hc => ?_
    have := List.mem_takeWhile_imp hc
    simpa using this
  have split := List.takeWhile_append_dropWhile (p := (· == '0')) (l := digits.reverse)
  rw [dropTrailingZeros, ← List.reverse_replicate, ← List.reverse_append, ← zeros, split,
    List.reverse_reverse]

theorem layOut_front {point : ℤ} (h : point ≤ 0) :
    layOut Value.numberLayout digits point =
      ['0'] ++ '.' :: (List.replicate (-point).toNat '0' ++ digits) := by
  simp [layOut, Value.numberLayout, h]

theorem layOut_behind {point : ℤ} (h : ¬ point ≤ 0) (long : digits.length ≤ point.toNat) :
    layOut Value.numberLayout digits point =
      digits ++ List.replicate (point.toNat - digits.length) '0' := by
  simp [layOut, Value.numberLayout, h, long]

theorem layOut_within {point : ℤ} (h : ¬ point ≤ 0) (short : ¬ digits.length ≤ point.toNat) :
    layOut Value.numberLayout digits point =
      digits.take point.toNat ++ '.' :: digits.drop point.toNat := by
  simp [layOut, Value.numberLayout, h, short]

/-- However the point falls, the laid out digits are read for what they stand for. -/
theorem readUnsigned?_layOut (all : ∀ c ∈ digits, c.isDigit = true) (point : ℤ) :
    ∃ k : ℕ, readUnsigned? negative (layOut Value.numberLayout digits point) =
      some ⟨negative, ofDigits digits * 10 ^ k, point - digits.length - k⟩ := by
  have zeros (n : ℕ) : ∀ c ∈ List.replicate n '0', c.isDigit = true := by
    intro c hc
    rw [List.eq_of_mem_replicate hc]
    decide
  by_cases front : point ≤ 0
  · refine ⟨0, ?_⟩
    have zero : ∀ c ∈ ['0'], c.isDigit = true := zeros 1
    rw [layOut_front front, readUnsigned?_point zero
      (List.forall_mem_append.2 ⟨zeros _, all⟩) (List.cons_ne_nil _ _)]
    have value : ofDigits (['0'] ++ (List.replicate (-point).toNat '0' ++ digits)) =
        ofDigits digits := by
      rw [← List.append_assoc]
      exact ofDigits_zeros_append ((-point).toNat + 1) digits
    rw [value, List.length_append, List.length_replicate]
    simp only [pow_zero, mul_one, Option.some.injEq, Decimal.mk.injEq, true_and]
    omega
  by_cases long : digits.length ≤ point.toNat
  · refine ⟨point.toNat - digits.length, ?_⟩
    have some_ : digits ++ List.replicate (point.toNat - digits.length) '0' ≠ [] := by
      refine List.ne_nil_of_length_pos ?_
      rw [List.length_append, List.length_replicate]
      omega
    rw [layOut_behind front long, readUnsigned?_whole
      (List.forall_mem_append.2 ⟨all, zeros _⟩) some_, ofDigits_append_zeros]
    simp only [Option.some.injEq, Decimal.mk.injEq, true_and]
    omega
  · refine ⟨0, ?_⟩
    have some_ : digits.take point.toNat ≠ [] := by
      refine List.ne_nil_of_length_pos ?_
      rw [List.length_take]
      omega
    rw [layOut_within front long, readUnsigned?_point
      (fun c hc => all c (List.mem_of_mem_take hc)) (fun c hc => all c (List.mem_of_mem_drop hc))
      some_, List.take_append_drop, List.length_drop]
    simp only [pow_zero, mul_one, Option.some.injEq, Decimal.mk.injEq, true_and]
    omega

theorem dropTrailingZeros_isDigit {n : ℕ} :
    ∀ c ∈ dropTrailingZeros (Nat.toDigits 10 n), c.isDigit = true := by
  intro c hc
  obtain ⟨k, split⟩ := exists_dropTrailingZeros (Nat.toDigits 10 n)
  refine Nat.isDigit_of_mem_toDigits (b := 10) (n := n) (by decide) (by decide) ?_
  rw [split]
  exact List.mem_append_left _ hc

/-- The text of a magnitude, read with a sign, stands for the number with that sign. -/
theorem exists_readUnsigned?_magnitudeText (rank : Fin rankLimit) (negative : Bool) :
    ∃ d, readUnsigned? negative (magnitudeText Value.numberLayout rank) = some d ∧
      d.toBinary64 = .finite negative rank := by
  obtain ⟨positive, reads⟩ := toBinary64_shortest Value.numberLayout.tie rank
  obtain ⟨⟨sign, n, e⟩, hd⟩ : ∃ d, d = shortest Value.numberLayout.tie rank := ⟨_, rfl⟩
  rw [← hd] at positive reads
  subst positive
  by_cases zero : n = 0
  · subst zero
    refine ⟨⟨negative, 0, 0⟩, ?_, ?_⟩
    · simp only [magnitudeText, ← hd]
      rfl
    · rw [toBinary64_of_zero rfl] at reads ⊢
      exact ofRatio_sign reads negative
  · obtain ⟨z, split⟩ := exists_dropTrailingZeros (Nat.toDigits 10 n)
    obtain ⟨k, reading⟩ := @readUnsigned?_layOut _ negative
      (dropTrailingZeros_isDigit (n := n)) ((Nat.toDigits 10 n).length + e)
    obtain ⟨digits, hdigits⟩ : ∃ digits, digits = dropTrailingZeros (Nat.toDigits 10 n) := ⟨_, rfl⟩
    have laidOut : magnitudeText Value.numberLayout rank =
        layOut Value.numberLayout digits ((Nat.toDigits 10 n).length + e) := by
      simp only [magnitudeText, ← hd, zero, if_false, hdigits]
    rw [← hdigits] at split reading
    have value : n = ofDigits digits * 10 ^ z := by
      rw [← ofDigits_append_zeros, ← split, ofDigits_toDigits]
    have length : (Nat.toDigits 10 n).length = digits.length + z := by
      rw [split, List.length_append, List.length_replicate]
    refine ⟨_, laidOut ▸ reading, ?_⟩
    -- Zeros dropped and zeros laid out both count in the exponent.
    rw [value, toBinary64_shift] at reads
    rw [toBinary64_shift, length]
    have power : ((digits.length + z : ℕ) + e - digits.length - k + k : ℤ) = e + z := by
      push_cast
      ring
    rw [power]
    exact toBinary64_sign reads negative

theorem mem_layOut {c : Char} {point : ℤ} (h : c ∈ layOut Value.numberLayout digits point) :
    c ∈ digits ∨ c = '0' ∨ c = '.' := by
  by_cases front : point ≤ 0
  · rw [layOut_front front] at h
    simp only [List.mem_append, List.mem_cons, List.mem_replicate, List.not_mem_nil] at h
    tauto
  by_cases long : digits.length ≤ point.toNat
  · rw [layOut_behind front long] at h
    rcases List.mem_append.1 h with h | h
    · exact .inl h
    · exact .inr (.inl (List.eq_of_mem_replicate h))
  · rw [layOut_within front long] at h
    rcases List.mem_append.1 h with h | h
    · exact .inl (List.mem_of_mem_take h)
    · rcases List.mem_cons.1 h with h | h
      · exact .inr (.inr h)
      · exact .inl (List.mem_of_mem_drop h)

/-- Only digits and a point stand in the text of a magnitude. -/
theorem mem_magnitudeText {c : Char} {rank : Fin rankLimit}
    (h : c ∈ magnitudeText Value.numberLayout rank) : c.isDigit = true ∨ c = '.' := by
  simp only [magnitudeText] at h
  split at h
  · have zero : c ∈ ['0'] := h
    rw [List.mem_singleton.1 zero]
    exact .inl (by decide)
  · rcases mem_layOut h with h | rfl | rfl
    · exact .inl (dropTrailingZeros_isDigit c h)
    · exact .inl (by decide)
    · exact .inr rfl

/-- The text that a finite number is persisted as reads back as the number. -/
theorem read?_text {x : Binary64} (finite : x.isFinite = true) :
    read? (x.text Value.numberLayout) = some x := by
  cases x with
  | nan => cases finite
  | infinite negative => cases finite
  | finite negative rank =>
    obtain ⟨d, reading, reads⟩ := exists_readUnsigned?_magnitudeText rank negative
    have decimal : Decimal.read? ((if negative then ['-'] else []) ++
        magnitudeText Value.numberLayout rank) = some d := by
      cases negative with
      | true => exact reading
      | false => exact read?_of_readUnsigned? reading
    simp only [read?, text, String.toList_ofList, decimal, reads, isFinite, if_true]

end Binary64
end NodeSettings
