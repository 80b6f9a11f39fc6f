import Mathlib.Algebra.Order.Ring.Nat
import Mathlib.Tactic.Linarith
import Mathlib.Tactic.Ring
import NodeSettings.Binary64.Basic

/-!
Rounding to the nearest number. `nearestRank_congr`: the nearest magnitude depends on nothing but
the ratio. `nearestRank_eq`: a ratio that differs from a magnitude by less than its `2 ^ 54`-th part
is rounded to it.
-/

namespace NodeSettings.Binary64

variable {num den num' den' k r : Nat}

/-! ## Whole numbers -/

theorem roundHalfEven_mul (hk : 0 < k) (num den : Nat) :
    roundHalfEven (k * num) (k * den) = roundHalfEven num den := by
  have half : 2 * (k * (num % den)) = k * (2 * (num % den)) := Nat.mul_left_comm 2 k _
  simp only [roundHalfEven, Nat.mul_div_mul_left num den hk, Nat.mul_mod_mul_left, half,
    Nat.mul_lt_mul_left hk]

/-- What is nearer to `k` than to any other half is rounded to it. -/
theorem roundHalfEven_eq (above : 2 * (k * den) < 2 * num + den)
    (below : 2 * num < 2 * (k * den) + den) : roundHalfEven num den = k := by
  have pos : 0 < den := by omega
  have split := Nat.div_add_mod num den
  rw [Nat.mul_comm] at split
  by_cases le : k * den ≤ num
  · have whole : num / den = k := by
      refine Nat.div_eq_of_lt_le le ?_
      rw [Nat.add_mul]
      omega
    rw [whole] at split
    have rest : 2 * (num % den) < den := by omega
    simp [roundHalfEven, whole, rest]
  · obtain ⟨j, rfl⟩ : ∃ j, k = j + 1 := by
      refine Nat.exists_eq_add_one_of_ne_zero ?_
      rintro rfl
      omega
    rw [Nat.add_mul] at above le
    have whole : num / den = j := by
      refine Nat.div_eq_of_lt_le (by omega) ?_
      rw [Nat.add_mul]
      omega
    rw [whole] at split
    have rest : den < 2 * (num % den) := by omega
    simp [roundHalfEven, whole, rest, Nat.not_lt.2 rest.le]

/-! ## Magnitudes -/

theorem nearestRank_mul (hk : 0 < k) (num den : Nat) :
    nearestRank (k * num) (k * den) = nearestRank num den := by
  simp only [nearestRank, Nat.mul_div_mul_left num den hk, Nat.mul_assoc k den,
    roundHalfEven_mul hk]

/-- Equal ratios are rounded alike. -/
theorem nearestRank_congr (hden : 0 < den) (hden' : 0 < den') (same : num * den' = num' * den) :
    nearestRank num den = nearestRank num' den' := by
  rw [← nearestRank_mul hden' num den, ← nearestRank_mul hden num' den', Nat.mul_comm den' num,
    same, Nat.mul_comm num' den, Nat.mul_comm den' den]

theorem ofRatio_congr {negative : Bool} (hden : 0 < den) (hden' : 0 < den')
    (same : num * den' = num' * den) : ofRatio negative num den = ofRatio negative num' den' := by
  simp only [ofRatio, nearestRank_congr hden hden' same]

/-- The sign of a ratio is that of the number it is rounded to. -/
theorem ofRatio_sign {rank : Fin rankLimit} (h : ofRatio false num den = .finite false rank)
    (negative : Bool) : ofRatio negative num den = .finite negative rank := by
  unfold ofRatio at h ⊢
  split at h
  · next small =>
    rw [dif_pos small]
    injection h with _ same
    rw [same]
  · cases h

/-- A rank is made of an exponent and the leading digits. -/
theorem rank_split (r : Nat) : ∃ s m, r = s * 2 ^ 52 + m ∧ m < 2 ^ 53 ∧ (0 < s → 2 ^ 52 ≤ m) ∧
    units r = m * 2 ^ s := by
  refine ⟨r / 2 ^ 52 - 1, r - (r / 2 ^ 52 - 1) * 2 ^ 52, ?_, ?_, ?_, rfl⟩
  · omega
  · omega
  · omega

/-- The exponent of a ratio is the one that leaves 53 binary digits. -/
theorem nearestRank_of_exponent {s : Nat} (least : s = 0 ∨ 2 ^ (52 + s) * den ≤ num)
    (most : num < 2 ^ (53 + s) * den) :
    nearestRank num den = s * 2 ^ 52 + roundHalfEven num (den * 2 ^ s) := by
  have pos : 0 < den := by
    refine Nat.pos_of_ne_zero ?_
    rintro rfl
    omega
  have below : num / den < 2 ^ (53 + s) := (Nat.div_lt_iff_lt_mul pos).2 most
  have shift : (if num / den < 2 ^ 53 then 0 else (num / den).log2 - 52) = s := by
    rcases Nat.eq_zero_or_pos s with rfl | large
    · exact if_pos below
    · have above : 2 ^ (52 + s) ≤ num / den :=
        (Nat.le_div_iff_mul_le pos).2 (least.resolve_left large.ne')
      have grows : 2 ^ 53 ≤ 2 ^ (52 + s) := Nat.pow_le_pow_right (by decide) (by omega)
      have log : (num / den).log2 = 52 + s := by
        refine (Nat.log2_eq_iff (by omega)).2 ⟨above, ?_⟩
        rwa [show 52 + s + 1 = 53 + s by omega]
      rw [if_neg (by omega), log]
      omega
  simp only [nearestRank, shift]

/-- A ratio that is near enough to a magnitude is rounded to it. -/
theorem nearestRank_eq (above : units r * den * 2 ^ 54 < num * 2 ^ 54 + units r * den)
    (below : num * 2 ^ 54 < units r * den * 2 ^ 54 + units r * den) :
    nearestRank num den = r := by
  obtain ⟨s, m, rank, most, least, unit⟩ := rank_split r
  obtain ⟨d, hd⟩ : ∃ d, d = den * 2 ^ s := ⟨_, rfl⟩
  obtain ⟨p, hp⟩ : ∃ p, p = m * d := ⟨_, rfl⟩
  have whole : units r * den = p := by rw [unit, hp, hd]; ring
  rw [whole] at above below
  have upper : p + d ≤ 2 ^ 53 * d := by
    rw [hp, ← Nat.succ_mul]
    exact Nat.mul_le_mul_right d most
  have scaled (e : Nat) : 2 ^ (e + s) * den = 2 ^ e * d := by rw [hd, pow_add]; ring
  by_cases near : s = 0 ∨ 2 ^ 52 * d ≤ num
  · rw [nearestRank_of_exponent (s := s) (by rwa [scaled]) (by rw [scaled]; omega), ← hd, rank]
    congr 1
    exact roundHalfEven_eq (by rw [← hp]; omega) (by rw [← hp]; omega)
  -- just below a power of two the numbers lie twice as dense
  · have large : 0 < s := Nat.pos_of_ne_zero fun h => near (.inl h)
    have edge : m = 2 ^ 52 := by
      have : ¬ 2 ^ 52 + 1 ≤ m := fun more => by
        have : (2 ^ 52 + 1) * d ≤ p := hp ▸ Nat.mul_le_mul_right d more
        omega
      have := least large
      omega
    obtain ⟨t, rfl⟩ : ∃ t, s = t + 1 := ⟨s - 1, by omega⟩
    obtain ⟨h, hh⟩ : ∃ h, h = den * 2 ^ t := ⟨_, rfl⟩
    have half : d = 2 * h := by rw [hd, hh, pow_succ]; ring
    have scaled' (e : Nat) : 2 ^ (e + t) * den = 2 ^ e * h := by rw [hh, pow_add]; ring
    subst edge
    rw [nearestRank_of_exponent (s := t) (by rw [scaled']; omega) (by rw [scaled']; omega), ← hh,
      roundHalfEven_eq (k := 2 ^ 53) (by omega) (by omega), rank]
    omega

end NodeSettings.Binary64
