import Mathlib.Algebra.Order.Field.Power
import Mathlib.Data.Rat.Cast.Order
import Mathlib.Tactic.FieldSimp
import Mathlib.Tactic.Linarith
import Mathlib.Tactic.NormNum
import Mathlib.Tactic.Positivity
import Mathlib.Tactic.Ring
import NodeSettings.Binary64.Decimal
import NodeSettings.Proofs.Rounding

/-!
The shortest decimal of a number reads back as the number: `toBinary64_shortest`. Seventeen digits
suffice, since the nearer of two decimals with that many differs from the number by less than what
rounding puts right.
-/

namespace NodeSettings

/-! ## Powers of ten -/

theorem ten_pow_toNat {e : ℤ} (h : 0 ≤ e) : (10 : ℚ) ^ e.toNat = 10 ^ e := by
  rw [← zpow_natCast, Int.toNat_of_nonneg h]

theorem ten_pow_neg_toNat {e : ℤ} (h : e ≤ 0) : (10 : ℚ) ^ (-e).toNat = (10 ^ e)⁻¹ := by
  rw [← zpow_natCast, Int.toNat_of_nonneg (by omega), zpow_neg]

namespace Decimal

variable {n k : ℕ} {d : Decimal}

theorem digitCount_pos (n : ℕ) : 0 < digitCount n := Nat.length_toDigits_pos

theorem digitCount_le_iff (h : 0 < k) : digitCount n ≤ k ↔ n < 10 ^ k :=
  Nat.length_toDigits_le_iff (by decide) h

theorem lt_pow_digitCount (n : ℕ) : n < 10 ^ digitCount n :=
  (digitCount_le_iff (digitCount_pos n)).1 (Nat.le_refl _)

theorem pow_le_of_lt_digitCount (hn : 0 < n) (h : k < digitCount n) : 10 ^ k ≤ n := by
  rcases Nat.eq_zero_or_pos k with rfl | pos
  · exact hn
  · refine Nat.not_lt.1 fun less => ?_
    have := (digitCount_le_iff pos).2 less
    omega

/-- The digits after a number of digits count in full. -/
theorem digitCount_mul_pow (hn : 0 < n) (k : ℕ) : digitCount (n * 10 ^ k) = digitCount n + k := by
  have scaled : 0 < n * 10 ^ k := by positivity
  refine Nat.le_antisymm ?_ ?_
  · rw [digitCount_le_iff (by have := digitCount_pos n; omega), pow_add]
    exact Nat.mul_lt_mul_of_pos_right (lt_pow_digitCount n) (by positivity)
  · have pos := digitCount_pos n
    refine Nat.not_lt.1 fun less => ?_
    have below : n * 10 ^ k < 10 ^ (digitCount n - 1 + k) := by
      refine lt_of_lt_of_le (lt_pow_digitCount _) (Nat.pow_le_pow_right (by decide) ?_)
      omega
    rw [pow_add] at below
    have least := pow_le_of_lt_digitCount hn (k := digitCount n - 1) (by omega)
    exact absurd (Nat.mul_le_mul_right (10 ^ k) least) (Nat.not_le.2 below)

/-! ## The value of a decimal -/

/-- The magnitude of a decimal. -/
def value (d : Decimal) : ℚ := d.digits * 10 ^ d.exponent

/-- The power of ten above the first digit. -/
def top (d : Decimal) : ℤ := digitCount d.digits + d.exponent

theorem toBinary64_eq (d : Decimal) :
    d.toBinary64 =
      if d.digits = 0 ∨ d.top < -330 then Binary64.ofRatio d.negative 0 1
      else if 310 < d.top then .infinite d.negative
      else if 0 ≤ d.exponent then
        Binary64.ofRatio d.negative (d.digits * 10 ^ d.exponent.toNat * Binary64.unitsPerOne) 1
      else
        Binary64.ofRatio d.negative (d.digits * Binary64.unitsPerOne)
          (10 ^ (-d.exponent).toNat) := by
  simp only [toBinary64, top, Bool.or_eq_true, decide_eq_true_eq]
  congr

/-- A decimal within reach is the ratio it stands for, rounded. -/
theorem exists_ofRatio (pos : d.digits ≠ 0) (low : -330 ≤ d.top) (high : d.top ≤ 310) :
    ∃ num den : ℕ, 0 < den ∧ (num : ℚ) / den = d.value * Binary64.unitsPerOne ∧
      ∀ negative, toBinary64 { d with negative } = Binary64.ofRatio negative num den := by
  have within (negative : Bool) : toBinary64 { d with negative } =
      if 0 ≤ d.exponent then
        Binary64.ofRatio negative (d.digits * 10 ^ d.exponent.toNat * Binary64.unitsPerOne) 1
      else
        Binary64.ofRatio negative (d.digits * Binary64.unitsPerOne)
          (10 ^ (-d.exponent).toNat) := by
    rw [toBinary64_eq]
    exact (if_neg (not_or.2 ⟨pos, not_lt.2 low⟩)).trans (if_neg (not_lt.2 high))
  by_cases h : 0 ≤ d.exponent
  · refine ⟨d.digits * 10 ^ d.exponent.toNat * Binary64.unitsPerOne, 1, Nat.one_pos, ?_,
      fun negative => ?_⟩
    · rw [Nat.cast_mul, Nat.cast_mul, Nat.cast_pow, Nat.cast_ofNat, ten_pow_toNat h, Nat.cast_one,
        div_one, value]
    · rw [within, if_pos h]
  · refine ⟨d.digits * Binary64.unitsPerOne, 10 ^ (-d.exponent).toNat, by positivity, ?_,
      fun negative => ?_⟩
    · rw [Nat.cast_mul, Nat.cast_pow, Nat.cast_ofNat, ten_pow_neg_toNat (by omega), div_inv_eq_mul,
        value]
      ring
    · rw [within, if_neg h]

theorem toBinary64_of_zero (h : d.digits = 0) :
    d.toBinary64 = Binary64.ofRatio d.negative 0 1 := by
  rw [toBinary64_eq, if_pos (.inl h)]

theorem toBinary64_of_low (h : d.top < -330) :
    d.toBinary64 = Binary64.ofRatio d.negative 0 1 := by
  rw [toBinary64_eq, if_pos (.inr h)]

theorem toBinary64_of_high (pos : d.digits ≠ 0) (h : 310 < d.top) :
    d.toBinary64 = .infinite d.negative := by
  have notLow : ¬ (d.digits = 0 ∨ d.top < -330) := by omega
  rw [toBinary64_eq, if_neg notLow, if_pos h]

/-- Zeros after the digits may be written, or counted in the exponent. -/
theorem toBinary64_shift (negative : Bool) (n k : ℕ) (e : ℤ) :
    toBinary64 ⟨negative, n * 10 ^ k, e⟩ = toBinary64 ⟨negative, n, e + k⟩ := by
  rcases Nat.eq_zero_or_pos n with rfl | pos
  · rw [toBinary64_of_zero (Nat.zero_mul _), toBinary64_of_zero rfl]
  · have nonzero : n * 10 ^ k ≠ 0 := by positivity
    have top : (⟨negative, n * 10 ^ k, e⟩ : Decimal).top =
        (⟨negative, n, e + k⟩ : Decimal).top := by
      rw [Decimal.top, Decimal.top, digitCount_mul_pow pos]
      push_cast
      ring
    rcases lt_or_ge (⟨negative, n, e + k⟩ : Decimal).top (-330) with low | low
    · rw [toBinary64_of_low (top ▸ low), toBinary64_of_low low]
    rcases lt_or_ge 310 (⟨negative, n, e + k⟩ : Decimal).top with high | high
    · rw [toBinary64_of_high nonzero (top ▸ high), toBinary64_of_high pos.ne' high]
    obtain ⟨num, den, hden, ratio, rounded⟩ := exists_ofRatio nonzero (top ▸ low) (top ▸ high)
    obtain ⟨num', den', hden', ratio', rounded'⟩ := exists_ofRatio pos.ne' low high
    have value : Decimal.value ⟨negative, n * 10 ^ k, e⟩ = Decimal.value ⟨negative, n, e + k⟩ := by
      rw [Decimal.value, Decimal.value, zpow_add₀ (by norm_num), zpow_natCast]
      push_cast
      ring
    have same : num * den' = num' * den := by
      have := ratio.trans (value ▸ ratio'.symm)
      rw [div_eq_div_iff (by positivity) (by positivity)] at this
      exact_mod_cast this
    exact (rounded negative).trans
      ((Binary64.ofRatio_congr hden hden' same).trans (rounded' negative).symm)

end Decimal

namespace Binary64

variable {num den : ℕ} {rank : Fin rankLimit} {negative : Bool}

/-! ## Nearness -/

theorem ofRatio_eq_finite (pos : 0 < den)
    (near : |(num : ℚ) / den - units rank| * 2 ^ 54 < units rank) :
    ofRatio negative num den = .finite negative rank := by
  have posQ : (0 : ℚ) < den := Nat.cast_pos.2 pos
  rw [← lt_div_iff₀ (by positivity), abs_lt] at near
  obtain ⟨above, below⟩ := near
  have ratio : (num : ℚ) = num / den * den := (div_mul_cancel₀ _ posQ.ne').symm
  have nearest : nearestRank num den = rank := by
    refine nearestRank_eq ?_ ?_
    · have : (units rank * den * 2 ^ 54 : ℚ) < num * 2 ^ 54 + units rank * den := by
        rw [ratio]
        nlinarith
      exact_mod_cast this
    · have : (num * 2 ^ 54 : ℚ) < units rank * den * 2 ^ 54 + units rank * den := by
        rw [ratio]
        nlinarith
      exact_mod_cast this
  simp only [ofRatio, nearest, rank.isLt, dif_pos, Fin.eta]

/-- A decimal that is near enough to a number reads as it. -/
theorem toBinary64_eq_finite {d : Decimal} (pos : d.digits ≠ 0) (low : -330 ≤ d.top)
    (high : d.top ≤ 310) (near : |d.value * unitsPerOne - units rank| * 2 ^ 54 < units rank) :
    d.toBinary64 = .finite d.negative rank := by
  obtain ⟨num, den, hden, ratio, rounded⟩ := Decimal.exists_ofRatio pos low high
  exact (rounded d.negative).trans (ofRatio_eq_finite hden (by rwa [ratio]))

/-! ## The grid of decimals with a last power of ten -/

/-- The counts of digits of a ratio's parts tell its first power of ten up to one. -/
theorem ratio_bounds (hnum : 0 < num) (hden : 0 < den) {g : ℤ}
    (hg : g = Decimal.digitCount num - Decimal.digitCount den) :
    (10 : ℚ) ^ (g - 1) ≤ num / den ∧ (num : ℚ) / den < 10 ^ (g + 1) := by
  obtain ⟨a, ha⟩ := Nat.exists_eq_add_one_of_ne_zero (Decimal.digitCount_pos num).ne'
  obtain ⟨b, hb⟩ := Nat.exists_eq_add_one_of_ne_zero (Decimal.digitCount_pos den).ne'
  have pos : (0 : ℚ) < den := Nat.cast_pos.2 hden
  have numLeast : (10 : ℚ) ^ a ≤ num := by
    exact_mod_cast Decimal.pow_le_of_lt_digitCount hnum (by omega)
  have numMost : (num : ℚ) < 10 ^ (a + 1) := by
    exact_mod_cast ha ▸ Decimal.lt_pow_digitCount num
  have denLeast : (10 : ℚ) ^ b ≤ den := by
    exact_mod_cast Decimal.pow_le_of_lt_digitCount hden (by omega)
  have denMost : (den : ℚ) < 10 ^ (b + 1) := by
    exact_mod_cast hb ▸ Decimal.lt_pow_digitCount den
  have scale : (10 : ℚ) ^ g * 10 ^ b = 10 ^ a := by
    rw [show g = (a : ℤ) - b by omega, ← zpow_natCast, ← zpow_natCast, ← zpow_add₀ (by norm_num),
      sub_add_cancel]
  constructor
  · rw [le_div_iff₀ pos, zpow_sub_one₀ (by norm_num)]
    calc (10 : ℚ) ^ g * 10⁻¹ * den ≤ 10 ^ g * 10⁻¹ * 10 ^ (b + 1) := by gcongr
      _ = 10 ^ a := by rw [pow_succ, ← scale]; ring
      _ ≤ num := numLeast
  · rw [div_lt_iff₀ pos, zpow_add_one₀ (by norm_num)]
    calc (num : ℚ) < 10 ^ (a + 1) := numMost
      _ = 10 ^ g * 10 * 10 ^ b := by rw [pow_succ, ← scale]; ring
      _ ≤ 10 ^ g * 10 * den := by gcongr

theorem ten_pow_le_ratio_iff (hden : 0 < den) (g : ℤ) :
    (if 0 ≤ g then den * 10 ^ g.toNat ≤ num else den ≤ num * 10 ^ (-g).toNat) ↔
      (10 : ℚ) ^ g ≤ num / den := by
  rw [le_div_iff₀ (Nat.cast_pos.2 hden)]
  by_cases h : 0 ≤ g
  · rw [if_pos h, ← ten_pow_toNat h, mul_comm]
    exact_mod_cast Iff.rfl
  · rw [if_neg h, ← Nat.cast_le (α := ℚ), Nat.cast_mul, Nat.cast_pow, Nat.cast_ofNat,
      ten_pow_neg_toNat (by omega), ← div_eq_mul_inv, le_div_iff₀ (by positivity), mul_comm]

theorem leadingPower_bounds (hnum : 0 < num) (hden : 0 < den) :
    (10 : ℚ) ^ leadingPower num den ≤ num / den ∧
      (num : ℚ) / den < 10 ^ (leadingPower num den + 1) := by
  obtain ⟨g, hg⟩ : ∃ g : ℤ, g = Decimal.digitCount num - Decimal.digitCount den := ⟨_, rfl⟩
  obtain ⟨above, below⟩ := ratio_bounds hnum hden hg
  simp only [leadingPower, ← hg, ten_pow_le_ratio_iff hden]
  by_cases h : (10 : ℚ) ^ g ≤ num / den
  · rw [if_pos h]
    exact ⟨h, below⟩
  · rw [if_neg h, sub_add_cancel]
    exact ⟨above, not_le.1 h⟩

/-- The magnitude of a rank. -/
def magnitude (rank : Fin rankLimit) : ℚ := units rank / unitsPerOne

theorem unitsPerOne_pos : (0 : ℚ) < unitsPerOne := by
  exact_mod_cast (show 0 < unitsPerOne by decide +kernel)

/-- The nearer of the decimals with seventeen digits reads back. -/
theorem toBinary64_of_near {n : ℕ} {power : ℤ} (least : 10 ^ 16 ≤ n) (most : n ≤ 10 ^ 17)
    (low : -340 ≤ power) (high : power ≤ 292)
    (large : 10 ^ 16 ≤ magnitude rank / 10 ^ power)
    (near : |(n : ℚ) - magnitude rank / 10 ^ power| ≤ 1 / 2) :
    Decimal.toBinary64 ⟨false, n, power⟩ = .finite false rank := by
  have count : 17 ≤ Decimal.digitCount n ∧ Decimal.digitCount n ≤ 18 := by
    constructor
    · refine Nat.not_lt.1 fun less => ?_
      have := (Decimal.digitCount_le_iff (k := 16) (by decide)).1 (Nat.le_of_lt_succ less)
      omega
    · exact (Decimal.digitCount_le_iff (by decide)).2 (by omega)
  have top : (⟨false, n, power⟩ : Decimal).top = Decimal.digitCount n + power := rfl
  refine toBinary64_eq_finite (d := ⟨false, n, power⟩) ?_ ?_ ?_ ?_
  · show n ≠ 0
    omega
  · omega
  · omega
  · obtain ⟨g, hg⟩ : ∃ g, g = magnitude rank / 10 ^ power := ⟨_, rfl⟩
    rw [← hg] at large near
    have power_pos : (0 : ℚ) < 10 ^ power := by positivity
    have scale : (units rank : ℚ) = g * (10 ^ power * unitsPerOne) := by
      rw [hg, magnitude]
      have := unitsPerOne_pos.ne'
      field_simp
    have unit : (0 : ℚ) < 10 ^ power * unitsPerOne := mul_pos power_pos unitsPerOne_pos
    have error : Decimal.value ⟨false, n, power⟩ * unitsPerOne - units rank =
        (n - g) * (10 ^ power * unitsPerOne) := by
      rw [scale, Decimal.value]
      ring
    -- In units of the last digit the error is a half at most, the number `10 ^ 16` at least.
    rw [error, abs_mul, abs_of_pos unit, scale, mul_right_comm]
    refine mul_lt_mul_of_pos_right ?_ unit
    calc |(n : ℚ) - g| * 2 ^ 54 ≤ 1 / 2 * 2 ^ 54 := by gcongr
      _ < 10 ^ 16 := by norm_num
      _ ≤ g := large

/-- A number counted in units of a power of ten. -/
theorem exists_grid (rank : Fin rankLimit) (power : ℤ) : ∃ num den : ℕ,
    (if 0 ≤ power then units rank else units rank * 10 ^ (-power).toNat) = num ∧
    (if 0 ≤ power then unitsPerOne * 10 ^ power.toNat else unitsPerOne) = den ∧
    0 < den ∧ (num : ℚ) / den = magnitude rank / 10 ^ power := by
  refine ⟨_, _, rfl, rfl, ?_, ?_⟩
  · have : 0 < unitsPerOne := Nat.cast_pos.1 unitsPerOne_pos
    split <;> positivity
  · unfold magnitude
    by_cases h : 0 ≤ power
    · rw [if_pos h, if_pos h, Nat.cast_mul, Nat.cast_pow, Nat.cast_ofNat, ten_pow_toNat h, div_div]
    · rw [if_neg h, if_neg h, Nat.cast_mul, Nat.cast_pow, Nat.cast_ofNat,
        ten_pow_neg_toNat (by omega), div_right_comm, div_eq_mul_inv (units rank : ℚ)]

/-- What is found on a grid reads back. -/
theorem toBinary64_of_nearestOnGrid? {tie : Tie} {power : ℤ} {d : Decimal}
    (h : nearestOnGrid? tie rank power = some d) :
    d.negative = false ∧ d.toBinary64 = .finite false rank := by
  obtain ⟨num, den, hnum, hden, -, -⟩ := exists_grid rank power
  simp only [nearestOnGrid?, hnum, hden] at h
  split at h
  · next low high =>
    obtain rfl := Option.some.inj h
    refine ⟨rfl, ?_⟩
    split
    · exact of_decide_eq_true low
    · exact of_decide_eq_true high
  · next low _ =>
    obtain rfl := Option.some.inj h
    exact ⟨rfl, of_decide_eq_true low⟩
  · next _ high =>
    obtain rfl := Option.some.inj h
    exact ⟨rfl, of_decide_eq_true high⟩
  · cases h

/-- One of the two decimals around a number is found if one reads back. -/
theorem nearestOnGrid?_isSome {tie : Tie} {power : ℤ}
    (reads : ∀ low : ℕ, (low : ℚ) ≤ magnitude rank / 10 ^ power →
      magnitude rank / 10 ^ power < low + 1 →
      Decimal.toBinary64 ⟨false, low, power⟩ = .finite false rank ∨
        Decimal.toBinary64 ⟨false, low + 1, power⟩ = .finite false rank) :
    (nearestOnGrid? tie rank power).isSome := by
  obtain ⟨num, den, hnum, hden, pos, ratio⟩ := exists_grid rank power
  have posQ : (0 : ℚ) < den := Nat.cast_pos.2 pos
  have below : ((num / den : ℕ) : ℚ) ≤ magnitude rank / 10 ^ power := by
    rw [← ratio, le_div_iff₀ posQ]
    exact_mod_cast Nat.div_mul_le_self num den
  have above : magnitude rank / 10 ^ power < ((num / den : ℕ) : ℚ) + 1 := by
    rw [← ratio, div_lt_iff₀ posQ]
    rw [mul_comm]
    exact_mod_cast Nat.lt_mul_div_succ num pos
  simp only [nearestOnGrid?, hnum, hden]
  rcases reads (num / den) below above with low | high
  · rw [decide_eq_true low]
    split <;> simp_all
  · rw [decide_eq_true high]
    split <;> simp_all

/-! ## Seventeen digits -/

theorem units_pos (h : rank.val ≠ 0) : 0 < units rank := by
  obtain ⟨s, m, split, -, least, unit⟩ := rank_split rank
  have : 0 < m := by
    rcases Nat.eq_zero_or_pos s with rfl | large
    · omega
    · have := least large
      omega
  rw [unit]
  positivity

theorem units_lt (rank : Fin rankLimit) : units rank < 2 ^ 2098 := by
  obtain ⟨s, m, split, most, least, unit⟩ := rank_split rank
  have limit : rank.val < 2047 * 2 ^ 52 := rank.isLt
  have small : s ≤ 2045 := by
    rcases Nat.eq_zero_or_pos s with rfl | large
    · omega
    · have := least large
      omega
  rw [unit]
  have scaled : m * 2 ^ s < 2 ^ (53 + s) := by
    rw [pow_add]
    exact Nat.mul_lt_mul_of_pos_right most (by positivity)
  exact scaled.trans_le (pow_le_pow_right₀ one_le_two (by omega))

theorem leadingPower_mem (h : rank.val ≠ 0) :
    -324 ≤ leadingPower (units rank) unitsPerOne ∧ leadingPower (units rank) unitsPerOne ≤ 308 := by
  obtain ⟨above, below⟩ :=
    leadingPower_bounds (units_pos h) (Nat.cast_pos.1 unitsPerOne_pos)
  have least : (10 : ℚ) ^ (-324 : ℤ) < units rank / unitsPerOne := by
    rw [lt_div_iff₀ unitsPerOne_pos, zpow_neg, inv_mul_lt_iff₀ (by positivity)]
    have : unitsPerOne < 10 ^ 324 * units rank :=
      lt_of_lt_of_le (by decide +kernel) (Nat.le_mul_of_pos_right _ (units_pos h))
    exact_mod_cast this
  have most : (units rank : ℚ) / unitsPerOne < 10 ^ (309 : ℤ) := by
    rw [div_lt_iff₀ unitsPerOne_pos]
    have : units rank < 10 ^ 309 * unitsPerOne :=
      lt_trans (units_lt rank) (by decide +kernel)
    exact_mod_cast this
  have low := (zpow_lt_zpow_iff_right₀ (by norm_num)).1 (least.trans below)
  have high := (zpow_lt_zpow_iff_right₀ (by norm_num)).1 (above.trans_lt most)
  omega

/-- With seventeen digits a number is always found. -/
theorem nearestOnGrid?_seventeen (tie : Tie) (h : rank.val ≠ 0) :
    (nearestOnGrid? tie rank (leadingPower (units rank) unitsPerOne - 16)).isSome := by
  obtain ⟨top, htop⟩ : ∃ top, top = leadingPower (units rank) unitsPerOne := ⟨_, rfl⟩
  obtain ⟨above, below⟩ := leadingPower_bounds (units_pos h) (Nat.cast_pos.1 unitsPerOne_pos)
  obtain ⟨least, most⟩ := leadingPower_mem h
  rw [← htop] at above below least most ⊢
  have power_pos : (0 : ℚ) < 10 ^ (top - 16) := by positivity
  have large : 10 ^ 16 ≤ magnitude rank / 10 ^ (top - 16) := by
    rw [le_div_iff₀ power_pos, ← zpow_natCast, ← zpow_add₀ (by norm_num)]
    exact le_of_eq_of_le (congrArg _ (by norm_num)) above
  have small : magnitude rank / 10 ^ (top - 16) < 10 ^ 17 := by
    rw [div_lt_iff₀ power_pos, ← zpow_natCast, ← zpow_add₀ (by norm_num)]
    exact lt_of_lt_of_eq below (congrArg _ (by push_cast; ring))
  refine nearestOnGrid?_isSome fun low lower upper => ?_
  have lowLeast : 10 ^ 16 ≤ low := by
    have : (10 ^ 16 : ℚ) < low + 1 := lt_of_le_of_lt large upper
    have : 10 ^ 16 < low + 1 := by exact_mod_cast this
    omega
  have lowMost : low < 10 ^ 17 := by
    have : (low : ℚ) < 10 ^ 17 := lt_of_le_of_lt lower small
    exact_mod_cast this
  rcases le_total (magnitude rank / 10 ^ (top - 16) - low) (1 / 2) with near | far
  · refine .inl (toBinary64_of_near lowLeast lowMost.le (by omega) (by omega) large ?_)
    rw [abs_le]
    constructor <;> linarith
  · refine .inr (toBinary64_of_near (by omega) (by omega) (by omega) (by omega) large ?_)
    rw [Nat.cast_add, Nat.cast_one, abs_le]
    constructor <;> linarith

theorem toBinary64_zero {d : Decimal} (digits : d.digits = 0) (zero : rank.val = 0) :
    d.toBinary64 = .finite d.negative rank := by
  have rounded : nearestRank 0 1 = rank.val := by
    rw [zero]
    decide
  rw [Decimal.toBinary64_of_zero digits]
  simp only [ofRatio, rounded, rank.isLt, dif_pos, Fin.eta]

theorem exists_found (tie : Tie) (h : rank.val ≠ 0) : ∃ d,
    ((List.range 17).findSome? fun (n : ℕ) =>
      nearestOnGrid? tie rank (leadingPower (units rank) unitsPerOne - (n : ℤ))) = some d := by
  rw [← Option.isSome_iff_exists, List.findSome?_isSome_iff]
  exact ⟨16, by decide, nearestOnGrid?_seventeen tie h⟩

/-- The shortest decimal of a magnitude reads back as the magnitude. -/
theorem toBinary64_shortest (tie : Tie) (rank : Fin rankLimit) :
    (shortest tie rank).negative = false ∧ (shortest tie rank).toBinary64 = .finite false rank := by
  by_cases zero : rank.val = 0
  · rw [shortest, if_pos zero]
    exact ⟨rfl, toBinary64_zero rfl zero⟩
  · obtain ⟨d, found⟩ := exists_found tie zero
    obtain ⟨n, -, is⟩ := List.exists_of_findSome?_eq_some found
    rw [shortest, if_neg zero]
    simp only [found, Option.getD_some]
    exact toBinary64_of_nearestOnGrid? is

end Binary64
end NodeSettings
