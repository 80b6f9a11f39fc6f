import NodeSettings.Proofs.Rounding

/-!
Rounding keeps the order. A number is its count of least units above zero, `scaled`, and the order
of numbers is that of these counts (`le_iff_scaled_le`). Whole numbers are rounded without passing
any number on the way (`scaled_le_ofInt_iff`, `ofInt_le_scaled_iff`): a comparison with a number is
decided as before rounding, or the whole number has become that number. Up to `2 ^ 53` whole numbers
are not rounded at all (`scaled_ofInt`).
-/

namespace NodeSettings.Binary64

variable {num num' den r : Nat} {i : Int} {x y : Binary64}

/-! ## Whole numbers -/

theorem div_le_roundHalfEven (num den : Nat) : num / den ≤ roundHalfEven num den := by
  simp only [roundHalfEven]
  split
  · exact Nat.le_refl _
  · split
    · exact Nat.le_succ _
    · exact Nat.le_add_right _ _

theorem roundHalfEven_le (num den : Nat) : roundHalfEven num den ≤ num / den + 1 := by
  simp only [roundHalfEven]
  split
  · exact Nat.le_succ _
  · split
    · exact Nat.le_refl _
    · exact Nat.add_le_add_left (Nat.le_of_lt_succ (Nat.mod_lt _ Nat.two_pos)) _

theorem roundHalfEven_mono (le : num ≤ num') : roundHalfEven num den ≤ roundHalfEven num' den := by
  rcases (Nat.div_le_div_right (c := den) le).eq_or_lt with same | less
  · -- with the same whole part the rest is not less
    have rest : num % den ≤ num' % den := by
      have split := Nat.div_add_mod num den
      have split' := Nat.div_add_mod num' den
      rw [← same] at split'
      omega
    have even : num / den % 2 ≤ 1 := Nat.le_of_lt_succ (Nat.mod_lt _ Nat.two_pos)
    simp only [roundHalfEven, ← same]
    split_ifs <;> omega
  · calc roundHalfEven num den ≤ num / den + 1 := roundHalfEven_le num den
      _ ≤ num' / den := less
      _ ≤ roundHalfEven num' den := div_le_roundHalfEven num' den

/-! ## Magnitudes -/

/-- Every ratio has an exponent that leaves 53 binary digits. -/
theorem exists_exponent (pos : 0 < den) (num : Nat) :
    ∃ s, (s = 0 ∨ 2 ^ (52 + s) * den ≤ num) ∧ num < 2 ^ (53 + s) * den := by
  by_cases small : num / den < 2 ^ 53
  · exact ⟨0, .inl rfl, (Nat.div_lt_iff_lt_mul pos).1 small⟩
  · have some : num / den ≠ 0 := fun none => small (none ▸ Nat.two_pow_pos 53)
    have large : 53 ≤ (num / den).log2 := (Nat.le_log2 some).2 (Nat.not_lt.1 small)
    obtain ⟨s, log⟩ := Nat.exists_eq_add_of_le large
    refine ⟨s + 1, .inr ((Nat.le_div_iff_mul_le pos).1 ?_), (Nat.div_lt_iff_lt_mul pos).1 ?_⟩
    · rw [show 52 + (s + 1) = (num / den).log2 by omega]
      exact Nat.log2_self_le some
    · rw [show 53 + (s + 1) = (num / den).log2 + 1 by omega]
      exact Nat.lt_log2_self

theorem nearestRank_mono (pos : 0 < den) (le : num ≤ num') :
    nearestRank num den ≤ nearestRank num' den := by
  obtain ⟨s, least, most⟩ := exists_exponent pos num
  obtain ⟨s', least', most'⟩ := exists_exponent pos num'
  rw [nearestRank_of_exponent least most, nearestRank_of_exponent least' most']
  have unit (t : Nat) : 0 < den * 2 ^ t := Nat.mul_pos pos (Nat.two_pow_pos t)
  have scaled (e t : Nat) : 2 ^ (e + t) * den = 2 ^ e * (den * 2 ^ t) := by
    rw [pow_add]
    ring
  rcases Nat.lt_trichotomy s s' with less | rfl | more
  · -- one exponent ends where the next one starts
    have upper : roundHalfEven num (den * 2 ^ s) ≤ 2 ^ 53 :=
      (roundHalfEven_le _ _).trans ((Nat.div_lt_iff_lt_mul (unit s)).2 (scaled 53 s ▸ most))
    have lower : 2 ^ 52 ≤ roundHalfEven num' (den * 2 ^ s') :=
      ((Nat.le_div_iff_mul_le (unit s')).2 (scaled 52 s' ▸ least'.resolve_left (by omega))).trans
        (div_le_roundHalfEven _ _)
    omega
  · exact Nat.add_le_add_left (roundHalfEven_mono le) _
  · have large := least.resolve_left (by omega)
    have grows : 2 ^ (53 + s') * den ≤ 2 ^ (52 + s) * den :=
      Nat.mul_le_mul_right den (Nat.pow_le_pow_right Nat.two_pos (by omega))
    omega

/-- The first magnitudes lie one unit apart. -/
theorem units_of_le (small : r ≤ 2 ^ 53) : units r = r := by
  rcases small.eq_or_lt with rfl | less
  · decide
  · have shift : r / 2 ^ 52 - 1 = 0 := by omega
    simp only [units, shift, Nat.zero_mul, Nat.sub_zero, pow_zero, Nat.mul_one]

/-- From the first exponent on, the next one doubles a magnitude. -/
theorem units_add (large : 2 ^ 52 ≤ r) : units (r + 2 ^ 52) = 2 * units r := by
  obtain ⟨t, shift⟩ : ∃ t, r / 2 ^ 52 = t + 1 := ⟨r / 2 ^ 52 - 1, by omega⟩
  have shift' : (r + 2 ^ 52) / 2 ^ 52 = t + 2 := by omega
  have digits : r + 2 ^ 52 - (t + 1) * 2 ^ 52 = r - t * 2 ^ 52 := by omega
  simp only [units, shift, shift', Nat.add_sub_cancel]
  rw [show t + 2 - 1 = t + 1 from rfl, digits, pow_succ]
  ring

/-- A magnitude is rounded to itself. -/
theorem nearestRank_units (r : Nat) : nearestRank (units r) 1 = r := by
  rcases Nat.eq_zero_or_pos (units r) with none | some
  · obtain ⟨s, m, rank, -, least, unit⟩ := rank_split r
    have digits : m = 0 :=
      (Nat.mul_eq_zero.1 (unit.symm.trans none)).resolve_right (Nat.two_pow_pos s).ne'
    have exponent : s = 0 := Nat.eq_zero_of_not_pos fun pos => by
      have := least pos
      omega
    rw [none, rank, digits, exponent]
    decide
  · exact nearestRank_eq (by omega) (by omega)

theorem units_strictMono : StrictMono units := by
  intro r s less
  by_contra more
  have le := nearestRank_mono Nat.one_pos (Nat.not_lt.1 more)
  rw [nearestRank_units, nearestRank_units] at le
  exact Nat.not_le.2 less le

/-- Few digits and an exponent make a magnitude. -/
theorem exists_units (s : Nat) : ∀ m ≤ 2 ^ 53, ∃ r, units r = m * 2 ^ s := by
  induction s with
  | zero => exact fun m few => ⟨m, by rw [units_of_le few, pow_zero, Nat.mul_one]⟩
  | succ s ih =>
    intro m few
    by_cases fewer : 2 * m ≤ 2 ^ 53
    · obtain ⟨r, unit⟩ := ih (2 * m) fewer
      exact ⟨r, by rw [unit, pow_succ]; ring⟩
    · obtain ⟨r, unit⟩ := ih m few
      have large : 2 ^ 52 ≤ r := by
        by_contra small
        have own : r = m * 2 ^ s := by rw [← unit, units_of_le (by omega)]
        have : m ≤ m * 2 ^ s := Nat.le_mul_of_pos_right m (Nat.two_pow_pos s)
        omega
      exact ⟨r + 2 ^ 52, by rw [units_add large, unit, pow_succ]; ring⟩

/-! ## Numbers and their place -/

/-- A finite number in units of the least one above zero. -/
def scaled : Binary64 → Int
  | .finite negative rank => if negative then -(units rank : Int) else units rank
  | _ => 0

theorem le_iff_scaled_le (hx : x.isFinite = true) (hy : y.isFinite = true) :
    x.le y = true ↔ x.scaled ≤ y.scaled := by
  cases x with
  | nan | infinite _ => cases hx
  | finite negative rank =>
    cases y with
    | nan | infinite _ => cases hy
    | finite negative' rank' =>
      have order (r s : Nat) : units r ≤ units s ↔ r ≤ s := units_strictMono.le_iff_le
      have same := order rank rank'
      have reversed := order rank' rank
      -- of a positive and a negative number the order is that of each and zero
      have none : units rank ≤ 0 ↔ rank.val ≤ 0 := order rank 0
      have none' : units rank' ≤ 0 ↔ rank'.val ≤ 0 := order rank' 0
      cases negative <;> cases negative' <;>
        simp only [le, place?, scaled, decide_eq_true_iff, if_true, if_false,
          Bool.false_eq_true] <;>
        omega

/-! ## Rounded whole numbers -/

/-- Rounding passes no magnitude on the way. -/
theorem units_le_nearest (le : units r ≤ num) : units r ≤ units (nearestRank num 1) := by
  refine units_strictMono.monotone ?_
  have mono := nearestRank_mono Nat.one_pos le
  rwa [nearestRank_units] at mono

theorem nearest_le_units (le : num ≤ units r) : units (nearestRank num 1) ≤ units r := by
  refine units_strictMono.monotone ?_
  have mono := nearestRank_mono Nat.one_pos le
  rwa [nearestRank_units] at mono

/-- No whole number up to `2 ^ 64` is rounded to an infinite one. -/
theorem ofInt_eq (few : i.natAbs ≤ 2 ^ 64) :
    ∃ rank : Fin rankLimit, rank.val = nearestRank (i.natAbs * unitsPerOne) 1 ∧
      ofInt i = .finite (decide (i < 0)) rank := by
  have most : nearestRank (2 ^ 64 * unitsPerOne) 1 < rankLimit := by decide +kernel
  have less : nearestRank (i.natAbs * unitsPerOne) 1 < rankLimit :=
    (nearestRank_mono Nat.one_pos (Nat.mul_le_mul_right _ few)).trans_lt most
  exact ⟨⟨_, less⟩, rfl, dif_pos less⟩

theorem isFinite_ofInt (few : i.natAbs ≤ 2 ^ 64) : (ofInt i).isFinite = true := by
  obtain ⟨rank, -, is⟩ := ofInt_eq few
  rw [is]
  rfl

/-- A whole number is rounded as its magnitude is. -/
theorem scaled_ofInt_eq (few : i.natAbs ≤ 2 ^ 64) :
    (ofInt i).scaled = i.sign * units (nearestRank (i.natAbs * unitsPerOne) 1) := by
  obtain ⟨rank, same, is⟩ := ofInt_eq few
  rw [is, scaled, same]
  rcases Int.lt_trichotomy i 0 with negative | rfl | positive
  · rw [Int.sign_eq_neg_one_of_neg negative, decide_eq_true negative, if_pos rfl, Int.neg_one_mul]
  · decide +kernel
  · rw [Int.sign_eq_one_of_pos positive, decide_eq_false positive.le.not_gt,
      if_neg Bool.false_ne_true, Int.one_mul]

theorem mul_eq_sign_mul (i : Int) (n : Nat) : i * n = i.sign * ((i.natAbs * n : Nat) : Int) := by
  rw [Int.natCast_mul, ← Int.mul_assoc, Int.sign_mul_natAbs]

/-- A number has a magnitude and a sign. -/
theorem exists_scaled (x : Binary64) :
    ∃ r, x.scaled = (units r : Int) ∨ x.scaled = -(units r : Int) := by
  cases x with
  | nan | infinite _ => exact ⟨0, .inl (by simp [scaled, units])⟩
  | finite negative rank =>
    cases negative with
    | false => exact ⟨rank, .inl (by simp [scaled])⟩
    | true => exact ⟨rank, .inr (by simp [scaled])⟩

/-- Rounding a whole number passes no number on the way. -/
theorem ofInt_monotone (few : i.natAbs ≤ 2 ^ 64) (x : Binary64) :
    (x.scaled ≤ i * unitsPerOne → x.scaled ≤ (ofInt i).scaled) ∧
      (i * unitsPerOne ≤ x.scaled → (ofInt i).scaled ≤ x.scaled) := by
  obtain ⟨r, place⟩ := exists_scaled x
  rw [scaled_ofInt_eq few, mul_eq_sign_mul]
  generalize i.natAbs * unitsPerOne = num
  have above : units r ≤ num → units r ≤ units (nearestRank num 1) := units_le_nearest
  have below : num ≤ units r → units (nearestRank num 1) ≤ units r := nearest_le_units
  rcases Int.lt_trichotomy i 0 with negative | rfl | positive
  · rw [Int.sign_eq_neg_one_of_neg negative]
    omega
  · simp
  · rw [Int.sign_eq_one_of_pos positive]
    omega

/-- What is not less than a number after rounding was not less before, or has become that number. -/
theorem scaled_le_ofInt_iff (few : i.natAbs ≤ 2 ^ 64) : x.scaled ≤ (ofInt i).scaled ↔
    x.scaled ≤ i * unitsPerOne ∨ (ofInt i).scaled = x.scaled := by
  obtain ⟨above, below⟩ := ofInt_monotone few x
  constructor
  · intro le
    rcases Int.le_total x.scaled (i * unitsPerOne) with exact | passed
    · exact .inl exact
    · exact .inr (Int.le_antisymm (below passed) le)
  · rintro (exact | same)
    · exact above exact
    · exact same.ge

theorem ofInt_le_scaled_iff (few : i.natAbs ≤ 2 ^ 64) : (ofInt i).scaled ≤ x.scaled ↔
    i * unitsPerOne ≤ x.scaled ∨ (ofInt i).scaled = x.scaled := by
  obtain ⟨above, below⟩ := ofInt_monotone few x
  constructor
  · intro le
    rcases Int.le_total (i * unitsPerOne) x.scaled with exact | passed
    · exact .inl exact
    · exact .inr (Int.le_antisymm le (above passed))
  · rintro (exact | same)
    · exact below exact
    · exact same.le

/-! ## Small whole numbers -/

/-- A whole number up to `2 ^ 53` is a magnitude. -/
theorem exists_units_whole {n : Nat} (small : n ≤ 2 ^ 53) : ∃ r, units r = n * unitsPerOne := by
  rw [show unitsPerOne = 2 ^ 1074 by decide +kernel]
  exact exists_units 1074 n small

/-- A whole number up to `2 ^ 53` is a number itself. -/
theorem scaled_ofInt (small : i.natAbs ≤ 2 ^ 53) : (ofInt i).scaled = i * unitsPerOne := by
  have few : i.natAbs ≤ 2 ^ 64 := small.trans (by decide)
  obtain ⟨r, unit⟩ := exists_units_whole small
  rw [scaled_ofInt_eq few, mul_eq_sign_mul i unitsPerOne, ← unit, nearestRank_units]

/-- What is rounded to a number below `2 ^ 53` is that number. -/
theorem eq_of_scaled_ofInt_eq (few : i.natAbs ≤ 2 ^ 64) (same : (ofInt i).scaled = x.scaled)
    (small : x.scaled.natAbs < 2 ^ 53 * unitsPerOne) : x.scaled = i * unitsPerOne := by
  rcases Nat.le_total i.natAbs (2 ^ 53) with exact | large
  · rw [← same, scaled_ofInt exact]
  · obtain ⟨r, unit⟩ := exists_units_whole (Nat.le_refl (2 ^ 53))
    have reached : units r ≤ i.natAbs * unitsPerOne := by
      rw [unit]
      exact Nat.mul_le_mul_right unitsPerOne large
    have magnitude : (ofInt i).scaled.natAbs =
        units (nearestRank (i.natAbs * unitsPerOne) 1) := by
      have nonzero : i ≠ 0 := by
        rintro rfl
        exact absurd large (by decide)
      rw [scaled_ofInt_eq few, Int.natAbs_mul, Int.natAbs_sign_of_ne_zero nonzero, Nat.one_mul,
        Int.natAbs_natCast]
    rw [← same, magnitude, ← unit] at small
    exact absurd (units_le_nearest reached) (Nat.not_le.2 small)

end NodeSettings.Binary64
