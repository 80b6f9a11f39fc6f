import NodeSettings.Proofs.Order
import NodeSettings.Proofs.Restoring

/-!
Bounds of whole numbers. A whole number is compared with the bounds after it was rounded, so that
one just beyond a bound may be held to be that bound: `Parameter.assign_whole_iff` tells exactly
which ones are accepted. Up to `2 ^ 53`, and with smaller bounds everywhere, the comparison is that
of the numbers themselves; `exists_accepted_beyond` is the first number past that.
-/

namespace NodeSettings

open Binary64

/-- The whole number that a value is. -/
def Value.whole? : Value → Option Int
  | .int i => some i.toInt
  | .uint n => some n.toNat
  | .uint16 n => some n.toNat
  | _ => none

namespace Range

/-- No bound is infinite, or no number. -/
def IsFinite (r : Range) : Prop :=
  (∀ least ∈ r.least, least.isFinite = true) ∧ ∀ most ∈ r.most, most.isFinite = true

/-- A whole number lies within the bounds. -/
def Holds (r : Range) (i : Int) : Prop :=
  (∀ least ∈ r.least, least.scaled ≤ i * unitsPerOne) ∧
    ∀ most ∈ r.most, i * unitsPerOne ≤ most.scaled

/-- A whole number lies within the bounds, or is rounded to one that it is beyond. -/
def HoldsRounded (r : Range) (i : Int) : Prop :=
  (∀ least ∈ r.least, least.scaled ≤ i * unitsPerOne ∨ (ofInt i).scaled = least.scaled) ∧
    ∀ most ∈ r.most, i * unitsPerOne ≤ most.scaled ∨ (ofInt i).scaled = most.scaled

/-- The bounds lie where whole numbers are not rounded. -/
def IsSmall (r : Range) : Prop :=
  (∀ least ∈ r.least, least.scaled.natAbs < 2 ^ 53 * unitsPerOne) ∧
    ∀ most ∈ r.most, most.scaled.natAbs < 2 ^ 53 * unitsPerOne

instance (r : Range) : Decidable r.IsFinite := inferInstanceAs (Decidable (_ ∧ _))

instance (r : Range) : Decidable r.IsSmall := inferInstanceAs (Decidable (_ ∧ _))

instance (r : Range) (i : Int) : Decidable (r.Holds i) := inferInstanceAs (Decidable (_ ∧ _))

instance (r : Range) (i : Int) : Decidable (r.HoldsRounded i) := inferInstanceAs (Decidable (_ ∧ _))

variable {r : Range} {i : Int}

theorem Holds.rounded (h : r.Holds i) : r.HoldsRounded i :=
  ⟨fun least hleast => .inl (h.1 least hleast), fun most hmost => .inl (h.2 most hmost)⟩

/-- Where nothing is rounded to a bound, the verdict is that of the number itself. -/
theorem holdsRounded_iff (few : i.natAbs ≤ 2 ^ 64) (exact : i.natAbs ≤ 2 ^ 53 ∨ r.IsSmall) :
    r.HoldsRounded i ↔ r.Holds i := by
  have own {x : Binary64} (small : i.natAbs ≤ 2 ^ 53 ∨ x.scaled.natAbs < 2 ^ 53 * unitsPerOne)
      (same : (ofInt i).scaled = x.scaled) : x.scaled = i * unitsPerOne := by
    rcases small with small | small
    · rw [← same, scaled_ofInt small]
    · exact eq_of_scaled_ofInt_eq few same small
  constructor
  · rintro ⟨lower, upper⟩
    refine ⟨fun least hleast => ?_, fun most hmost => ?_⟩
    · exact (lower least hleast).elim id fun same =>
        (own (exact.imp_right (·.1 least hleast)) same).le
    · exact (upper most hmost).elim id fun same =>
        (own (exact.imp_right (·.2 most hmost)) same).ge
  · exact Holds.rounded

/-- The bounds are held against the rounded number. -/
theorem holdsRounded_iff_le (few : i.natAbs ≤ 2 ^ 64) (finite : r.IsFinite) :
    r.HoldsRounded i ↔ (∀ least ∈ r.least, least.le (ofInt i) = true) ∧
      ∀ most ∈ r.most, (ofInt i).le most = true := by
  have number := isFinite_ofInt few
  refine and_congr (forall₂_congr fun least hleast => ?_) (forall₂_congr fun most hmost => ?_)
  · rw [le_iff_scaled_le (finite.1 least hleast) number, scaled_le_ofInt_iff few]
  · rw [le_iff_scaled_le number (finite.2 most hmost), ofInt_le_scaled_iff few]

end Range

namespace Value

variable {v : Value} {i : Int}

theorem natAbs_le_of_whole (whole : v.whole? = some i) : i.natAbs ≤ 2 ^ 64 := by
  cases v with
  | bool | float | string | choice => cases whole
  | int j =>
    obtain rfl := Option.some.inj whole
    have := j.le_toInt
    have := j.toInt_lt
    omega
  | uint n =>
    obtain rfl := Option.some.inj whole
    exact n.toNat_lt.le
  | uint16 n =>
    obtain rfl := Option.some.inj whole
    exact n.toNat_lt.le.trans (by decide)

theorem kind_of_whole (whole : v.whole? = some i) : v.kind ∈ [Kind.int, .uint, .uint16] := by
  cases v with
  | bool | float | string | choice => cases whole
  | int | uint | uint16 => simp [kind]

theorem asNumber?_of_whole (whole : v.whole? = some i) : v.asNumber? = some (.ofInt i) := by
  cases v with
  | bool | float | string | choice => cases whole
  | int j => exact congrArg (some ∘ ofInt) (Option.some.inj whole)
  | uint n | uint16 n =>
    obtain rfl := Option.some.inj whole
    rw [asNumber?, ofNat, ofInt, Int.natAbs_natCast, decide_eq_false (Int.natCast_nonneg _).not_gt]

end Value

/-- A whole number has to obey no rule but the bounds. -/
theorem Declaration.allows_iff_of_whole {d : Declaration} {v : Value} {i : Int}
    (whole : v.whole? = some i) (kind : v.kind = d.kind) (finite : ∀ r ∈ d.range, r.IsFinite) :
    d.Allows v ↔ ∀ r ∈ d.range, r.HoldsRounded i := by
  have few := Value.natAbs_le_of_whole whole
  have number := Value.asNumber?_of_whole whole
  constructor
  · intro allowed r hr
    exact (Range.holdsRounded_iff_le few (finite r hr)).2 (allowed.range r hr _ number)
  · intro holds
    have numeric := Value.kind_of_whole whole
    refine ⟨kind, fun choice => ?_, ?_, ?_, fun r hr x hx => ?_⟩
    · rw [kind, choice] at numeric
      exact absurd numeric (by decide)
    · rintro s rfl
      cases whole
    · rintro s rfl
      cases whole
    · obtain rfl := Option.some.inj (number.symm.trans hx)
      exact (Range.holdsRounded_iff_le few (finite r hr)).1 (holds r hr)

namespace Parameter

variable {p : Parameter} {v : Value} {i : Int}

theorem exists_assign_iff : (∃ q, p.assign v = .ok q) ↔ p.toDeclaration.Allows v := by
  constructor
  · rintro ⟨q, assigned⟩
    exact (assign_eq_ok_iff.1 assigned).1
  · intro allowed
    exact ⟨_, assign_eq_ok_iff.2 ⟨allowed, rfl⟩⟩

/-- A whole number is accepted, as a value and as a text alike, if it lies within the bounds or is
rounded to one that it is beyond. So a number within the bounds always is, and one beyond them is
only where numbers are rounded: past `2 ^ 53`, at a bound that lies there as well. -/
theorem assign_whole_iff (whole : v.whole? = some i) (kind : v.kind = p.kind)
    (finite : ∀ r ∈ p.range, r.IsFinite) :
    ((∃ q, p.assign v = .ok q) ↔ ∀ r ∈ p.range, r.HoldsRounded i) ∧
    p.assignText v.text = p.assign v ∧
    ((i.natAbs ≤ 2 ^ 53 ∨ ∀ r ∈ p.range, r.IsSmall) →
      ((∃ q, p.assign v = .ok q) ↔ ∀ r ∈ p.range, r.Holds i)) := by
  have accepted : (∃ q, p.assign v = .ok q) ↔ ∀ r ∈ p.range, r.HoldsRounded i :=
    exists_assign_iff.trans (Declaration.allows_iff_of_whole whole kind finite)
  refine ⟨accepted, assignText_text kind (Value.isFinite_of_kind fun float => ?_), fun exact => ?_⟩
  · exact absurd (float ▸ Value.kind_of_whole whole) (by decide)
  · have few := Value.natAbs_le_of_whole whole
    exact accepted.trans (forall₂_congr fun r hr =>
      Range.holdsRounded_iff few (exact.imp_right fun small => small r hr))

/-- A size that is limited. -/
def sizeUpTo (most : Int) : Parameter :=
  .ofDeclaration
    { id := "size", name := "Size", kind := .uint, range := some ⟨none, some (.ofInt most)⟩ }

/-- With a limit of a thousand the largest number of all is rejected, and a thousand is accepted. -/
theorem assign_whole_iff_thousand :
    (¬ ∃ q, (sizeUpTo 1000).assign (.uint 18446744073709551615) = .ok q) ∧
    (¬ ∃ q, (sizeUpTo 1000).assignText "18446744073709551615" = .ok q) ∧
    ∃ q, (sizeUpTo 1000).assignText "1000" = .ok q := by
  have finite : ∀ r ∈ (sizeUpTo 1000).range, r.IsFinite := by decide +kernel
  have small : ∀ r ∈ (sizeUpTo 1000).range, r.IsSmall := by decide +kernel
  obtain ⟨-, text, exact⟩ := assign_whole_iff (p := sizeUpTo 1000)
    (v := .uint 18446744073709551615) (i := 18446744073709551615) (by decide +kernel) rfl finite
  obtain ⟨-, text', exact'⟩ := assign_whole_iff (p := sizeUpTo 1000) (v := .uint 1000)
    (i := 1000) (by decide +kernel) rfl finite
  have rejected : ¬ ∃ q, (sizeUpTo 1000).assign (.uint 18446744073709551615) = .ok q :=
    fun accepted => absurd ((exact (.inr small)).1 accepted) (by decide +kernel)
  have accepted := (exact' (.inr small)).2 (by decide +kernel)
  refine ⟨rejected, ?_, ?_⟩
  · rw [show "18446744073709551615" = (Value.uint 18446744073709551615).text by decide +kernel,
      text]
    exact rejected
  · rw [show "1000" = (Value.uint 1000).text by decide +kernel, text']
    exact accepted

/-- With a limit of `2 ^ 53` the next number is accepted, as a value and as a text. -/
theorem exists_accepted_beyond : ∃ (p : Parameter) (v : Value) (i : Int),
    v.whole? = some i ∧ v.kind = p.kind ∧ (∀ r ∈ p.range, r.IsFinite) ∧
    (¬ ∀ r ∈ p.range, r.Holds i) ∧ (∃ q, p.assign v = .ok q) ∧
    ∃ q, p.assignText v.text = .ok q := by
  have whole : (Value.uint (2 ^ 53 + 1)).whole? = some (2 ^ 53 + 1) := by decide
  have finite : ∀ r ∈ (sizeUpTo (2 ^ 53)).range, r.IsFinite := by decide +kernel
  have accepted : ∃ q, (sizeUpTo (2 ^ 53)).assign (.uint (2 ^ 53 + 1)) = .ok q :=
    exists_assign_iff.2 ((Declaration.allows_iff_of_whole whole rfl finite).2 (by decide +kernel))
  refine ⟨sizeUpTo (2 ^ 53), .uint (2 ^ 53 + 1), 2 ^ 53 + 1, whole, rfl, finite,
    by decide +kernel, accepted, ?_⟩
  rw [assignText_text rfl (by decide)]
  exact accepted

end Parameter
end NodeSettings
