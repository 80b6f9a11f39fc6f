import NodeSettings.Proofs.Numerals
import NodeSettings.Proofs.ValueText

/-!
Which texts are values, and what the values are. A whole number is read where one stands between
blanks and is in the range of its kind. However a value is spelled, the text that it is persisted as
spells it too, and no other value of its kind is persisted so: `Value.parse?_outcome`.
-/

namespace NodeSettings

namespace Value

open Text

attribute [local instance (high)] instPowNat

variable {kind : Kind} {raw other : String} {v w : Value}

theorem toList_trim (raw : String) : (trim raw).toList = trimChars raw.toList :=
  String.toList_ofList

theorem parse?_int_iff : parse? .int raw = some v ↔ ∃ inner i, Trims raw.toList inner ∧
    IsInteger inner i ∧ -2 ^ (63 : Nat) ≤ i ∧ i < 2 ^ (63 : Nat) ∧ v = .int (.ofInt i) := by
  simp only [exists_trims_iff, ← readInt?_eq_some_iff, parse?, toList_trim]
  cases readInt? (trimChars raw.toList) with
  | none => simp
  | some i => simp [and_assoc, eq_comm]

/-- Numerals below a bound are read between blanks, whatever is made of them. -/
theorem parseBelow?_iff {bound : Nat} {of : Nat → Value} :
    (parseBelow? bound (trim raw)).map of = some v ↔
      ∃ inner n, Trims raw.toList inner ∧ IsNumeral inner n ∧ n < bound ∧ v = of n := by
  simp only [exists_trims_iff, ← readNat?_eq_some_iff, parseBelow?, toList_trim]
  cases readNat? (trimChars raw.toList) with
  | none => simp
  | some n => simp [Option.filter_some, eq_comm]

/-- The text of a value that was read is read as the value again. -/
theorem parse?_text_of_parse? (parsed : parse? kind raw = some v) :
    parse? kind v.text = some v := by
  have read := parse?_text (isFinite_of_parse? parsed)
  rwa [kind_of_parse? parsed] at read

theorem text_inj_of_parse? (parsed : parse? kind raw = some v)
    (parsed' : parse? kind other = some w) : v.text = w.text ↔ v = w := by
  refine ⟨fun same => ?_, congrArg text⟩
  have read := parse?_text_of_parse? parsed
  rw [same, parse?_text_of_parse? parsed'] at read
  exact (Option.some.inj read).symm

/-- What texts are read as. Whole numbers are read between blanks, with a `+` or not and, where
there are negative ones, with a `-`, if they are in range; strings and choices are read as they are.
A value that was read is read from its own text as well, which no other value of the kind has; so is
every value but a number that is infinite or none at all. -/
theorem parse?_outcome :
    (∀ raw v, parse? .int raw = some v ↔ ∃ inner i, Trims raw.toList inner ∧ IsInteger inner i ∧
      -2 ^ (63 : Nat) ≤ i ∧ i < 2 ^ (63 : Nat) ∧ v = .int (.ofInt i)) ∧
    (∀ raw v, parse? .uint raw = some v ↔ ∃ inner n, Trims raw.toList inner ∧ IsNumeral inner n ∧
      n < 2 ^ (64 : Nat) ∧ v = .uint (.ofNat n)) ∧
    (∀ raw v, parse? .uint16 raw = some v ↔ ∃ inner n, Trims raw.toList inner ∧
      IsNumeral inner n ∧ n < 2 ^ (16 : Nat) ∧ v = .uint16 (.ofNat n)) ∧
    (∀ raw, parse? .string raw = some (.string raw) ∧ parse? .choice raw = some (.choice raw)) ∧
    (∀ kind raw v, parse? kind raw = some v → parse? kind v.text = some v) ∧
    (∀ kind raw raw' v w, parse? kind raw = some v → parse? kind raw' = some w →
      (v.text = w.text ↔ v = w)) ∧
    ∀ v : Value, v.IsFinite → parse? v.kind v.text = some v := by
  refine ⟨fun _ _ => parse?_int_iff, fun _ _ => ?_, fun _ _ => ?_, fun _ => ⟨rfl, rfl⟩,
    fun _ _ _ => parse?_text_of_parse?, fun _ _ _ _ _ => text_inj_of_parse?, fun _ => parse?_text⟩
  · rw [parse?, parseBelow?_iff]
  · rw [parse?, parseBelow?_iff]

/-- A number may have a sign and zeros in front, which its text leaves out. -/
theorem parse?_outcome_padded : parse? .int " -007\n" = some (.int (-7)) ∧
    parse? .int (text (.int (-7))) = some (.int (-7)) ∧
    (text (.uint16 65535) = text (.uint16 65534) ↔ (.uint16 65535 : Value) = .uint16 65534) ∧
    parse? .float (text (.float (.finite true 0))) = some (.float (.finite true 0)) := by
  obtain ⟨-, -, -, -, again, distinct, restored⟩ := parse?_outcome
  have negative : parse? .int " -007\n" = some (.int (-7)) := by decide +kernel
  exact ⟨negative, again .int _ _ negative,
    distinct .uint16 "+65535" " 065534 " _ _ (by decide +kernel) (by decide +kernel),
    restored (.float (.finite true 0)) (by decide)⟩

end Value
end NodeSettings
