import NodeSettings.Proofs.Stamps
import NodeSettings.Proofs.ValueText

/-!
Which texts are versions, step by step: blanks around the text go, then one leading `v`, then the
first `-` and what is behind it (`Version.IsCore`), and three numbers with points between them must
be left. `Version.parse_outcome` says that these texts are read as the versions they spell and that
all others are refused. The stamp of a version is such a text, so it tells the version from all
others, and versions compare as their numbers do, the major one first.
-/

namespace NodeSettings

namespace Text

theorem isNumeral_toString (n : Nat) : IsNumeral (toString n).toList n :=
  readNat?_eq_some_iff.1 (readNat?_toString n)

end Text

namespace Version

open Text

attribute [local instance (high)] instPowNat

variable {stamp : String} {cs rest core : List Char} {v w : Version}

/-! ## What is left of a stamp -/

/-- The rest of a text behind its leading `v`, or all of it if it has none. -/
def DropsLead (cs rest : List Char) : Prop :=
  cs = 'v' :: rest ∨ (cs.head? ≠ some 'v' ∧ rest = cs)

/-- What stands in front of the first `-` of a text, or all of it if it has none. -/
def EndsAtDash (cs core : List Char) : Prop :=
  '-' ∉ core ∧ (cs = core ∨ ∃ name, cs = core ++ '-' :: name)

/-- What is left of a stamp to be read as numbers. -/
def IsCore (stamp : String) (core : List Char) : Prop :=
  ∃ trimmed rest, Trims stamp.toList trimmed ∧ DropsLead trimmed rest ∧ EndsAtDash rest core

/-- Three numbers below `2 ^ 32` with points between them are left of a stamp. -/
def Spells (stamp : String) (major minor patch : Nat) : Prop :=
  ∃ first second third, IsCore stamp (first ++ '.' :: (second ++ '.' :: third)) ∧
    IsNumeral first major ∧ IsNumeral second minor ∧ IsNumeral third patch ∧
    major < 2 ^ (32 : Nat) ∧ minor < 2 ^ (32 : Nat) ∧ patch < 2 ^ (32 : Nat)

theorem dropsLead_iff : DropsLead (trimChars stamp.toList) rest ↔ bare stamp = rest := by
  unfold DropsLead bare
  split
  · next behind trimmed => simp [trimmed]
  · next unmarked =>
    have other : ¬ ∃ rest, trimChars stamp.toList = 'v' :: rest := fun ⟨rest, trimmed⟩ =>
      unmarked rest trimmed
    rw [← List.head?_eq_some_iff] at other
    constructor
    · rintro (marked | ⟨-, rfl⟩)
      · exact absurd marked (unmarked rest)
      · rfl
    · rintro rfl
      exact .inr ⟨other, rfl⟩

theorem endsAtDash_iff : EndsAtDash cs core ↔ cs.takeWhile (· != '-') = core := by
  constructor
  · rintro ⟨free, whole⟩
    have kept : ∀ c ∈ core, (c != '-') = true := fun c hc =>
      bne_iff_ne.2 fun dash => free (dash ▸ hc)
    rcases whole with rfl | ⟨name, rfl⟩
    · exact List.takeWhile_eq_self_iff.2 kept
    · rw [List.takeWhile_append_of_pos kept, List.takeWhile_cons_of_neg (by simp), List.append_nil]
  · rintro rfl
    have split := List.takeWhile_append_dropWhile (p := (· != '-')) (l := cs)
    have stops := List.head?_dropWhile_not (· != '-') cs
    refine ⟨fun among => by simpa using List.mem_takeWhile_imp among, ?_⟩
    cases dropped : cs.dropWhile (· != '-') with
    | nil =>
      rw [dropped, List.append_nil] at split
      exact .inl split.symm
    | cons c name =>
      rw [dropped] at stops split
      obtain rfl : c = '-' := by simpa using stops
      exact .inr ⟨name, split.symm⟩

theorem isCore_iff : IsCore stamp core ↔ (bare stamp).takeWhile (· != '-') = core := by
  rw [← endsAtDash_iff]
  constructor
  · rintro ⟨trimmed, rest, trims, drops, ends⟩
    rw [← trims_iff.1 trims] at drops
    rwa [dropsLead_iff.1 drops]
  · intro ends
    exact ⟨_, _, trims_iff.2 rfl, dropsLead_iff.2 rfl, ends⟩

/-! ## Reading and writing -/

theorem parse_eq_ok_iff_spells :
    parse stamp = .ok v ↔ Spells stamp v.major.toNat v.minor.toNat v.patch.toNat := by
  rw [parse_eq_ok_iff, ← ofStamp?_eq_some_iff, ofStamp?_eq_some_iff_fields, numbers?_eq_some_iff]
  simp only [Spells, isCore_iff, v.major.toNat_lt, v.minor.toNat_lt, v.patch.toNat_lt, and_true]

theorem spells_iff {major minor patch : Nat} : Spells stamp major minor patch ↔
    ∃ v : Version, v.numbers = [major, minor, patch] ∧ parse stamp = .ok v := by
  constructor
  · intro spelled
    obtain ⟨-, -, -, -, -, -, -, first, second, third⟩ := id spelled
    have major_ : (UInt32.ofNat major).toNat = major := UInt32.toNat_ofNat_of_lt' first
    have minor_ : (UInt32.ofNat minor).toNat = minor := UInt32.toNat_ofNat_of_lt' second
    have patch_ : (UInt32.ofNat patch).toNat = patch := UInt32.toNat_ofNat_of_lt' third
    refine ⟨⟨.ofNat major, .ofNat minor, .ofNat patch⟩,
      by simp only [numbers, major_, minor_, patch_], ?_⟩
    rw [parse_eq_ok_iff_spells]
    simpa only [major_, minor_, patch_] using spelled
  · rintro ⟨v, numbers, parsed⟩
    cases numbers
    exact parse_eq_ok_iff_spells.1 parsed

theorem stamps_stamp (v : Version) : Stamps v.stamp v := by
  refine ⟨[], ['v'], _, _, _, [], ?_, nofun, .inr rfl, isNumeral_toString _, isNumeral_toString _,
    isNumeral_toString _, .inl nofun⟩
  simp [stamp, text]

theorem parse_stamp (v : Version) : parse v.stamp = .ok v := parse_eq_ok_iff.2 (stamps_stamp v)

theorem stamp_inj : v.stamp = w.stamp ↔ v = w := by
  refine ⟨fun same => ?_, fun same => same ▸ rfl⟩
  have parsed := parse_stamp v
  rw [same, parse_stamp w] at parsed
  exact (Except.ok.inj parsed).symm

/-! ## Order -/

theorem numbers_inj : v.numbers = w.numbers ↔ v = w := by
  refine ⟨fun same => ?_, fun same => same ▸ rfl⟩
  cases v
  cases w
  simpa [numbers, UInt32.toNat_inj] using same

theorem compare_eq_lt_iff : v.compare w = .lt ↔ v.numbers < w.numbers := by
  rw [← isBefore_iff, isBefore, beq_iff_eq]

theorem compare_eq_eq_iff : v.compare w = .eq ↔ v = w := by
  simp [compare, Ordering.then_eq_eq, ← numbers_inj, numbers]

theorem compare_eq_gt_iff : v.compare w = .gt ↔ w.numbers < v.numbers := by
  simp only [compare, numbers, List.cons_lt_cons_iff, Ordering.then_eq_gt, Nat.compare_eq_gt,
    Nat.compare_eq_eq, lt_self_iff_false, and_false, or_false]
  omega

/-- Which texts are versions. What a stamp spells is read off it, and a stamp that spells nothing is
told to be no version. The stamp of a version spells that version and no other. Versions compare as
the lists of their numbers, the major number first. -/
theorem parse_outcome :
    (∀ (stamp : String) v, parse stamp = .ok v ↔
      ∃ major minor patch, Spells stamp major minor patch ∧ v.numbers = [major, minor, patch]) ∧
    (∀ (stamp : String) e, parse stamp = .error e ↔
      (¬ ∃ major minor patch, Spells stamp major minor patch) ∧ e = .invalidVersion stamp) ∧
    (∀ v : Version, parse v.stamp = .ok v) ∧
    (∀ v w : Version, v.stamp = w.stamp ↔ v = w) ∧
    ∀ v w : Version, (v.compare w = .lt ↔ v.numbers < w.numbers) ∧ (v.compare w = .eq ↔ v = w) ∧
      (v.compare w = .gt ↔ w.numbers < v.numbers) := by
  refine ⟨fun stamp v => ?_, fun stamp e => ?_, parse_stamp, fun v w => stamp_inj, fun v w =>
    ⟨compare_eq_lt_iff, compare_eq_eq_iff, compare_eq_gt_iff⟩⟩
  · constructor
    · intro parsed
      exact ⟨_, _, _, parse_eq_ok_iff_spells.1 parsed, rfl⟩
    · rintro ⟨major, minor, patch, spelled, numbers⟩
      cases numbers
      exact parse_eq_ok_iff_spells.2 spelled
  · have nothing : (∀ v, ¬ Stamps stamp v) ↔
        ¬ ∃ major minor patch, Spells stamp major minor patch := by
      rw [← not_exists, not_iff_not]
      constructor
      · rintro ⟨v, stamps⟩
        exact ⟨_, _, _, parse_eq_ok_iff_spells.1 (parse_eq_ok_iff.2 stamps)⟩
      · rintro ⟨major, minor, patch, spelled⟩
        obtain ⟨v, -, parsed⟩ := spells_iff.1 spelled
        exact ⟨v, parse_eq_ok_iff.1 parsed⟩
    rw [parse_eq_error_iff, nothing]

end Version
end NodeSettings
