import NodeSettings.Proofs.Numerals
import NodeSettings.Version

/-!
Stamps and the order of versions. `Version.Stamps` says how a stamp is written, and
`Version.ofStamp?_eq_some_iff` that what is written so, and nothing else, is read. Versions are
ordered as the lists of their numbers: `Version.isBefore_iff`.
-/

namespace NodeSettings

namespace Version

open Text

variable {stamp : String} {v w : Version}

/-! ## Order -/

/-- The numbers of a version, the most significant first. -/
def numbers (v : Version) : List Nat := [v.major.toNat, v.minor.toNat, v.patch.toNat]

/-- Versions are ordered as the lists of their numbers. -/
theorem isBefore_iff : v.isBefore w = true ↔ v.numbers < w.numbers := by
  simp [isBefore, compare, numbers, List.cons_lt_cons_iff, Ordering.then_eq_lt, Nat.compare_eq_lt]

/-! ## Stamps -/

/-- What may stand behind the numbers of a stamp: blanks, or a `-` and anything. -/
def IsTail (cs : List Char) : Prop := (∀ c ∈ cs, isBlank c = true) ∨ ∃ name, cs = '-' :: name

/-- How a version is written in a stamp: three numbers with points between them, behind blanks and a
`v` or not, and in front of blanks or the name of a pre-release. -/
def Stamps (stamp : String) (v : Version) : Prop :=
  ∃ before lead major minor patch tail,
    stamp.toList = before ++ (lead ++ (major ++ '.' :: (minor ++ '.' :: patch)) ++ tail) ∧
    (∀ c ∈ before, isBlank c = true) ∧ (lead = [] ∨ lead = ['v']) ∧
    IsNumeral major v.major.toNat ∧ IsNumeral minor v.minor.toNat ∧
    IsNumeral patch v.patch.toNat ∧ IsTail tail

theorem number?_eq_some_iff {field : List Char} {n : UInt32} :
    number? field = some n ↔ IsNumeral field n.toNat := by
  unfold number?
  rw [← readNat?_eq_some_iff]
  cases read : readNat? field with
  | none => simp
  | some m =>
    by_cases small : m < 2 ^ 32
    · have toNat : (UInt32.ofNat m).toNat = m := UInt32.toNat_ofNat_of_lt' small
      simp only [if_pos small, Option.some.injEq, ← UInt32.toNat_inj, toNat]
    · have other : m ≠ n.toNat := fun same => small (same ▸ n.toNat_lt)
      simp only [if_neg small, Option.some.injEq, other, reduceCtorEq]

/-- The numbers between points. -/
theorem numbers?_eq_some_iff {core : List Char} {a b c : UInt32} :
    (fields '.' core).map number? = [some a, some b, some c] ↔ ∃ major minor patch,
      core = major ++ '.' :: (minor ++ '.' :: patch) ∧ IsNumeral major a.toNat ∧
      IsNumeral minor b.toNat ∧ IsNumeral patch c.toNat := by
  constructor
  · intro h
    obtain ⟨major, _, split, ha, h⟩ := List.map_eq_cons_iff.1 h
    obtain ⟨minor, _, rfl, hb, h⟩ := List.map_eq_cons_iff.1 h
    obtain ⟨patch, _, rfl, hc, h⟩ := List.map_eq_cons_iff.1 h
    cases List.map_eq_nil_iff.1 h
    obtain ⟨none, -⟩ | ⟨behind, rfl, later⟩ := eq_append_of_fields split
    · cases none
    obtain ⟨none, -⟩ | ⟨last, rfl, latest⟩ := eq_append_of_fields later
    · cases none
    obtain ⟨-, rfl⟩ | ⟨further, -, none⟩ := eq_append_of_fields latest
    · exact ⟨major, minor, last, rfl, number?_eq_some_iff.1 ha, number?_eq_some_iff.1 hb,
        number?_eq_some_iff.1 hc⟩
    · exact absurd none (fields_ne_nil '.' further)
  · rintro ⟨major, minor, patch, rfl, ha, hb, hc⟩
    have free {field : List Char} {n : Nat} (h : IsNumeral field n) : '.' ∉ field :=
      fun among => (h.of_mem among).2.1 rfl
    rw [fields_append (free ha), fields_append (free hb), fields_of_not_mem (free hc),
      List.map_cons, List.map_cons, List.map_singleton, number?_eq_some_iff.2 ha,
      number?_eq_some_iff.2 hb, number?_eq_some_iff.2 hc]

/-- Between and around the numbers of a stamp stands nothing that is left out of it. -/
theorem shown_of_mem {major minor patch : List Char} {a b n : Nat} (ha : IsNumeral major a)
    (hb : IsNumeral minor b) (hn : IsNumeral patch n) {c : Char}
    (among : c ∈ major ++ '.' :: (minor ++ '.' :: patch)) :
    isBlank c = false ∧ c ≠ '-' ∧ c ≠ 'v' := by
  have numeral {cs : List Char} {n : Nat} (h : IsNumeral cs n) (among : c ∈ cs) :
      isBlank c = false ∧ c ≠ '-' ∧ c ≠ 'v' := by
    obtain ⟨shown, -, noDash, noLead⟩ := h.of_mem among
    exact ⟨shown, noDash, noLead⟩
  simp only [List.mem_append, List.mem_cons] at among
  rcases among with among | rfl | among | rfl | among
  · exact numeral ha among
  · decide
  · exact numeral hb among
  · decide
  · exact numeral hn among

/-- A stamp without the blanks around it and its leading `v`. -/
def bare (stamp : String) : List Char :=
  match trimChars stamp.toList with
  | 'v' :: rest => rest
  | cs => cs

theorem ofStamp?_eq_some_iff_fields : ofStamp? stamp = some v ↔
    (fields '.' ((bare stamp).takeWhile (· != '-'))).map number? =
      [some v.major, some v.minor, some v.patch] := by
  unfold ofStamp?
  constructor
  · intro h
    dsimp only at h
    split at h
    · next same =>
      cases h
      exact same
    · cases h
  · intro h
    dsimp only
    split
    · next same =>
      cases same.symm.trans h
      rfl
    · next other => exact absurd h (other _ _ _)

theorem exists_lead (stamp : String) : ∃ lead, (lead = [] ∨ lead = ['v']) ∧
    trimChars stamp.toList = lead ++ bare stamp := by
  unfold bare
  split
  · next rest trimmed => exact ⟨['v'], .inr rfl, trimmed⟩
  · exact ⟨[], .inl rfl, rfl⟩

theorem bare_eq {lead cs : List Char} (led : lead = [] ∨ lead = ['v'])
    (trimmed : trimChars stamp.toList = lead ++ cs) (other : cs.head? ≠ some 'v') :
    bare stamp = cs := by
  unfold bare
  rw [trimmed]
  rcases led with rfl | rfl
  · split
    · next rest same =>
      rw [List.nil_append] at same
      exact absurd (congrArg List.head? same) other
    · rfl
  · rfl

/-- What trimming leaves of a tail begins with the `-` if there is one. -/
theorem IsTail.trimEnd {tail : List Char} (h : IsTail tail) :
    (trimStart tail.reverse).reverse = [] ∨
      ∃ name, (trimStart tail.reverse).reverse = '-' :: name := by
  rcases h with blanks | ⟨name, rfl⟩
  · have all : ∀ c ∈ tail.reverse, isBlank c = true := fun c hc => blanks c (List.mem_reverse.1 hc)
    have none := trimStart_append all []
    rw [List.append_nil] at none
    exact .inl (by rw [none, trimStart, List.dropWhile_nil, List.reverse_nil])
  · exact .inr ⟨_, trimEnd_append [] (by decide) name⟩

/-- What is dropped from the first `-` on, and the blanks behind it, are a tail. -/
theorem isTail_append (cs : List Char) {blanks : List Char}
    (all : ∀ c ∈ blanks, isBlank c = true) : IsTail (cs.dropWhile (· != '-') ++ blanks) := by
  cases dropped : cs.dropWhile (· != '-') with
  | nil => exact .inl all
  | cons c name =>
    have stops := List.head?_dropWhile_not (· != '-') cs
    rw [dropped] at stops
    have mark : c = '-' := by simpa using stops
    exact .inr ⟨name ++ blanks, by rw [mark, List.cons_append]⟩

/-- What is written as a stamp of a version, and nothing else, is read as that version. -/
theorem ofStamp?_eq_some_iff : ofStamp? stamp = some v ↔ Stamps stamp v := by
  rw [ofStamp?_eq_some_iff_fields, numbers?_eq_some_iff]
  constructor
  · rintro ⟨major, minor, patch, core, ha, hb, hc⟩
    obtain ⟨before, blanks, around, allBefore, allBehind⟩ := exists_append_trimChars stamp.toList
    obtain ⟨lead, led, eqLead⟩ := exists_lead stamp
    have parts : bare stamp =
        (major ++ '.' :: (minor ++ '.' :: patch)) ++ (bare stamp).dropWhile (· != '-') := by
      rw [← core, List.takeWhile_append_dropWhile]
    refine ⟨before, lead, major, minor, patch, (bare stamp).dropWhile (· != '-') ++ blanks, ?_,
      allBefore, led, ha, hb, hc, isTail_append (bare stamp) allBehind⟩
    rw [around, eqLead.trans (congrArg (lead ++ ·) parts)]
    simp only [List.append_assoc]
  · rintro ⟨before, lead, major, minor, patch, tail, whole, blanks, led, ha, hb, hc, behind⟩
    refine ⟨major, minor, patch, ?_, ha, hb, hc⟩
    obtain ⟨core, eqCore⟩ : ∃ core, core = major ++ '.' :: (minor ++ '.' :: patch) := ⟨_, rfl⟩
    have marks {c : Char} (among : c ∈ core) : isBlank c = false ∧ c ≠ '-' ∧ c ≠ 'v' :=
      shown_of_mem ha hb hc (eqCore ▸ among)
    obtain ⟨rest, eqRest⟩ : ∃ rest, rest = (trimStart tail.reverse).reverse := ⟨_, rfl⟩
    obtain ⟨first, others, eqFirst⟩ : ∃ first others, core = first :: others := by
      rw [eqCore]
      exact List.exists_cons_of_ne_nil (by simp)
    have trimmed : trimChars stamp.toList = lead ++ (core ++ rest) := by
      rw [whole, ← eqCore, trimChars_append blanks (by simp [eqFirst]), ← eqRest, List.append_assoc]
      intro c among
      rcases List.mem_append.1 among with among | among
      · rcases led with rfl | rfl
        · cases among
        · cases List.mem_singleton.1 among
          decide
      · exact (marks among).1
    have other : (core ++ rest).head? ≠ some 'v' := by
      rw [eqFirst, List.cons_append, List.head?_cons]
      exact fun same => (marks (eqFirst ▸ List.mem_cons_self)).2.2 (Option.some.inj same)
    rw [bare_eq led trimmed other, ← eqCore,
      List.takeWhile_append_of_pos fun c among => by simp [(marks among).2.1]]
    rcases behind.trimEnd with none | ⟨name, some_⟩
    · rw [eqRest, none, List.takeWhile_nil, List.append_nil]
    · rw [eqRest, some_, List.takeWhile_cons_of_neg (by simp), List.append_nil]

theorem parse_eq_error_iff {e : SettingError} :
    parse stamp = .error e ↔ (∀ v, ¬ Stamps stamp v) ∧ e = .invalidVersion stamp := by
  unfold parse
  cases read : ofStamp? stamp with
  | none =>
    have malformed : ∀ v, ¬ Stamps stamp v := by
      intro v stamps
      rw [ofStamp?_eq_some_iff.2 stamps] at read
      cases read
    simp [malformed, eq_comm]
  | some v =>
    have stamps : Stamps stamp v := ofStamp?_eq_some_iff.1 read
    simp only [reduceCtorEq, false_iff]
    rintro ⟨malformed, -⟩
    exact malformed v stamps

theorem parse_eq_ok_iff : parse stamp = .ok v ↔ Stamps stamp v := by
  rw [← ofStamp?_eq_some_iff]
  unfold parse
  cases ofStamp? stamp <;> simp

end Version

end NodeSettings
