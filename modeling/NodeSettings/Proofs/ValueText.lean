import NodeSettings.Proofs.NumberText

/-!
Texts of values. `parse?_text`: the text that a value is persisted as, read as a value of its kind,
gives the value back, unless the value is a number without end. Such a number is never read:
`isFinite_of_parse?`.
-/

namespace NodeSettings

namespace Text

/-- A text without blanks is its own trimming. -/
theorem trim_of_forall {s : String} (h : ∀ c ∈ s.toList, isBlank c = false) : trim s = s :=
  trim_of_tight (fun c hc => h c (List.mem_of_mem_head? hc))
    fun c hc => h c (List.mem_of_mem_getLast? hc)

theorem toList_toString (n : Nat) : (toString n).toList = Nat.toDigits 10 n := by
  rw [Nat.toString_eq_repr, Nat.toList_repr]

theorem isDigit_of_mem_toString {n : Nat} {c : Char} (h : c ∈ (toString n).toList) :
    c.isDigit = true := by
  rw [toList_toString] at h
  exact Nat.isDigit_of_mem_toDigits (by decide) (by decide) h

theorem trim_toString (n : Nat) : trim (toString n) = toString n :=
  trim_of_forall fun _ hc => isBlank_of_isDigit (isDigit_of_mem_toString hc)

theorem readNat?_toString (n : Nat) : readNat? (toString n).toList = some n := by
  rw [toList_toString]
  unfold readNat?
  split
  · next rest same =>
    have : '+' ∈ Nat.toDigits 10 n := same ▸ List.mem_cons_self
    exact absurd (Nat.isDigit_of_mem_toDigits (by decide) (by decide) this) (by decide)
  · exact natOfDigits?_of_toDigits n

/-- The text of an integer is that of its magnitude, behind a sign if it has one. -/
theorem toList_toString_int (i : Int) :
    (toString i).toList =
      (if 0 ≤ i then [] else ['-']) ++ (toString i.natAbs).toList := by
  rw [Int.toString_eq_repr, Int.repr_eq_if]
  by_cases h : 0 ≤ i
  · rw [if_pos h, if_pos h, show i.toNat = i.natAbs by omega]
    rfl
  · rw [if_neg h, if_neg h, show (-i).toNat = i.natAbs by omega, String.toList_append]
    rfl

theorem trim_toString_int (i : Int) : trim (toString i) = toString i := by
  refine trim_of_forall fun c hc => ?_
  rw [toList_toString_int] at hc
  rcases List.mem_append.1 hc with hc | hc
  · split at hc
    · cases hc
    · rw [List.mem_singleton.1 hc]
      decide
  · exact isBlank_of_isDigit (isDigit_of_mem_toString hc)

theorem readInt?_toString (i : Int) : readInt? (toString i).toList = some i := by
  rw [toList_toString_int]
  by_cases h : 0 ≤ i
  · rw [if_pos h, List.nil_append]
    unfold readInt?
    split
    · next rest same =>
      have : '-' ∈ (toString i.natAbs).toList := same ▸ List.mem_cons_self
      exact absurd (isDigit_of_mem_toString this) (by decide)
    · rw [readNat?_toString]
      exact congrArg some (show (i.natAbs : Int) = i by omega)
  · rw [if_neg h, List.singleton_append, toList_toString]
    simp only [readInt?, natOfDigits?_of_toDigits]
    exact congrArg some (show -(i.natAbs : Int) = i by omega)

end Text

namespace Value

open Text

/-- A value that is no number, or a number that is finite. -/
def IsFinite (v : Value) : Prop := ∀ x, v = .float x → x.isFinite = true

theorem isFinite_of_kind {v : Value} (other : v.kind ≠ .float) : v.IsFinite := by
  rintro x rfl
  exact absurd rfl other

instance (v : Value) : Decidable v.IsFinite :=
  if float : v.kind = .float then
    match v with
    | .float x => decidable_of_iff (x.isFinite = true)
        ⟨fun finite _ same => Value.float.inj same ▸ finite, fun finite => finite x rfl⟩
  else .isTrue (isFinite_of_kind float)

theorem trim_text_float {x : Binary64} (finite : x.isFinite = true) :
    trim (x.text numberLayout) = x.text numberLayout := by
  cases x with
  | nan | infinite _ => cases finite
  | finite negative rank =>
    refine trim_of_forall fun c hc => ?_
    rw [Binary64.text, String.toList_ofList] at hc
    rcases List.mem_append.1 hc with hc | hc
    · split at hc
      · rw [List.mem_singleton.1 hc]
        decide
      · cases hc
    · rcases Binary64.mem_magnitudeText hc with digit | rfl
      · exact isBlank_of_isDigit digit
      · decide

theorem parseBelow?_toString {n bound : Nat} (below : n < bound) :
    parseBelow? bound (toString n) = some n := by
  rw [parseBelow?, readNat?_toString, Option.filter_some, if_pos (decide_eq_true below)]

/-- A value is read back from its text. -/
theorem parse?_text {v : Value} (finite : v.IsFinite) : parse? v.kind v.text = some v := by
  cases v with
  | bool b => cases b <;> decide
  | int i =>
    have fits : -2 ^ 63 ≤ i.toInt ∧ i.toInt < 2 ^ 63 := ⟨i.le_toInt, i.toInt_lt⟩
    simp only [kind, text, parse?, trim_toString_int, readInt?_toString, if_pos fits,
      Int64.ofInt_toInt]
  | uint n =>
    have fits : n.toNat < 2 ^ 64 := n.toNat_lt
    simp only [kind, text, parse?, trim_toString, parseBelow?_toString fits, Option.map_some,
      UInt64.ofNat_toNat]
  | uint16 n =>
    have fits : n.toNat < 2 ^ 16 := n.toNat_lt
    simp only [kind, text, parse?, trim_toString, parseBelow?_toString fits, Option.map_some,
      UInt16.ofNat_toNat]
  | float x =>
    simp only [kind, text, parse?, trim_text_float (finite x rfl),
      Binary64.read?_text (finite x rfl), Option.map_some]
  | string s | choice s => rfl

theorem kind_of_parse? {kind : Kind} {raw : String} {v : Value}
    (parsed : parse? kind raw = some v) : v.kind = kind := by
  cases kind with
  | bool | uint | uint16 | float =>
    obtain ⟨_, -, rfl⟩ := Option.map_eq_some_iff.1 parsed
    rfl
  | int =>
    simp only [parse?] at parsed
    split at parsed
    · split at parsed
      · cases parsed
        rfl
      · cases parsed
    · cases parsed
  | string | choice =>
    cases parsed
    rfl

theorem isFinite_of_parse? {kind : Kind} {raw : String} {v : Value}
    (parsed : parse? kind raw = some v) : v.IsFinite := by
  by_cases float : kind = .float
  · subst float
    obtain ⟨x, read, rfl⟩ := Option.map_eq_some_iff.1 parsed
    unfold Binary64.read? at read
    cases decimal : Decimal.read? (Text.trim raw).toList with
    | none =>
      rw [decimal] at read
      cases read
    | some d =>
      rw [decimal] at read
      by_cases finite : d.toBinary64.isFinite = true
      · simp only [if_pos finite] at read
        rintro _ ⟨⟩
        exact Option.some.inj read ▸ finite
      · simp only [if_neg finite] at read
        cases read
  · exact isFinite_of_kind (kind_of_parse? parsed ▸ float)

end Value
end NodeSettings
