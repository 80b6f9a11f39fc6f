import Mathlib.Logic.Basic
import NodeSettings.Parameter

/-!
What a parameter may hold. `Declaration.Allows` states the rules of a declaration one by one, and
`check_eq_ok_iff` says that the check accepts exactly the allowed values. Each way to give a
parameter a value is described once: it keeps the declaration, and the value it leaves is allowed.
-/

namespace NodeSettings

theorem bind_eq_ok_iff {ε α β : Type} {x : Except ε α} {f : α → Except ε β} {b : β} :
    x >>= f = .ok b ↔ ∃ a, x = .ok a ∧ f a = .ok b := by
  cases x with
  | error e => simp [bind, Except.bind]
  | ok a => simp [bind, Except.bind]

theorem bind_eq_error_iff {ε α β : Type} {x : Except ε α} {f : α → Except ε β} {e : ε} :
    x >>= f = .error e ↔ x = .error e ∨ ∃ a, x = .ok a ∧ f a = .error e := by
  cases x with
  | error e' => simp [bind, Except.bind]
  | ok a => simp [bind, Except.bind]

/-- A check followed by more succeeds if both do. -/
theorem check_bind_eq_ok_iff {ε β : Type} {x : Except ε Unit} {y : Except ε β} {b : β} :
    (x >>= fun _ => y) = .ok b ↔ x = .ok () ∧ y = .ok b := by
  rw [bind_eq_ok_iff]
  exact ⟨fun ⟨_, hx, hy⟩ => ⟨hx, hy⟩, fun ⟨hx, hy⟩ => ⟨(), hx, hy⟩⟩

theorem mapError_ok {ε δ α : Type} (f : ε → δ) (a : α) :
    (Except.ok a : Except ε α).mapError f = .ok a :=
  rfl

theorem mapError_eq_ok_iff {ε δ α : Type} {x : Except ε α} {f : ε → δ} {a : α} :
    x.mapError f = .ok a ↔ x = .ok a := by
  cases x with
  | error e => exact ⟨nofun, nofun⟩
  | ok b =>
    show Except.ok b = .ok a ↔ _
    simp

theorem mapError_eq_error_iff {ε δ α : Type} {x : Except ε α} {f : ε → δ} {d : δ} :
    x.mapError f = .error d ↔ ∃ e, x = .error e ∧ f e = d := by
  cases x with
  | error e =>
    show Except.error (f e) = .error d ↔ _
    simp
  | ok a => exact ⟨nofun, nofun⟩

theorem eq_ok_of_toOption {ε α : Type} {x : Except ε α} {a : α} (h : x.toOption = some a) :
    x = .ok a := by
  cases x with
  | error e => cases h
  | ok b => exact congrArg Except.ok (Option.some.inj h)

theorem ite_subset {α : Type} {b : Bool} {l : List α} : (if b then l else []) ⊆ l := by
  cases b with
  | true => exact List.Subset.refl l
  | false => exact List.nil_subset l

/-! ## Rules of a declaration -/

theorem Value.agrees_choice {v : Value} {s : String} :
    v.agrees (.choice s) = true ↔ v = .choice s := by
  cases v <;> simp [Value.agrees]

namespace Declaration

/-- The rules that a declaration puts on a value. -/
structure Allows (d : Declaration) (v : Value) : Prop where
  kind : v.kind = d.kind
  choice : d.kind = .choice → ∃ c ∈ d.choices, c.value = v
  length : ∀ s, v = .string s → ∀ limit ∈ d.maxLength, s.length ≤ limit
  pattern : ∀ s, v = .string s → s ≠ "" → ∀ source ∈ d.pattern,
    ∃ p, Pattern.parse? source = some p ∧ p.occursIn s = true
  range : ∀ r ∈ d.range, ∀ x ∈ v.asNumber?,
    (∀ least ∈ r.least, least.le x = true) ∧ ∀ most ∈ r.most, x.le most = true

variable {d e : Declaration} {v : Value} {s : String}

theorem checkChoice_eq_ok_iff :
    d.checkChoice (.choice s) = .ok () ↔ ∃ c ∈ d.choices, c.value = .choice s := by
  simp [checkChoice, Value.agrees_choice]

theorem checkLength_eq_ok_iff :
    d.checkLength s = .ok () ↔ ∀ limit ∈ d.maxLength, s.length ≤ limit := by
  unfold checkLength
  cases d.maxLength with
  | none => simp
  | some limit =>
    by_cases h : limit < s.length
    · simp [h]
    · simp [h, Nat.not_lt.1 h]

theorem checkPattern_eq_ok_iff :
    d.checkPattern s = .ok () ↔ s ≠ "" → ∀ source ∈ d.pattern,
      ∃ p, Pattern.parse? source = some p ∧ p.occursIn s = true := by
  unfold checkPattern
  cases d.pattern with
  | none => simp
  | some source =>
    by_cases blank : s = ""
    · simp [blank]
    · cases parsed : Pattern.parse? source with
      | none => simp [blank, parsed]
      | some p => by_cases h : p.occursIn s = true <;> simp [blank, parsed, h]

theorem checkRange_eq_ok_iff :
    d.checkRange v = .ok () ↔ ∀ r ∈ d.range, ∀ x ∈ v.asNumber?,
      (∀ least ∈ r.least, least.le x = true) ∧ ∀ most ∈ r.most, x.le most = true := by
  unfold checkRange
  cases d.range with
  | none => simp
  | some r =>
    cases v.asNumber? with
    | none => simp
    | some x => simp [Range.contains, Option.all_eq_true]

/-- The check accepts exactly the values that the declaration allows. -/
theorem check_eq_ok_iff : d.check v = .ok () ↔ d.Allows v := by
  unfold check
  by_cases kind : v.kind = d.kind
  · rw [if_neg (not_not.2 kind)]
    cases v with
    | choice s =>
      simp only [check_bind_eq_ok_iff, checkChoice_eq_ok_iff, checkRange_eq_ok_iff]
      constructor
      · rintro ⟨offered, range⟩
        exact ⟨kind, fun _ => offered, nofun, nofun, range⟩
      · intro h
        exact ⟨h.choice kind.symm, h.range⟩
    | string s =>
      simp only [check_bind_eq_ok_iff, checkLength_eq_ok_iff, checkPattern_eq_ok_iff,
        checkRange_eq_ok_iff]
      constructor
      · rintro ⟨length, pattern, range⟩
        refine ⟨kind, fun k => ?_, ?_, ?_, range⟩
        · exact absurd (kind.trans k) nofun
        · rintro _ ⟨⟩
          exact length
        · rintro _ ⟨⟩
          exact pattern
      · intro h
        exact ⟨h.length s rfl, h.pattern s rfl, h.range⟩
    | bool _ | int _ | uint _ | uint16 _ | float _ =>
      simp only [checkRange_eq_ok_iff]
      constructor
      · intro range
        exact ⟨kind, fun k => absurd (kind.trans k) nofun, nofun, nofun, range⟩
      · exact Allows.range
  · simp only [ne_eq, kind, not_false_eq_true, if_true, reduceCtorEq, false_iff]
    exact fun h => kind h.kind

end Declaration

/-! ## Ways to a value -/

namespace Declaration

/-- The value that a stored text stands for; where none is stored, the default for a network. -/
def denoted? (d : Declaration) (stored : Option String) (network : Network) : Option Value :=
  match stored with
  | some raw => Value.parse? d.kind raw
  | none => d.defaults.resolve? network

/-- A declaration without the parts that may be written directly. -/
def bare (d : Declaration) : Declaration := { d with defaults := {}, choices := [] }

/-- Rules do not depend on the defaults, and more choices allow more values. -/
theorem Allows.mono {d e : Declaration} {v : Value} (h : d.Allows v) (same : e.bare = d.bare)
    (more : d.choices ⊆ e.choices) : e.Allows v := by
  cases d
  cases e
  cases same
  refine ⟨h.kind, fun k => ?_, h.length, h.pattern, h.range⟩
  obtain ⟨c, offered, is⟩ := h.choice k
  exact ⟨c, more offered, is⟩

end Declaration

namespace Parameter

variable {p q : Parameter} {v : Value} {raw : String} {network before : Network}
  {stored : Option String}

/-- A parameter is valid if its value obeys its own rules. -/
def IsValid (p : Parameter) : Prop := p.toDeclaration.Allows p.value

/-- `q` is `p` after it was given an allowed value. -/
def Takes (p q : Parameter) : Prop := ∃ v, p.toDeclaration.Allows v ∧ q = { p with value := v }

theorem Takes.isValid (h : p.Takes q) : q.IsValid := by
  obtain ⟨v, allowed, rfl⟩ := h
  exact allowed

theorem Takes.toDeclaration_eq (h : p.Takes q) : q.toDeclaration = p.toDeclaration := by
  obtain ⟨v, -, rfl⟩ := h
  rfl

theorem assign_eq_ok_iff :
    p.assign v = .ok q ↔ p.toDeclaration.Allows v ∧ q = { p with value := v } := by
  constructor
  · intro h
    obtain ⟨checked, rfl⟩ := assign_value h
    exact ⟨Declaration.check_eq_ok_iff.1 checked, rfl⟩
  · rintro ⟨allowed, rfl⟩
    simp [assign, Declaration.check_eq_ok_iff.2 allowed, bind, Except.bind, pure, Except.pure]

theorem assignText_eq_ok_iff :
    p.assignText raw = .ok q ↔ ∃ v, Value.parse? p.kind raw = some v ∧
      p.toDeclaration.Allows v ∧ q = { p with value := v } := by
  unfold assignText
  cases parsed : Value.parse? p.kind raw with
  | none => simp
  | some v => simp [assign_eq_ok_iff]

theorem reset_eq_ok_iff :
    p.reset network = .ok q ↔ ∃ v, p.defaults.resolve? network = some v ∧
      p.toDeclaration.Allows v ∧ q = { p with value := v } := by
  simp only [reset, bind_eq_ok_iff, assign_eq_ok_iff, Declaration.resolveDefault]
  cases p.defaults.resolve? network with
  | none => simp
  | some v => simp

theorem load_eq_ok_iff :
    p.load stored network = .ok q ↔ ∃ v, p.toDeclaration.denoted? stored network = some v ∧
      p.toDeclaration.Allows v ∧ q = { p with value := v } := by
  cases stored with
  | none => exact reset_eq_ok_iff
  | some raw => exact assignText_eq_ok_iff

theorem takes_of_assign (h : p.assign v = .ok q) : p.Takes q :=
  ⟨v, assign_eq_ok_iff.1 h⟩

theorem takes_of_assignText (h : p.assignText raw = .ok q) : p.Takes q := by
  obtain ⟨v, -, taken⟩ := assignText_eq_ok_iff.1 h
  exact ⟨v, taken⟩

theorem takes_of_reset (h : p.reset network = .ok q) : p.Takes q := by
  obtain ⟨v, -, taken⟩ := reset_eq_ok_iff.1 h
  exact ⟨v, taken⟩

theorem takes_of_load (h : p.load stored network = .ok q) : p.Takes q := by
  obtain ⟨v, -, taken⟩ := load_eq_ok_iff.1 h
  exact ⟨v, taken⟩

theorem eq_or_takes_of_follow (h : p.follow before network = .ok q) : q = p ∨ p.Takes q := by
  unfold follow at h
  split at h
  · exact .inl (Except.ok.inj h).symm
  · split at h
    · exact .inr (takes_of_reset h)
    · exact .inl (Except.ok.inj h).symm

end Parameter
end NodeSettings
