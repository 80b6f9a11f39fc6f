import Mathlib.Data.List.Basic
import Mathlib.Data.List.TakeWhile
import NodeSettings.Yaml.Scalar
import NodeSettings.Yaml.Style

/-!
Gaps in YAML texts. What can be written as it is has no gaps but spaces and the breaks that stand
for themselves; a run of either is scanned in one step: `Gap.scan?_spaces`, `Gap.scan?_breaks`. A
text is taken apart into its runs by `runs_induct`. On lines of their own the runs between breaks
are indented: `indentLines_breaks`.
-/

namespace NodeSettings.Yaml

/-! ## Runs -/

section Runs

variable {α : Type}

/-- A list starts with a run of elements that do not satisfy a test. -/
theorem exists_run (p : α → Bool) (l : List α) : ∃ run tail, l = run ++ tail ∧
    (∀ a ∈ run, p a = false) ∧ ∀ a ∈ tail.head?, p a = true := by
  refine ⟨l.takeWhile (!p ·), l.dropWhile (!p ·), List.takeWhile_append_dropWhile.symm,
    fun a ha => by simpa using List.all_eq_true.1 List.all_takeWhile a ha, fun a ha => ?_⟩
  have stops := List.head?_dropWhile_not (!p ·) l
  rw [Option.mem_def.1 ha] at stops
  simpa using stops

/-- A list is a run of elements that do not satisfy a test, or such a run, then a run of elements
that do, and a rest that starts with none of these. -/
theorem runs_induct (p : α → Bool) {P : List α → Prop}
    (last : ∀ w, (∀ a ∈ w, p a = false) → P w)
    (step : ∀ w g l, (∀ a ∈ w, p a = false) → g ≠ [] → (∀ a ∈ g, p a = true) →
      (∀ a ∈ l.head?, p a = false) → P l → P (w ++ (g ++ l))) (l : List α) : P l := by
  induction size : l.length using Nat.strong_induction_on generalizing l with
  | h n ih =>
    obtain ⟨w, tail, rfl, word, stops⟩ := exists_run p l
    obtain ⟨g, l, rfl, gap, starts⟩ := exists_run (!p ·) tail
    cases g with
    | nil =>
      -- Only at the end does nothing follow a run.
      cases l with
      | nil => simpa using last w word
      | cons a l => exact absurd (stops a rfl) (by simpa using starts a rfl)
    | cons a g =>
      refine step w (a :: g) l word (List.cons_ne_nil a g) (fun b hb => by simpa using gap b hb)
        (fun b hb => by simpa using starts b hb) (ih l.length ?_ l rfl)
      rw [← size]
      simp only [List.length_append, List.length_cons]
      omega

theorem takeWhile_run {p : α → Bool} {run : List α} (all : ∀ a ∈ run, p a = true)
    {tail : List α} (stops : ∀ a ∈ tail.head?, p a = false) :
    (run ++ tail).takeWhile p = run := by
  rw [List.takeWhile_append_of_pos all]
  cases tail with
  | nil => exact List.append_nil run
  | cons a tail =>
    rw [List.takeWhile_cons_of_neg (by simp [stops a rfl]), List.append_nil]

end Runs

/-! ## Characters -/

variable {b c : Char} {cs rest : List Char} {m : Mark} {count : Nat}

theorem isGap_of_isPrintable (printable : isPrintable c = true) (space : c ≠ ' ')
    (line : isBreak c = false) : isGap c = false := by
  have tab : c ≠ '\t' := by
    rintro rfl
    exact absurd printable (by decide)
  simp [isGap, isBlank, space, tab, line]

theorem isBlank_of_isBreak (line : isBreak b = true) : isBlank b = false := by
  rw [Bool.eq_false_iff]
  intro blank
  rcases (by simpa [isBlank] using blank : b = ' ' ∨ b = '\t') with rfl | rfl
  · exact absurd line (by decide)
  · exact absurd line (by decide)

theorem isBreak_of_not_isGap (solid : isGap c = false) : isBreak c = false :=
  (Bool.or_eq_false_iff.1 solid).2

theorem startsGap_append {gap : List Char} (some_ : gap ≠ []) (gaps : ∀ c ∈ gap, isGap c = true)
    (tail : List Char) : startsGap (gap ++ tail) = true := by
  obtain ⟨c, gap, rfl⟩ := List.exists_cons_of_ne_nil some_
  exact gaps c List.mem_cons_self

theorem isPermitted_of_isPrintable (printable : isPrintable c = true) : isPermitted c = true := by
  have valid : c.toNat < 0xD800 ∨ 0xDFFF < c.toNat ∧ c.toNat < 0x110000 := c.valid
  simp only [isPrintable, isPermitted, Bool.or_eq_true, Bool.and_eq_true, decide_eq_true_eq,
    beq_iff_eq, bne_iff_ne] at printable ⊢
  omega

/-- A break that can be written as it is counts as itself. -/
theorem breakLine_cons (line : isBreak b = true) (printable : isPrintable b = true)
    (rest : List Char) (m : Mark) :
    (Cursor.mk (b :: rest) m).breakLine = ([b], ⟨rest, m.newLine 1⟩) := by
  have carriage : b ≠ '\r' := by
    rintro rfl
    exact absurd printable (by decide)
  have next : b.toNat ≠ 0x85 := by
    intro same
    simp [isPrintable, same] at printable
  unfold Cursor.breakLine
  split
  · next same => exact absurd (List.cons.inj same).1 carriage
  · next same =>
    obtain ⟨rfl, rfl⟩ := List.cons.inj same
    rw [if_pos line]
    by_cases separator : b.toNat = 0x2028 ∨ b.toNat = 0x2029
    · simp [separator]
    · have feed : b = '\n' := by
        simpa [isBreak, carriage, next, not_or.1 separator] using line
      subst feed
      rfl
  · next same => simp at same

@[simp] theorem Mark.advance_advance (m : Mark) (i j : Nat) :
    (m.advance i).advance j = m.advance (i + j) := by
  simp [Mark.advance, Nat.add_assoc]

@[simp] theorem Mark.advance_zero (m : Mark) : m.advance 0 = m := rfl

theorem Cursor.skip_append (w rest : List Char) (m : Mark) :
    (Cursor.mk (w ++ rest) m).skip w.length = ⟨rest, m.advance w.length⟩ := by
  simp [Cursor.skip]

theorem atDocumentMark_of_column (inner : 0 < m.column) :
    (Cursor.mk cs m).atDocumentMark = false := by
  have column : (m.column == 0) = false := by simpa using Nat.ne_of_gt inner
  simp [Cursor.atDocumentMark, column]

/-! ## Runs of spaces and of breaks -/

namespace Gap

variable {g : Gap} {noTab : Nat → Bool}

/-- A gap ends where none of its characters is. -/
theorem scan?_stop (solid : ∀ c ∈ rest.head?, isGap c = false) :
    scan? noTab g ⟨rest, m⟩ = some (g, ⟨rest, m⟩) := by
  rw [scan?]
  cases rest with
  | nil => rfl
  | cons c rest =>
    have none := solid c rfl
    simp only [isGap, Bool.or_eq_false_iff] at none
    simp [none]

theorem scan?_space : scan? noTab g ⟨' ' :: rest, m⟩ =
    scan? noTab (if g.hasBreak then g else { g with blanks := g.blanks ++ [' '] })
      ⟨rest, m.advance 1⟩ := by
  rw [scan?]
  cases g.hasBreak <;> simp [isBlank]

theorem scan?_break (line : isBreak b = true) (printable : isPrintable b = true) :
    scan? noTab g ⟨b :: rest, m⟩ =
      scan? noTab (if g.hasBreak then { g with moreBreaks := g.moreBreaks ++ [b] }
        else { g with hasBreak := true, firstBreak := [b], blanks := [] })
        ⟨rest, m.newLine 1⟩ := by
  rw [scan?]
  cases g.hasBreak <;> simp [isBlank_of_isBreak line, line, breakLine_cons line printable]

/-- Spaces count before a break. -/
theorem scan?_spaces (before : g.hasBreak = false) (count : Nat) (m : Mark) :
    scan? noTab g ⟨List.replicate count ' ' ++ rest, m⟩ =
      scan? noTab { g with blanks := g.blanks ++ List.replicate count ' ' }
        ⟨rest, m.advance count⟩ := by
  induction count generalizing g m with
  | zero => simp
  | succ count ih =>
    rw [List.replicate_succ, List.cons_append, scan?_space, if_neg (by simp [before]),
      ih (g := { g with blanks := g.blanks ++ [' '] }) before]
    simp [Nat.add_comm]

/-- They do not count behind one. -/
theorem scan?_spaces_behind (behind : g.hasBreak = true) (count : Nat) (m : Mark) :
    scan? noTab g ⟨List.replicate count ' ' ++ rest, m⟩ =
      scan? noTab g ⟨rest, m.advance count⟩ := by
  induction count generalizing m with
  | zero => rfl
  | succ count ih =>
    rw [List.replicate_succ, List.cons_append, scan?_space, if_pos behind, ih]
    simp [Nat.add_comm]

/-- A gap of spaces on a line is the spaces. -/
theorem scan?_blank {spaces : List Char} (blank : spaces = List.replicate spaces.length ' ')
    (solid : ∀ c ∈ rest.head?, isGap c = false) (m : Mark) :
    scan? noTab {} ⟨spaces ++ rest, m⟩ =
      some ({ blanks := spaces }, ⟨rest, m.advance spaces.length⟩) := by
  rw [blank, scan?_spaces rfl, scan?_stop solid]
  simp

theorem scan?_breaks_behind (noTab : Nat → Bool) (rest : List Char) {breaks : List Char}
    (lines : ∀ b ∈ breaks, isBreak b = true) (printable : ∀ b ∈ breaks, isPrintable b = true)
    (behind : g.hasBreak = true) (m : Mark) :
    ∃ m', scan? noTab g ⟨breaks ++ rest, m⟩ =
      scan? noTab { g with moreBreaks := g.moreBreaks ++ breaks } ⟨rest, m'⟩ ∧
        m.line ≤ m'.line := by
  induction breaks generalizing g m with
  | nil => exact ⟨m, by simp, Nat.le_refl _⟩
  | cons b breaks ih =>
    obtain ⟨line, lines⟩ := List.forall_mem_cons.1 lines
    obtain ⟨shown, printable⟩ := List.forall_mem_cons.1 printable
    obtain ⟨m', scanned, le⟩ := ih lines printable (g := { g with
      moreBreaks := g.moreBreaks ++ [b] }) behind (m.newLine 1)
    refine ⟨m', ?_, Nat.le_of_succ_le le⟩
    rw [List.cons_append, scan?_break line shown, if_pos behind, scanned]
    simp

/-- A run of breaks, the first of which is no line feed, counts as it is. -/
theorem scan?_breaks (noTab : Nat → Bool) (rest : List Char) {breaks : List Char}
    (some_ : breaks ≠ []) (lines : ∀ b ∈ breaks, isBreak b = true)
    (printable : ∀ b ∈ breaks, isPrintable b = true) (separators : '\n' ∉ breaks) (m : Mark) :
    ∃ (g : Gap) (m' : Mark), scan? noTab {} ⟨breaks ++ rest, m⟩ = scan? noTab g ⟨rest, m'⟩ ∧
      g.hasBreak = true ∧ g.folded = breaks ∧ m.line < m'.line := by
  obtain ⟨b, breaks, rfl⟩ := List.exists_cons_of_ne_nil some_
  obtain ⟨line, lines⟩ := List.forall_mem_cons.1 lines
  obtain ⟨shown, printable⟩ := List.forall_mem_cons.1 printable
  have feed : [b] ≠ ['\n'] := by
    rintro ⟨⟩
    exact separators List.mem_cons_self
  obtain ⟨m', scanned, le⟩ := scan?_breaks_behind noTab rest lines printable
    (g := { hasBreak := true, firstBreak := [b] }) rfl (m.newLine 1)
  refine ⟨{ hasBreak := true, firstBreak := [b], moreBreaks := breaks }, m', ?_, rfl,
    by simp [folded, feed], le⟩
  rw [List.cons_append, scan?_break line shown]
  exact scanned

end Gap

/-! ## Indented lines -/

variable {spaces w l : List Char} {afterBreak : Bool}

theorem indentLines_line (onLine : ∀ c ∈ w, isBreak c = false) :
    indentLines spaces false (w ++ l) = w ++ indentLines spaces false l := by
  induction w with
  | nil => rfl
  | cons c w ih =>
    obtain ⟨first, onLine⟩ := List.forall_mem_cons.1 onLine
    rw [List.cons_append, indentLines, first, ih onLine]
    rfl

theorem indentLines_onLine (onLine : ∀ c ∈ w, isBreak c = false) :
    indentLines spaces false w = w := by
  have whole : indentLines spaces false (w ++ []) = w ++ indentLines spaces false [] :=
    indentLines_line onLine
  simpa [indentLines] using whole

theorem indentLines_breaks {breaks : List Char} (some_ : breaks ≠ [])
    (lines : ∀ b ∈ breaks, isBreak b = true) :
    indentLines spaces afterBreak (breaks ++ l) = breaks ++ indentLines spaces true l := by
  induction breaks generalizing afterBreak with
  | nil => exact absurd rfl some_
  | cons b breaks ih =>
    obtain ⟨first, lines⟩ := List.forall_mem_cons.1 lines
    rw [List.cons_append, indentLines, if_pos first, List.cons_append]
    cases breaks with
    | nil => rfl
    | cons d breaks => rw [ih (List.cons_ne_nil d breaks) lines]

theorem indentLines_allBreaks {breaks : List Char} (some_ : breaks ≠ [])
    (lines : ∀ b ∈ breaks, isBreak b = true) : indentLines spaces afterBreak breaks = breaks := by
  have whole : indentLines spaces afterBreak (breaks ++ []) =
      breaks ++ indentLines spaces true [] := indentLines_breaks some_ lines
  simpa [indentLines] using whole

theorem mem_indentLines (mem : c ∈ indentLines spaces afterBreak l) : c ∈ spaces ∨ c ∈ l := by
  induction l generalizing afterBreak with
  | nil => cases mem
  | cons d l ih =>
    rw [indentLines] at mem
    split at mem
    · rcases List.mem_cons.1 mem with rfl | mem
      · exact .inr List.mem_cons_self
      · exact (ih mem).imp_right (List.mem_cons_of_mem d)
    · rcases List.mem_append.1 mem with mem | mem
      · split at mem
        · exact .inl mem
        · cases mem
      · rcases List.mem_cons.1 mem with rfl | mem
        · exact .inr List.mem_cons_self
        · exact (ih mem).imp_right (List.mem_cons_of_mem d)

theorem indentLines_starts (some_ : l ≠ []) (starts : ∀ c ∈ l.head?, isBreak c = false) :
    indentLines spaces true l = spaces ++ indentLines spaces false l := by
  cases l with
  | nil => exact absurd rfl some_
  | cons c l => simp [indentLines, starts c rfl]

theorem head?_indentLines (some_ : l ≠ []) (starts : ∀ c ∈ l.head?, isBreak c = false)
    (rest : List Char) : ∀ c ∈ (indentLines spaces false l ++ rest).head?, isBreak c = false := by
  obtain ⟨d, l, rfl⟩ := List.exists_cons_of_ne_nil some_
  have first : isBreak d = false := starts d rfl
  simp [indentLines, first]

theorem endLine_of_break (last : ∀ c ∈ l.getLast?, isBreak c = true) (some_ : l ≠ []) :
    endLine l = [] := by
  rw [endLine, List.getLast?_eq_some_getLast some_, Option.any_some,
    last _ (List.getLast?_eq_some_getLast some_)]
  rfl

theorem endLine_of_solid (last : ∀ c ∈ l.getLast?, isBreak c = false) : endLine l = ['\n'] := by
  have none : (l.getLast?).any isBreak = false := by
    rw [Option.any_eq_false]
    exact fun c hc => by simpa using last c hc
  rw [endLine, none]
  rfl

theorem endLine_append (w : List Char) (some_ : l ≠ []) : endLine (w ++ l) = endLine l := by
  rw [endLine, List.getLast?_append_of_ne_nil w some_]
  rfl

theorem endLine_indentLines (some_ : l ≠ []) :
    endLine (indentLines spaces afterBreak l) = endLine l := by
  induction l generalizing afterBreak with
  | nil => exact absurd rfl some_
  | cons c l ih =>
    obtain ⟨front, written⟩ : ∃ front, indentLines spaces afterBreak (c :: l) =
        front ++ c :: indentLines spaces (isBreak c) l := by
      cases line : isBreak c with
      | false => exact ⟨if afterBreak then spaces else [], by simp [indentLines, line]⟩
      | true => exact ⟨[], by simp [indentLines, line]⟩
    rw [written, endLine_append _ (List.cons_ne_nil _ _)]
    cases l with
    | nil => rfl
    | cons d l =>
      have more : indentLines spaces (isBreak c) (d :: l) ≠ [] := by
        cases line : isBreak d <;> simp [indentLines, line]
      rw [← List.singleton_append, endLine_append _ more, ih (List.cons_ne_nil d l),
        ← endLine_append [c] (List.cons_ne_nil d l)]
      rfl

end NodeSettings.Yaml
