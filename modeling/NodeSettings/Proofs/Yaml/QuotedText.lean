import NodeSettings.Proofs.Yaml.Gaps

/-!
Quoted scalars. Between single quotes every text that they can write is scanned as itself,
`quotedRest?_single`, though its lines are indented; between double quotes every text at all is,
`quotedRest?_double`. A quoted scalar is a row of stretches with gaps between them, and what is
written agrees with that: `quotedRest?_close` ends it, `quotedRest?_gap` goes on behind a gap.
-/

namespace NodeSettings.Yaml

variable {c d e b q : Char} {cs w l v rest tail after spaces text : List Char} {m m' : Mark}
  {single : Bool}

/-! ## Stretches -/

/-- A stretch of a quoted scalar, in either kind of quotes. -/
def stretch? (single : Bool) (cs : List Char) : Option Stretch :=
  if single then some (singleStretch cs) else doubleStretch? cs

/-- A quoted scalar ends at the quote behind a stretch. -/
theorem quotedRest?_close (inner : 0 < m.column)
    (stretch : stretch? single (v ++ q :: after) = some ⟨w, q :: after, false⟩)
    (quote : q = if single then '\'' else '"') :
    quotedRest? single text ⟨v ++ q :: after, m⟩ =
      some ⟨text ++ w, ⟨after, m.advance (v.length + 1)⟩, false⟩ := by
  have passed : (v ++ q :: after).length - (q :: after).length = v.length := by
    rw [List.length_append, Nat.add_sub_cancel]
  rw [quotedRest?, atDocumentMark_of_column inner, if_neg Bool.false_ne_true]
  rw [stretch?] at stretch
  simp only [stretch, passed, Bool.false_eq_true, if_false, if_pos quote, Cursor.skip,
    Mark.advance_advance, List.drop_one, List.tail_cons]

/-- Behind a gap it goes on. -/
theorem quotedRest?_gap {g : List Char} {gap : Gap} (inner : 0 < m.column) (some_ : g ≠ [])
    (gaps : ∀ c ∈ g, isGap c = true)
    (stretch : stretch? single (v ++ (g ++ tail)) = some ⟨w, g ++ tail, false⟩)
    (scanned : Gap.scan? (fun _ => false) {} ⟨g ++ tail, m.advance v.length⟩ =
      some (gap, ⟨rest, m'⟩))
    (shorter : rest.length ≤ tail.length) :
    quotedRest? single text ⟨v ++ (g ++ tail), m⟩ =
      quotedRest? single (text ++ w ++ gap.folded) ⟨rest, m'⟩ := by
  obtain ⟨b, g, rfl⟩ := List.exists_cons_of_ne_nil some_
  have passed : (v ++ (b :: g ++ tail)).length - (b :: g ++ tail).length = v.length := by
    rw [List.length_append, Nat.add_sub_cancel]
  have other : b ≠ if single then '\'' else '"' := by
    rintro rfl
    cases single <;> exact absurd (gaps _ List.mem_cons_self) (by decide)
  have less : rest.length < (v ++ (b :: g ++ tail)).length := by
    simp only [List.length_append, List.length_cons]
    omega
  rw [quotedRest?, atDocumentMark_of_column inner, if_neg Bool.false_ne_true]
  rw [stretch?] at stretch
  rw [List.cons_append] at stretch scanned passed less ⊢
  simp only [stretch, passed, Bool.false_eq_true, if_false, if_neg other, scanned, if_pos less]

/-! ## Single quotes -/

/-- A text with each quote written twice. -/
def doubleQuotes (cs : List Char) : List Char :=
  cs.flatMap fun c => if c = '\'' then [c, c] else [c]

@[simp] theorem doubleQuotes_nil : doubleQuotes [] = [] := rfl

theorem doubleQuotes_append (w l : List Char) :
    doubleQuotes (w ++ l) = doubleQuotes w ++ doubleQuotes l :=
  List.flatMap_append

theorem mem_doubleQuotes : c ∈ doubleQuotes cs ↔ c ∈ cs := by
  rw [doubleQuotes, List.mem_flatMap]
  refine ⟨fun ⟨d, hd, hc⟩ => ?_, fun hc => ⟨c, hc, ?_⟩⟩
  · split at hc <;> simp_all
  · split <;> simp

theorem doubleQuotes_of_notMem (quote : '\'' ∉ cs) : doubleQuotes cs = cs := by
  induction cs with
  | nil => rfl
  | cons c cs ih =>
    obtain ⟨first, later⟩ := not_or.1 (List.mem_cons.not.1 quote)
    have single : doubleQuotes (c :: cs) = [c] ++ doubleQuotes cs := by
      simp [doubleQuotes, Ne.symm first]
    rw [single, ih later]
    rfl

theorem head?_doubleQuotes : (doubleQuotes cs).head? = cs.head? := by
  cases cs with
  | nil => rfl
  | cons c cs =>
    by_cases quote : c = '\'' <;> simp [doubleQuotes, quote]

theorem singleStretch_cons (quote : c ≠ '\'') (solid : isGap c = false) :
    singleStretch (c :: rest) =
      { singleStretch rest with text := c :: (singleStretch rest).text } := by
  rw [singleStretch.eq_3 _ _ fun _ same _ => quote same]
  simp [quote, solid]

/-- A stretch ends where a gap or its last quote stands. -/
theorem singleStretch_append (word : ∀ c ∈ w, isGap c = false)
    (ends : singleStretch tail = ⟨[], tail, false⟩) :
    singleStretch (doubleQuotes w ++ tail) = ⟨w, tail, false⟩ := by
  induction w with
  | nil => exact ends
  | cons c w ih =>
    obtain ⟨first, word⟩ := List.forall_mem_cons.1 word
    have whole := ih word
    by_cases quote : c = '\''
    · subst quote
      show singleStretch ('\'' :: '\'' :: (doubleQuotes w ++ tail)) = _
      rw [singleStretch, whole]
    · have written : doubleQuotes (c :: w) ++ tail = c :: (doubleQuotes w ++ tail) := by
        simp [doubleQuotes, quote]
      rw [written, singleStretch_cons quote first, whole]

theorem singleStretch_gap (gap : isGap b = true) :
    singleStretch (b :: tail) = ⟨[], b :: tail, false⟩ := by
  have quote : b ≠ '\'' := by
    rintro rfl
    exact absurd gap (by decide)
  rw [singleStretch.eq_3 _ _ fun _ same _ => quote same]
  simp [gap]

theorem singleStretch_quote (single : after.head? ≠ some '\'') :
    singleStretch ('\'' :: after) = ⟨[], '\'' :: after, false⟩ := by
  rw [singleStretch.eq_3]
  · simp
  · rintro rest - rfl
    exact single rfl

/-- What stands between single quotes: the lines of a text, indented, and the indentation of the
closing quote if that stands on a line of its own. -/
def singleBody (spaces cs : List Char) : List Char :=
  indentLines spaces false (doubleQuotes cs) ++ if (cs.getLast?).any isBreak then spaces else []

theorem singleBody_line (onLine : ∀ c ∈ w, isBreak c = false) :
    singleBody spaces (w ++ l) = doubleQuotes w ++ singleBody spaces l := by
  have ending : ((w ++ l).getLast?).any isBreak = (l.getLast?).any isBreak := by
    by_cases empty : l = []
    · subst empty
      rw [List.append_nil, List.getLast?_nil, Option.any_none, Option.any_eq_false]
      exact fun c hc => by simpa using onLine c (List.mem_of_getLast? hc)
    · rw [List.getLast?_append_of_ne_nil w empty]
  rw [singleBody, ending, doubleQuotes_append,
    indentLines_line fun c hc => onLine c (mem_doubleQuotes.1 hc), List.append_assoc]
  rfl

theorem singleBody_onLine (onLine : ∀ c ∈ w, isBreak c = false) :
    singleBody spaces w = doubleQuotes w := by
  have whole : singleBody spaces (w ++ []) = doubleQuotes w ++ singleBody spaces [] :=
    singleBody_line onLine
  simpa [singleBody, indentLines] using whole

theorem singleBody_breaks {breaks : List Char} (some_ : breaks ≠ [])
    (lines : ∀ b ∈ breaks, isBreak b = true) (starts : ∀ c ∈ l.head?, isBreak c = false) :
    singleBody spaces (breaks ++ l) = breaks ++ (spaces ++ singleBody spaces l) := by
  have quote : '\'' ∉ breaks := fun mem => absurd (lines _ mem) (by decide)
  rw [singleBody, doubleQuotes_append, doubleQuotes_of_notMem quote,
    indentLines_breaks some_ lines, List.append_assoc]
  by_cases empty : l = []
  · subst empty
    have last : (breaks.getLast?).any isBreak = true := by
      rw [List.getLast?_eq_some_getLast some_]
      exact lines _ (List.getLast_mem some_)
    rw [List.append_nil, last]
    simp [singleBody, indentLines]
  · have follows : doubleQuotes l ≠ [] := by
      obtain ⟨c, l, rfl⟩ := List.exists_cons_of_ne_nil empty
      exact List.ne_nil_of_mem (mem_doubleQuotes.2 List.mem_cons_self)
    rw [indentLines_starts follows (by rwa [head?_doubleQuotes]),
      List.getLast?_append_of_ne_nil breaks empty, List.append_assoc]
    rfl

theorem head?_singleBody_append (starts : ∀ c ∈ l.head?, isBreak c = false)
    (spaces after : List Char) :
    (singleBody spaces l ++ '\'' :: after).head? = some (l.head?.getD '\'') := by
  cases l with
  | nil => rfl
  | cons c l =>
    have quote : isBreak '\'' = false := rfl
    by_cases same : c = '\'' <;>
      simp [singleBody, doubleQuotes, same, indentLines, starts c rfl, quote]

/-- What can be written between single quotes: breaks other than line feeds, and no space next to
a break. -/
structure IsQuotable (cs : List Char) : Prop where
  printable : ∀ c ∈ cs, isPrintable c = true
  noFeed : '\n' ∉ cs
  spaceBreak : hasPair (· == ' ') isBreak cs = false
  breakSpace : hasPair isBreak (· == ' ') cs = false

theorem hasPair_of_append {p q : Char → Bool} (front : List Char)
    (pairs : hasPair p q (front ++ l) = false) : hasPair p q l = false := by
  induction front with
  | nil => exact pairs
  | cons c front ih =>
    refine ih ?_
    cases rest : front ++ l with
    | nil => rfl
    | cons d rest' =>
      rw [List.cons_append, rest, hasPair, Bool.or_eq_false_iff] at pairs
      exact pairs.2

/-- A run of elements of two kinds, neither of which follows the other, is of one kind. -/
theorem forall_or_forall_of_hasPair {p q : Char → Bool} {g : List Char}
    (either : ∀ c ∈ g, p c = true ∨ q c = true) (pq : hasPair p q (g ++ l) = false)
    (qp : hasPair q p (g ++ l) = false) : (∀ c ∈ g, p c = true) ∨ ∀ c ∈ g, q c = true := by
  induction g with
  | nil => exact .inl (by simp)
  | cons c g ih =>
    obtain ⟨first, later⟩ := List.forall_mem_cons.1 either
    cases g with
    | nil => simpa using first
    | cons d g =>
      rw [List.cons_append, List.cons_append, hasPair, Bool.or_eq_false_iff] at pq qp
      rcases ih later pq.2 qp.2 with all | all
      · refine .inl (List.forall_mem_cons.2 ⟨first.resolve_right fun hc => ?_, all⟩)
        exact absurd qp.1 (by simp [hc, all d List.mem_cons_self])
      · refine .inr (List.forall_mem_cons.2 ⟨first.resolve_left fun hc => ?_, all⟩)
        exact absurd pq.1 (by simp [hc, all d List.mem_cons_self])

namespace IsQuotable

theorem of_append (front : List Char) (quotable : IsQuotable (front ++ l)) : IsQuotable l where
  printable := fun c hc => quotable.printable c (List.mem_append_right front hc)
  noFeed := fun mem => quotable.noFeed (List.mem_append_right front mem)
  spaceBreak := hasPair_of_append front quotable.spaceBreak
  breakSpace := hasPair_of_append front quotable.breakSpace

/-- A gap in such a text is one of spaces or one of breaks. -/
theorem gap_cases {g : List Char} (quotable : IsQuotable (g ++ l))
    (gap : ∀ c ∈ g, isGap c = true) :
    g = List.replicate g.length ' ' ∨ ∀ c ∈ g, isBreak c = true := by
  have either : ∀ c ∈ g, (c == ' ') = true ∨ isBreak c = true := by
    intro c hc
    by_contra neither
    obtain ⟨space, line⟩ := not_or.1 neither
    have solid := isGap_of_isPrintable (quotable.printable c (List.mem_append_left l hc))
      (by simpa using space) (by simpa using line)
    exact absurd (gap c hc) (by simp [solid])
  refine (forall_or_forall_of_hasPair either quotable.spaceBreak quotable.breakSpace).imp_left
    fun spaces => List.eq_replicate_iff.2 ⟨rfl, fun c hc => by simpa using spaces c hc⟩

end IsQuotable

/-- Between single quotes a text is scanned as itself; on one line nothing but its characters is
passed. -/
theorem quotedRest?_single {indent : Nat} (quotable : IsQuotable cs) (deep : 0 < indent)
    (single : after.head? ≠ some '\'') (text : List Char) (m : Mark) (inner : 0 < m.column) :
    ∃ m', quotedRest? true text
        ⟨singleBody (List.replicate indent ' ') cs ++ '\'' :: after, m⟩ =
          some ⟨text ++ cs, ⟨after, m'⟩, false⟩ ∧ m.line ≤ m'.line ∧
        (cs.any isBreak = false →
          m' = m.advance ((singleBody (List.replicate indent ' ') cs).length + 1)) := by
  generalize indentation : List.replicate indent ' ' = spaces
  induction cs using runs_induct isGap generalizing text m with
  | last w word =>
    have onLine : ∀ c ∈ w, isBreak c = false := fun c hc => isBreak_of_not_isGap (word c hc)
    have stretch : stretch? true (doubleQuotes w ++ '\'' :: after) =
        some ⟨w, '\'' :: after, false⟩ :=
      congrArg some (singleStretch_append word (singleStretch_quote single))
    rw [singleBody_onLine onLine]
    exact ⟨_, quotedRest?_close inner stretch rfl, Nat.le_refl _, fun _ => rfl⟩
  | step w g l word some_ gap starts ih =>
    have behind : IsQuotable l := (quotable.of_append w).of_append g
    have onLine : ∀ c ∈ w, isBreak c = false := fun c hc => isBreak_of_not_isGap (word c hc)
    have solid : ∀ c ∈ (singleBody spaces l ++ '\'' :: after).head?, isGap c = false := by
      have front := head?_singleBody_append
        (fun c hc => isBreak_of_not_isGap (starts c hc)) spaces after
      intro c hc
      rw [front, Option.mem_some_iff] at hc
      rw [← hc]
      cases l with
      | nil => rfl
      | cons d l => exact starts d rfl
    have stretch (tail : List Char) : stretch? true (doubleQuotes w ++ (g ++ tail)) =
        some ⟨w, g ++ tail, false⟩ := by
      obtain ⟨b, g, rfl⟩ := List.exists_cons_of_ne_nil some_
      exact congrArg some (singleStretch_append word
        (singleStretch_gap (gap b List.mem_cons_self)))
    -- Spaces are written as they are; behind breaks the next line is indented, and the indentation
    -- does not count.
    rcases (quotable.of_append w).gap_cases gap with blank | lines
    · have written : singleBody spaces (w ++ (g ++ l)) =
          doubleQuotes w ++ (g ++ singleBody spaces l) := by
        have onLine' : ∀ c ∈ g, isBreak c = false := by
          rw [blank]
          exact List.forall_mem_replicate.2 (.inr rfl)
        have quote : '\'' ∉ g := fun mem => absurd (gap _ mem) (by decide)
        rw [singleBody_line onLine, singleBody_line onLine', doubleQuotes_of_notMem quote]
      obtain ⟨m', read, le, exact_⟩ := ih behind (text ++ w ++ g)
        ((m.advance (doubleQuotes w).length).advance g.length)
        (Nat.lt_of_lt_of_le inner (Nat.le_add_right_of_le (Nat.le_add_right _ _)))
      refine ⟨m', ?_, le, fun noBreak => ?_⟩
      · rw [written, List.append_assoc, List.append_assoc,
          quotedRest?_gap inner some_ gap (stretch _) (Gap.scan?_blank blank solid _)
            (Nat.le_refl _)]
        simpa [Gap.folded] using read
      · rw [List.any_append, List.any_append, Bool.or_eq_false_iff, Bool.or_eq_false_iff] at noBreak
        rw [exact_ noBreak.2.2, written]
        simp [Nat.add_assoc]
    · obtain ⟨gap', m', scanned, hasBreak, folded, less⟩ :=
        Gap.scan?_breaks (fun _ => false) (spaces ++ (singleBody spaces l ++ '\'' :: after)) some_
          lines (fun b hb => quotable.printable b (by simp [hb]))
          (fun mem => quotable.noFeed (by simp [mem])) (m.advance (doubleQuotes w).length)
      rw [← indentation, Gap.scan?_spaces_behind hasBreak, indentation,
        Gap.scan?_stop solid] at scanned
      have written : singleBody spaces (w ++ (g ++ l)) =
          doubleQuotes w ++ (g ++ (spaces ++ singleBody spaces l)) := by
        rw [singleBody_line onLine, singleBody_breaks some_ lines fun c hc =>
          isBreak_of_not_isGap (starts c hc)]
      obtain ⟨m'', read, le, -⟩ := ih behind (text ++ w ++ g) (m'.advance indent)
        (Nat.lt_of_lt_of_le deep (Nat.le_add_left _ _))
      refine ⟨m'', ?_, Nat.le_of_lt (Nat.lt_of_lt_of_le less le), fun noBreak => ?_⟩
      · have same : singleBody spaces (w ++ (g ++ l)) ++ '\'' :: after =
            doubleQuotes w ++ (g ++ (spaces ++ (singleBody spaces l ++ '\'' :: after))) := by
          rw [written]
          simp only [List.append_assoc]
        rw [same, quotedRest?_gap inner some_ gap (stretch _) scanned (by simp), folded, read]
        simp
      · obtain ⟨b, g, rfl⟩ := List.exists_cons_of_ne_nil some_
        have line := lines b List.mem_cons_self
        exact absurd noBreak (by simp [line])

/-! ## Double quotes -/

/-- A short escape is read as the character it stands for. -/
theorem escapeLetter?_eq_some (letter : escapeLetter? c = some e) :
    escapeChar? e = some c ∧ escapeWidth? e = none ∧ isBreak e = false ∧ isPrintable e = true := by
  have named {n : Nat} (same : c.toNat = n) : c = .ofNat n := by rw [← same, Char.ofNat_toNat]
  unfold escapeLetter? at letter
  split at letter
  case h_15 => cases letter
  all_goals
    next same =>
      cases letter
      rw [named same]
      decide

theorem toNat_lt_of_not_isPrintable (printable : isPrintable c = false) :
    c.toNat < 0x100 ∨ c.toNat ∈ [0xFEFF, 0xFFFE, 0xFFFF] := by
  simp [isPrintable] at printable
  simp only [List.mem_cons, List.not_mem_nil, or_false]
  omega

theorem natOfDigits?_hexDigits_two : ∀ n < 0x100, (Text.hexDigits n 2).length = 2 ∧
    Text.natOfDigits? 16 ((Text.hexDigits n 2).map Char.toUpper) = some n := by
  decide +kernel

theorem natOfDigits?_hexDigits_four : ∀ n ∈ [0xFEFF, 0xFFFE, 0xFFFF],
    (Text.hexDigits n 4).length = 4 ∧
      Text.natOfDigits? 16 ((Text.hexDigits n 4).map Char.toUpper) = some n := by
  decide

theorem charOfDigits?_append {width : Nat} {digits : List Char} (rest : List Char)
    (size : digits.length = width) (value : Text.natOfDigits? 16 digits = some c.toNat) :
    charOfDigits? width (digits ++ rest) = some c := by
  have valid : c.toNat.isValidChar := c.valid
  simp [charOfDigits?, ← size, value, valid]

/-- How a character is written between double quotes: as itself, by a letter, or by its digits. -/
inductive Escape (c : Char) : List Char → Prop where
  | none (printable : isPrintable c = true) (quote : c ≠ '"') (backslash : c ≠ '\\')
    (line : isBreak c = false) : Escape c [c]
  | letter (e : Char) (letter : escapeLetter? c = some e) : Escape c ['\\', e]
  | digits (e : Char) (width : Nat) (digits : List Char) (named : escapeWidth? e = some width)
    (size : digits.length = width) (narrow : width ≤ 4)
    (value : Text.natOfDigits? 16 digits = some c.toNat) : Escape c ('\\' :: e :: digits)

theorem escape_escapeDouble (c : Char) : Escape c (escapeDouble c) := by
  unfold escapeDouble
  split
  · next e letter => exact .letter e letter
  · next none =>
    by_cases printable : isPrintable c = true
    · rw [if_pos printable]
      -- The quote, the backslash and all breaks have letters, and this character has none.
      have other {d : Char} (letter : (escapeLetter? d).isSome = true) : c ≠ d := by
        rintro rfl
        simp [none] at letter
      have line : isBreak c = false := by
        rw [Bool.eq_false_iff]
        intro line
        simp only [isBreak, Bool.or_eq_true, beq_iff_eq] at line
        rcases line with (((rfl | rfl) | same) | same) | same
        · exact other rfl rfl
        · exact other rfl rfl
        all_goals simp [escapeLetter?, same] at none
      exact .none printable (other rfl) (other rfl) line
    · rw [if_neg printable]
      rcases toNat_lt_of_not_isPrintable (Bool.eq_false_iff.2 printable) with small | wide
      · obtain ⟨size, value⟩ := natOfDigits?_hexDigits_two c.toNat small
        rw [if_pos small]
        exact .digits 'x' 2 _ rfl (by rw [List.length_map, size]) (by decide) value
      · obtain ⟨size, value⟩ := natOfDigits?_hexDigits_four c.toNat wide
        have bounds : ¬ c.toNat < 0x100 ∧ c.toNat < 0x10000 := by
          simp only [List.mem_cons, List.not_mem_nil, or_false] at wide
          omega
        rw [if_neg bounds.1, if_pos bounds.2]
        exact .digits 'u' 4 _ rfl (by rw [List.length_map, size]) (by decide) value

/-- A character that is no space is read from what it is written as. -/
theorem doubleStretch?_append (space : c ≠ ' ') (written : Escape c v) :
    doubleStretch? (v ++ rest) =
      (doubleStretch? rest).map fun s => { s with text := c :: s.text } := by
  have backslash : isGap '\\' = false := rfl
  cases written with
  | none printable quote other line =>
    have solid := isGap_of_isPrintable printable space line
    rw [List.singleton_append, doubleStretch?.eq_def]
    simp [quote, solid, other]
  | letter e letter =>
    obtain ⟨read, noWidth, line, -⟩ := escapeLetter?_eq_some letter
    rw [List.cons_append, List.singleton_append, doubleStretch?]
    simp [backslash, line, noWidth, read]
  | digits e width digits named size narrow value =>
    have line : isBreak e = false := by
      unfold escapeWidth? at named
      split at named <;> first | rfl | cases named
    have read := charOfDigits?_append rest size value
    rw [List.cons_append, List.cons_append, doubleStretch?]
    simp [backslash, line, named, read, List.drop_left' size]

/-- A stretch ends where a space or the quote stands. -/
theorem doubleStretch?_flatMap (word : ∀ c ∈ w, (c == ' ') = false)
    (ends : doubleStretch? tail = some ⟨[], tail, false⟩) :
    doubleStretch? (w.flatMap escapeDouble ++ tail) = some ⟨w, tail, false⟩ := by
  induction w with
  | nil => exact ends
  | cons c w ih =>
    obtain ⟨first, word⟩ := List.forall_mem_cons.1 word
    rw [List.flatMap_cons, List.append_assoc,
      doubleStretch?_append (by simpa using first) (escape_escapeDouble c), ih word]
    rfl

theorem escapeDouble_space : escapeDouble ' ' = [' '] := rfl

theorem head?_escapeDouble (space : c ≠ ' ') : ∀ d ∈ (escapeDouble c ++ rest).head?,
    isGap d = false := by
  have written := escape_escapeDouble c
  generalize escapeDouble c = v at written
  cases written with
  | none printable quote other line =>
    rintro d ⟨⟩
    exact isGap_of_isPrintable printable space line
  | letter e letter =>
    rintro d ⟨⟩
    rfl
  | digits e width digits named size narrow value =>
    rintro d ⟨⟩
    rfl

/-- Between double quotes every text is scanned as itself. -/
theorem quotedRest?_double (text : List Char) (m : Mark) (inner : 0 < m.column) :
    quotedRest? false text ⟨cs.flatMap escapeDouble ++ '"' :: after, m⟩ =
      some ⟨text ++ cs, ⟨after, m.advance ((cs.flatMap escapeDouble).length + 1)⟩, false⟩ := by
  -- Every other gap is escaped, so that the runs are those of spaces.
  induction cs using runs_induct (· == ' ') generalizing text m with
  | last w word =>
    have ends : doubleStretch? ('"' :: after) = some ⟨[], '"' :: after, false⟩ := by
      rw [doubleStretch?.eq_def]
      rfl
    exact quotedRest?_close inner (doubleStretch?_flatMap word ends) rfl
  | step w g l word some_ spaces starts ih =>
    have blank : g = List.replicate g.length ' ' :=
      List.eq_replicate_iff.2 ⟨rfl, fun c hc => by simpa using spaces c hc⟩
    have gaps : ∀ c ∈ g, isGap c = true := by
      rw [blank]
      exact List.forall_mem_replicate.2 (.inr rfl)
    have same : g.flatMap escapeDouble = g := by
      rw [blank, List.flatMap_replicate, escapeDouble_space, List.flatten_replicate_singleton]
    have solid : ∀ c ∈ (l.flatMap escapeDouble ++ '"' :: after).head?, isGap c = false := by
      cases l with
      | nil =>
        rintro c ⟨⟩
        rfl
      | cons d l =>
        rw [List.flatMap_cons, List.append_assoc]
        exact head?_escapeDouble (by simpa using starts d rfl)
    have ends : stretch? false (w.flatMap escapeDouble ++
        (g ++ (l.flatMap escapeDouble ++ '"' :: after))) =
          some ⟨w, g ++ (l.flatMap escapeDouble ++ '"' :: after), false⟩ := by
      refine doubleStretch?_flatMap word ?_
      obtain ⟨b, g, rfl⟩ := List.exists_cons_of_ne_nil some_
      rw [List.cons_append, doubleStretch?.eq_def]
      simp [gaps b List.mem_cons_self]
    have read := ih (text ++ w ++ g)
      ((m.advance (w.flatMap escapeDouble).length).advance g.length)
      (Nat.lt_of_lt_of_le inner (Nat.le_add_right_of_le (Nat.le_add_right _ _)))
    rw [List.flatMap_append, List.flatMap_append, same, List.append_assoc, List.append_assoc,
      quotedRest?_gap inner some_ gaps ends (Gap.scan?_blank blank solid _) (Nat.le_refl _)]
    simpa [Gap.folded, Nat.add_assoc] using read

/-- No character takes more than six. -/
theorem length_escapeDouble_le (c : Char) : (escapeDouble c).length ≤ 6 := by
  have written := escape_escapeDouble c
  generalize escapeDouble c = v at written
  cases written with
  | none => simp
  | letter => simp
  | digits e width digits named size narrow =>
    simp only [List.length_cons, size]
    omega

theorem isPrintable_of_digitValue? {n : Nat} (known : Text.digitValue? c = some n) :
    isPrintable c = true := by
  have code : c.toNat = c.val.toNat := rfl
  have range : 0x20 ≤ c.toNat ∧ c.toNat ≤ 0x7E := by
    unfold Text.digitValue? at known
    split at known
    · next digit =>
      have bounds : 48 ≤ c.toNat ∧ c.toNat ≤ 57 := Char.isDigit_iff_toNat.1 digit
      omega
    split at known
    · next lower =>
      have bounds : 97 ≤ c.val.toNat ∧ c.val.toNat ≤ 122 := by
        obtain ⟨least, most⟩ := Bool.and_eq_true_iff.1 lower
        exact ⟨UInt32.le_iff_toNat_le.1 (of_decide_eq_true least),
          UInt32.le_iff_toNat_le.1 (of_decide_eq_true most)⟩
      omega
    split at known
    · next upper =>
      have bounds : 65 ≤ c.val.toNat ∧ c.val.toNat ≤ 90 := by
        obtain ⟨least, most⟩ := of_decide_eq_true upper
        exact ⟨UInt32.le_iff_toNat_le.1 least, UInt32.le_iff_toNat_le.1 most⟩
      omega
    · cases known
  simp [isPrintable, range]

theorem isPrintable_of_appendDigits? {digits : List Char} {n value : Nat}
    (read : Text.appendDigits? 16 n digits = some value) :
    ∀ c ∈ digits, isPrintable c = true := by
  induction digits generalizing n with
  | nil => simp
  | cons c digits ih =>
    rw [Text.appendDigits?] at read
    split at read
    · next d known =>
      split at read
      · exact List.forall_mem_cons.2 ⟨isPrintable_of_digitValue? known, ih read⟩
      · cases read
    · cases read

/-- No character of an escape is one that has to be escaped. -/
theorem isPrintable_escapeDouble (c : Char) : ∀ d ∈ escapeDouble c, isPrintable d = true := by
  have written := escape_escapeDouble c
  generalize escapeDouble c = v at written
  cases written with
  | none printable => simpa using printable
  | letter e letter =>
    have shown := (escapeLetter?_eq_some letter).2.2.2
    simpa using ⟨rfl, shown⟩
  | digits e width digits named size narrow value =>
    have shown : isPrintable e = true := by
      unfold escapeWidth? at named
      split at named <;> first | rfl | cases named
    have digits_ : ∀ d ∈ digits, isPrintable d = true := by
      unfold Text.natOfDigits? at value
      split at value
      · cases value
      · exact isPrintable_of_appendDigits? value
    exact List.forall_mem_cons.2 ⟨rfl, List.forall_mem_cons.2 ⟨shown, digits_⟩⟩

end NodeSettings.Yaml
