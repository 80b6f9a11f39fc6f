import NodeSettings.Proofs.Yaml.Gaps

/-!
Plain scalars. A text that may be written plain is scanned as itself, both as a key in front of its
colon, `plainWords?_colon`, and as a value at the end of its line, `plainWords?_line`. In between
stand only words and spaces, and what stands behind a gap is such a text again: `IsPlain.behind`.
-/

namespace NodeSettings.Yaml

variable {c p : Char} {cs w l after rest : List Char} {indent : Int} {m : Mark}

/-! ## What a plain text holds -/

theorem hasInnerMark_of_append (front : List Char) (marks : hasInnerMark (front ++ l) = false) :
    hasInnerMark l = false := by
  induction front with
  | nil => exact marks
  | cons c front ih =>
    rw [List.cons_append, hasInnerMark] at marks
    exact ih (Bool.or_eq_false_iff.1 marks).2

theorem head?_ne_hash (marks : hasInnerMark (' ' :: w) = false) : w.head? ≠ some '#' := by
  intro hash
  simp [hasInnerMark, isGap, isBlank, hash] at marks

/-- A text that nothing ends early, and that may stand behind a space. -/
structure IsPlain (cs : List Char) : Prop where
  printable : ∀ c ∈ cs, isPrintable c = true
  onLine : ∀ c ∈ cs, isBreak c = false
  starts : ∀ c ∈ cs.head?, isGap c = false
  ends : ∀ c ∈ cs.getLast?, isGap c = false
  marks : hasInnerMark (' ' :: cs) = false

namespace IsPlain

theorem eq_space (plain : IsPlain cs) (mem : c ∈ cs) (gap : isGap c = true) : c = ' ' := by
  by_contra other
  exact absurd gap (by simp [isGap_of_isPrintable (plain.printable c mem) other
    (plain.onLine c mem)])

/-- What follows the gap behind a word is such a text, and there is something. -/
theorem behind {g : List Char} (plain : IsPlain (w ++ (g ++ l))) (some_ : g ≠ [])
    (gap : ∀ c ∈ g, isGap c = true) (starts : ∀ c ∈ l.head?, isGap c = false) :
    l ≠ [] ∧ g = List.replicate g.length ' ' ∧ IsPlain l := by
  have spaces : ∀ c ∈ g, c = ' ' := fun c hc =>
    plain.eq_space (List.mem_append_right w (List.mem_append_left l hc)) (gap c hc)
  have follows : l ≠ [] := by
    rintro rfl
    have last := plain.ends (g.getLast some_) (by
      rw [List.append_nil, List.getLast?_append_of_ne_nil w some_, Option.mem_def,
        List.getLast?_eq_some_getLast some_])
    exact absurd (gap _ (List.getLast_mem some_)) (by simp [last])
  have inside {c : Char} (hc : c ∈ l) : c ∈ w ++ (g ++ l) :=
    List.mem_append_right w (List.mem_append_right g hc)
  refine ⟨follows, List.eq_replicate_iff.2 ⟨rfl, spaces⟩, fun c hc => plain.printable c (inside hc),
    fun c hc => plain.onLine c (inside hc), starts, fun c hc => plain.ends c ?_, ?_⟩
  · rwa [List.getLast?_append_of_ne_nil w (List.append_ne_nil_of_right_ne_nil g follows),
      List.getLast?_append_of_ne_nil g follows]
  · obtain ⟨front, space, rfl⟩ := (List.eq_nil_or_concat' g).resolve_left some_
    have last : space = ' ' := spaces space (by simp)
    refine hasInnerMark_of_append (' ' :: (w ++ front)) ?_
    have marks := plain.marks
    rw [last] at marks
    simpa using marks

end IsPlain

/-- A text that may be written plain is such a text, and no mark of a document. -/
theorem isPlain_of_permits (permits : Style.permits cs .plain = true) : IsPlain cs := by
  simp only [Style.permits, Bool.and_eq_true, List.all_eq_true, Bool.not_eq_true',
    List.any_eq_false, hasOuterGap, Bool.or_eq_false_iff] at permits
  obtain ⟨⟨⟨⟨printable, lines⟩, first, last⟩, start⟩, inner⟩ := permits
  have solid {c : Char} (mem : c ∈ cs) (outer : ¬ (c == ' ' || isBreak c) = true) :
      isGap c = false := by
    simp only [Bool.or_eq_true, beq_iff_eq, not_or, Bool.not_eq_true] at outer
    exact isGap_of_isPrintable (printable c mem) outer.1 outer.2
  refine ⟨printable, fun c hc => by simpa using lines c hc, fun c hc => ?_, fun c hc => ?_, ?_⟩
  · refine solid (List.mem_of_mem_head? hc) fun outer => ?_
    rw [Option.mem_def.1 hc] at first
    exact absurd outer (by simpa using first)
  · refine solid (List.mem_of_getLast? hc) fun outer => ?_
    rw [Option.mem_def.1 hc] at last
    exact absurd outer (by simpa using last)
  · rw [hasInnerMark, inner, Bool.or_false]
    cases cs with
    | nil => rfl
    | cons c rest =>
      simp only [startsWithMark, Bool.or_eq_false_iff, Bool.and_eq_false_iff] at start
      obtain ⟨⟨⟨-, -⟩, first⟩, indicator⟩ := start
      have hash : c ≠ '#' := by
        rintro rfl
        exact absurd first (by decide)
      by_cases colon : c = ':'
      · subst colon
        have more : startsGap rest = false := indicator.resolve_left (by decide)
        simp [more]
      · simp [hash, colon]

/-! ## Words -/

/-- A word ends where the scalar is cut off in front of a gap or a colon. -/
theorem plainWord?_append (word : ∀ c ∈ w, isGap c = false) (cut : startsGap l = true)
    (marks : hasInnerMark (p :: (w ++ l)) = false)
    (ends : plainWord? false after = some []) : plainWord? false (w ++ after) = some w := by
  induction w generalizing p with
  | nil => exact ends
  | cons c w ih =>
    obtain ⟨first, word⟩ := List.forall_mem_cons.1 word
    rw [List.cons_append, hasInnerMark, Bool.or_eq_false_iff, Bool.or_eq_false_iff] at marks
    -- Inside the word no gap follows a colon, and at its end a colon would be a mark.
    have goes : (c = ':' && startsGap (w ++ after)) = false := by
      cases w with
      | nil =>
        have other : c ≠ ':' := by
          rintro rfl
          simp [cut] at marks
        simp [other]
      | cons d w => simp [startsGap, word d List.mem_cons_self]
    rw [List.cons_append, plainWord?, first, goes, ih word marks.2]
    rfl

theorem plainWord?_gap (starts : startsGap after = true) : plainWord? false after = some [] := by
  cases after with
  | nil => rfl
  | cons c after =>
    have gap : isGap c = true := starts
    simp [plainWord?, gap]

theorem plainWord?_colon (starts : startsGap rest = true) :
    plainWord? false (':' :: rest) = some [] := by
  simp [plainWord?, starts]

/-- The words from a cursor on, once the first of them is known. -/
theorem plainWords?_word {g : Gap} {text : List Char}
    (mark : (Cursor.mk (w ++ after) m).atDocumentMark = false) (some_ : w ≠ [])
    (hash : w.head? ≠ some '#') (word : plainWord? false (w ++ after) = some w) :
    plainWords? false indent g text ⟨w ++ after, m⟩ =
      if startsGap after && !after.isEmpty then
        (Gap.scan? (fun column => (column : Int) < indent) {} ⟨after, m.advance w.length⟩).bind
          fun (gap, next) =>
            if (next.mark.column : Int) < indent then
              some ⟨text ++ g.folded ++ w, next, gap.hasBreak⟩
            else if next.rest.length < (w ++ after).length then
              plainWords? false indent gap (text ++ g.folded ++ w) next
            else none
      else some ⟨text ++ g.folded ++ w, ⟨after, m.advance w.length⟩, false⟩ := by
  obtain ⟨c, w, rfl⟩ := List.exists_cons_of_ne_nil some_
  have start : ((c :: w ++ after).head? == some '#') = false := by simpa using hash
  rw [plainWords?, mark, start, word]
  simp only [Cursor.skip_append, Bool.or_self, Bool.false_eq_true, if_false, Bool.not_false,
    Bool.true_and, decide_eq_true_eq]
  cases Gap.scan? _ {} ⟨after, m.advance (c :: w).length⟩ <;> rfl

/-- A plain text is scanned as a whole if the end of its last word is scanned right. -/
theorem plainWords?_append (result : List Char → Mark → Option Scanned)
    (last : ∀ (w : List Char) (g : Gap) (text : List Char) (m : Mark),
      (∀ c ∈ w, isGap c = false) → w ≠ [] → hasInnerMark (' ' :: w) = false →
      (Cursor.mk (w ++ after) m).atDocumentMark = false →
      plainWords? false indent g text ⟨w ++ after, m⟩ =
        result (text ++ g.folded ++ w) (m.advance w.length))
    (plain : IsPlain cs) (some_ : cs ≠ []) (g : Gap) (text : List Char)
    (m : Mark) (deep : indent ≤ m.column + 1)
    (mark : (Cursor.mk (cs ++ after) m).atDocumentMark = false) :
    plainWords? false indent g text ⟨cs ++ after, m⟩ =
      result (text ++ g.folded ++ cs) (m.advance cs.length) := by
  induction cs using runs_induct isGap generalizing g text m with
  | last w word => exact last w g text m word some_ plain.marks mark
  | step w spaces l word gaps gap starts ih =>
    obtain ⟨follows, blank, behind⟩ := plain.behind gaps gap starts
    have first : w ≠ [] := by
      rintro rfl
      obtain ⟨d, spaces, rfl⟩ := List.exists_cons_of_ne_nil gaps
      exact absurd (plain.starts d rfl) (by simp [gap d List.mem_cons_self])
    have cut := startsGap_append gaps gap (l ++ after)
    have hash : w.head? ≠ some '#' := by
      rw [← List.head?_append_of_ne_nil w first]
      exact head?_ne_hash plain.marks
    have known : plainWord? false (w ++ (spaces ++ (l ++ after))) = some w :=
      plainWord?_append word (startsGap_append gaps gap l) plain.marks (plainWord?_gap cut)
    have solid : ∀ c ∈ (l ++ after).head?, isGap c = false := by
      rwa [List.head?_append_of_ne_nil _ follows]
    simp only [List.append_assoc] at mark ⊢
    have wide : 0 < w.length ∧ 0 < spaces.length :=
      ⟨List.length_pos_iff.2 first, List.length_pos_iff.2 gaps⟩
    rw [plainWords?_word mark first hash known, cut, Gap.scan?_blank blank solid, Option.bind_some]
    -- The scalar goes on, since the next word is no further out than this one.
    have inside : ¬ (((m.advance w.length).advance spaces.length).column : Int) < indent := by
      simp only [Mark.advance]
      omega
    have shorter : (l ++ after).length < (w ++ (spaces ++ (l ++ after))).length := by
      simp only [List.length_append]
      omega
    have more : (spaces ++ (l ++ after)).isEmpty = false := by
      simpa using fun empty => absurd empty gaps
    simp only [more, inside, shorter, Bool.not_false, Bool.and_self, if_true, if_false]
    rw [ih behind follows]
    · simp [Gap.folded, Nat.add_assoc]
    · simp only [Mark.advance]
      omega
    · refine atDocumentMark_of_column ?_
      simp only [Mark.advance]
      omega

/-! ## A key and a value -/

/-- A plain key ends at its colon. -/
theorem plainWords?_colon (plain : IsPlain cs) (some_ : cs ≠ [])
    (mark : (Cursor.mk (cs ++ ':' :: rest) m).atDocumentMark = false)
    (gap : startsGap rest = true) (deep : indent ≤ m.column + 1) :
    plainWords? false indent {} [] ⟨cs ++ ':' :: rest, m⟩ =
      some ⟨cs, ⟨':' :: rest, m.advance cs.length⟩, false⟩ := by
  refine plainWords?_append (fun text m => some ⟨text, ⟨':' :: rest, m⟩, false⟩)
    (fun w g text m word some_ marks mark => ?_) plain some_ {} [] m deep mark
  have known : plainWord? false (w ++ ':' :: rest) = some w :=
    plainWord?_append (l := []) word rfl (by rwa [List.append_nil]) (plainWord?_colon gap)
  rw [plainWords?_word mark some_ (head?_ne_hash marks) known]
  rfl

/-- A plain value ends with its line, and the indentation of the next one is passed too. -/
theorem plainWords?_line (plain : IsPlain cs) (some_ : cs ≠ [])
    (starts : ∀ c ∈ rest.head?, isGap c = false) (inner : 0 < m.column)
    {count : Nat} (outer : (count : Int) < indent) (deep : indent ≤ m.column + 1) :
    plainWords? false indent {} []
        ⟨cs ++ '\n' :: (List.replicate count ' ' ++ rest), m⟩ =
      some ⟨cs, ⟨rest, ((m.advance cs.length).newLine 1).advance count⟩, true⟩ := by
  refine plainWords?_append
    (fun text m => some ⟨text, ⟨rest, (m.newLine 1).advance count⟩, true⟩)
    (fun w g text m word some_ marks mark => ?_) plain some_ {} [] m deep
    (atDocumentMark_of_column inner)
  have known : plainWord? false (w ++ '\n' :: (List.replicate count ' ' ++ rest)) = some w :=
    plainWord?_append (l := []) word rfl (by rwa [List.append_nil]) (plainWord?_gap rfl)
  have passed : Gap.scan? (fun column => (column : Int) < indent) {}
      ⟨'\n' :: (List.replicate count ' ' ++ rest), m.advance w.length⟩ =
        some ({ hasBreak := true, firstBreak := ['\n'] },
          ⟨rest, ((m.advance w.length).newLine 1).advance count⟩) := by
    rw [Gap.scan?_break rfl rfl]
    exact (Gap.scan?_spaces_behind rfl count _).trans (Gap.scan?_stop starts)
  have column : (((m.advance w.length).newLine 1).advance count).column = count :=
    Nat.zero_add count
  rw [plainWords?_word mark some_ (head?_ne_hash marks) known, passed, Option.bind_some]
  simp only [column, outer, if_true]
  rfl

end NodeSettings.Yaml
