import NodeSettings.Proofs.Yaml.Gaps

/-!
Blocks of lines. A text written as a literal block is scanned as itself, `blockScalar?_literal`,
whatever gaps stand at its start and at its end: the header names the indentation where the first
line does not show it, and says what becomes of the breaks at the end.
-/

namespace NodeSettings.Yaml

variable {cs w l tail breaks acc : List Char} {indent count : Nat} {m : Mark}

/-! ## The header -/

namespace Chomp

/-- The chomping under which the breaks at the end of a text are kept as they are. -/
def ofText (cs : List Char) : Chomp :=
  match cs.reverse with
  | [] => strip
  | [c] => if isBreak c then keep else strip
  | c :: d :: _ => if !isBreak c then strip else if isBreak d then keep else clip

def hint : Chomp → List Char
  | clip => []
  | strip => ['-']
  | keep => ['+']

/-- What stands behind the text of a block. -/
def kept : Chomp → Block → List Char
  | strip, _ => []
  | clip, b => b.lineBreak
  | keep, b => b.lineBreak ++ b.breaks

theorem ofText_append_two (front : List Char) (d c : Char) : ofText (front ++ [d, c]) =
    if !isBreak c then strip else if isBreak d then keep else clip := by
  simp [ofText]

/-- Only the last line counts, and what follows it. -/
theorem ofText_append (front : List Char) (some_ : l ≠ [])
    (starts : ∀ c ∈ l.head?, isBreak c = false) : ofText (front ++ l) = ofText l := by
  obtain ⟨l, c, rfl⟩ := (List.eq_nil_or_concat' l).resolve_left some_
  rcases List.eq_nil_or_concat' l with rfl | ⟨l, d, rfl⟩
  · have line : isBreak c = false := starts c rfl
    rcases List.eq_nil_or_concat' front with rfl | ⟨front, d, rfl⟩
    · rfl
    · simp [ofText, line]
  · simp [ofText]

theorem ofText_line (some_ : w ≠ []) (onLine : ∀ c ∈ w, isBreak c = false) :
    ofText w = strip := by
  obtain ⟨front, c, rfl⟩ := (List.eq_nil_or_concat' w).resolve_left some_
  have last : isBreak c = false := onLine c (by simp)
  rw [ofText_append front (List.cons_ne_nil c []) (by simpa using last)]
  simp [ofText, last]

theorem ofText_breaks (some_ : breaks ≠ []) (lines : ∀ c ∈ breaks, isBreak c = true) :
    ofText breaks = keep := by
  obtain ⟨front, c, rfl⟩ := (List.eq_nil_or_concat' breaks).resolve_left some_
  have last : isBreak c = true := lines c (by simp)
  rcases List.eq_nil_or_concat' front with rfl | ⟨front, d, rfl⟩
  · simp [ofText, last]
  · have before : isBreak d = true := lines d (by simp)
    rw [List.append_assoc, List.singleton_append, ofText_append_two]
    simp [last, before]

/-- Behind a line all breaks are kept. -/
theorem kept_breaks {d : Char} {text : List Char} {startsBlank : Bool} (some_ : w ≠ [])
    (onLine : ∀ c ∈ w, isBreak c = false) (lines : ∀ c ∈ d :: breaks, isBreak c = true) :
    (ofText (w ++ d :: breaks)).kept ⟨text, [d], breaks, startsBlank⟩ = d :: breaks := by
  have first : isBreak d = true := lines d List.mem_cons_self
  rcases List.eq_nil_or_concat' breaks with rfl | ⟨front, c, rfl⟩
  · obtain ⟨w, e, rfl⟩ := (List.eq_nil_or_concat' w).resolve_left some_
    have before : isBreak e = false := onLine e (by simp)
    rw [List.append_assoc, List.singleton_append, ofText_append_two]
    simp [first, before, kept]
  · obtain ⟨front', e, same⟩ := (List.eq_nil_or_concat' (d :: front)).resolve_left (by simp)
    have last : isBreak c = true := lines c (by simp)
    have before : isBreak e = true :=
      lines e (List.mem_append_left [c] (same ▸ by simp : e ∈ d :: front))
    have shape : w ++ d :: (front ++ [c]) = w ++ front' ++ [e, c] := by
      rw [← List.cons_append, same]
      simp
    rw [shape, ofText_append_two]
    simp [last, before, kept]

end Chomp

/-- Whether the first line does not show the indentation. -/
def hidesIndent (cs : List Char) : Bool := (cs.head?).any fun c => c == ' ' || isBreak c

theorem blockHints_eq (cs : List Char) :
    blockHints cs = (if hidesIndent cs then ['2'] else []) ++ (Chomp.ofText cs).hint := by
  unfold blockHints Chomp.ofText hidesIndent
  rcases cs.reverse with _ | ⟨c, _ | ⟨d, rest⟩⟩
  · rfl
  · cases line : isBreak c <;> simp [line, Chomp.hint]
  · cases line : isBreak c <;> cases line' : isBreak d <;> simp [line, line', Chomp.hint]

theorem endLine?_feed (rest : List Char) (m : Mark) :
    (Cursor.mk ('\n' :: rest) m).endLine? = some ⟨rest, m.newLine 1⟩ := by
  have stays : (Cursor.mk ('\n' :: rest) m).skipWhile isBlank = ⟨'\n' :: rest, m⟩ := rfl
  rw [Cursor.endLine?, stays]
  exact congrArg (fun c : List Char × Cursor => some c.2) (breakLine_cons rfl rfl rest m)

theorem blockHeader?_hint (hides : Bool) (chomp : Chomp) (rest : List Char) (m : Mark) :
    ∃ m', blockHeader? ⟨(if hides then ['2'] else []) ++ chomp.hint ++ '\n' :: rest, m⟩ =
      some (chomp, if hides then some 2 else none, ⟨rest, m'⟩) ∧ m'.column = 0 := by
  have two : '2'.isDigit = true ∧ '2'.toNat - 48 = 2 := by decide
  have feed : '\n'.isDigit = false := by decide
  cases hides <;> cases chomp <;>
    simp [blockHeader?, Chomp.hint, Cursor.skip, endLine?_feed, two, feed, Mark.newLine]

/-! ## Empty lines -/

/-- No more spaces are passed than the indentation has, and no fewer. -/
theorem takeWhile_take_spaces (shallow : count ≤ indent)
    (solid : count < indent → ∀ c ∈ tail.head?, c ≠ ' ') :
    ((List.replicate count ' ' ++ tail).take indent).takeWhile (· == ' ') =
      List.replicate count ' ' := by
  rw [List.take_append, List.length_replicate, List.take_of_length_le (by simpa using shallow),
    List.takeWhile_append_of_pos fun c hc => by simpa using List.eq_of_mem_replicate hc]
  have stops : (tail.take (indent - count)).takeWhile (· == ' ') = [] := by
    rcases Nat.eq_or_lt_of_le shallow with same | short
    · simp [same]
    · cases tail with
      | nil => simp
      | cons c tail =>
        obtain ⟨more, hmore⟩ : ∃ n, indent - count = n + 1 := ⟨indent - count - 1, by omega⟩
        rw [hmore, List.take_succ_cons, List.takeWhile_cons_of_neg]
        simpa using solid short c rfl
  rw [stops, List.append_nil]

/-- Empty lines are passed, and the indentation of the line behind them. -/
theorem blockBreaks?_lines (lines : ∀ b ∈ breaks, isBreak b = true)
    (printable : ∀ b ∈ breaks, isPrintable b = true) (shallow : count ≤ indent)
    (starts : ∀ c ∈ tail.head?, isBreak c = false)
    (solid : count < indent → ∀ c ∈ tail.head?, isGap c = false) (deepest : Nat)
    (acc : List Char) (column : m.column = 0) :
    ∃ deepest' m', blockBreaks? (some indent) deepest acc
        ⟨breaks ++ (List.replicate count ' ' ++ tail), m⟩ =
      some (deepest', acc ++ breaks, ⟨tail, m'⟩) ∧ m'.column = count := by
  induction breaks generalizing acc deepest m with
  | nil =>
    have spaces : ((List.replicate count ' ' ++ tail).take indent).takeWhile (· == ' ') =
        List.replicate count ' ' := by
      refine takeWhile_take_spaces shallow fun short c hc => ?_
      rintro rfl
      exact absurd (solid short _ hc) (by decide)
    have passed : (Cursor.mk (List.replicate count ' ' ++ tail) m).skip
        (List.replicate count ' ').length = ⟨tail, m.advance count⟩ := by
      simp [Cursor.skip]
    have reached : (m.advance count).column = count := by
      simp [Mark.advance, column]
    -- A tab would be an error only in front of the block's own indentation.
    rw [List.nil_append, blockBreaks?]
    simp only [column, Nat.sub_zero, spaces, passed, reached]
    cases tail with
    | nil => exact ⟨max deepest count, m.advance count, by simp, reached⟩
    | cons c tail =>
      have tab : ¬ ((decide (count < indent) && c = '\t') = true) := by
        simp only [Bool.and_eq_true, decide_eq_true_eq, not_and]
        rintro short rfl
        exact absurd (solid short _ rfl) (by decide)
      refine ⟨max deepest count, m.advance count, ?_, reached⟩
      simp only [if_neg tab, starts c rfl, Bool.false_eq_true, if_false, List.append_nil]
  | cons b breaks ih =>
    obtain ⟨line, lines⟩ := List.forall_mem_cons.1 lines
    obtain ⟨shown, printable⟩ := List.forall_mem_cons.1 printable
    obtain ⟨space, tab⟩ : b ≠ ' ' ∧ b ≠ '\t' := by
      simpa [isBlank] using isBlank_of_isBreak line
    have spaces : ((b :: (breaks ++ (List.replicate count ' ' ++ tail))).take indent).takeWhile
        (· == ' ') = [] := by
      cases indent with
      | zero => rfl
      | succ n => rw [List.take_succ_cons, List.takeWhile_cons_of_neg (by simpa using space)]
    obtain ⟨deepest', m', passed, reached⟩ := ih (m := m.newLine 1) lines printable
      (max deepest m.column) (acc ++ [b]) rfl
    refine ⟨deepest', m', ?_, reached⟩
    have stays : (Cursor.mk (b :: (breaks ++ (List.replicate count ' ' ++ tail))) m).skip
        ([] : List Char).length = ⟨b :: (breaks ++ (List.replicate count ' ' ++ tail)), m⟩ := rfl
    have shorter : (breaks ++ (List.replicate count ' ' ++ tail)).length <
        (b :: (breaks ++ (List.replicate count ' ' ++ tail))).length := Nat.lt_succ_self _
    rw [column] at passed
    rw [List.cons_append, blockBreaks?]
    simp only [column, Nat.sub_zero, spaces, stays, tab, decide_false, Bool.and_false,
      Bool.false_eq_true, if_false, line, if_true, breakLine_cons line shown, if_pos shorter]
    rw [passed, List.append_assoc, List.singleton_append]

/-- Where the indentation is not known, a line that starts with no gap shows it. -/
theorem blockBreaks?_shown {c : Char} (solid : isGap c = false) (column : m.column = 0)
    (count : Nat) (tail : List Char) :
    blockBreaks? none 0 [] ⟨List.replicate count ' ' ++ c :: tail, m⟩ =
      some (count, [], ⟨c :: tail, m.advance count⟩) := by
  obtain ⟨blank, line⟩ := Bool.or_eq_false_iff.1 solid
  have spaces : ((List.replicate count ' ' ++ c :: tail).take
      (List.replicate count ' ' ++ c :: tail).length).takeWhile (· == ' ') =
        List.replicate count ' ' := by
    rw [List.take_length]
    refine takeWhile_run (List.forall_mem_replicate.2 (.inr rfl)) fun d hd => ?_
    rw [← Option.some.inj hd]
    exact (Bool.or_eq_false_iff.1 blank).1
  have passed : (Cursor.mk (List.replicate count ' ' ++ c :: tail) m).skip
      (List.replicate count ' ').length = ⟨c :: tail, m.advance count⟩ := by
    simp [Cursor.skip]
  have tab : c ≠ '\t' := by
    rintro rfl
    cases blank
  have reached : max 0 (m.advance count).column = count := by
    simp [Mark.advance, column]
  rw [blockBreaks?]
  simp only [spaces, passed, reached, tab, decide_false, Bool.and_false, line,
    Bool.false_eq_true, if_false]

/-! ## Lines -/

theorem blockLines?_stop {b : Block} {literal : Bool} (column : m.column ≠ indent) :
    blockLines? literal indent b ⟨tail, m⟩ = some (b, ⟨tail, m⟩) := by
  rw [blockLines?]
  cases tail with
  | nil => rfl
  | cons c tail => simp [column]

/-- A line of a literal block goes behind what the lines before it have left. -/
theorem blockLines?_line {b : Block} {d : Char} (some_ : w ≠ [])
    (onLine : ∀ c ∈ w, isBreak c = false) (lines : ∀ c ∈ d :: breaks, isBreak c = true)
    (printable : ∀ c ∈ d :: breaks, isPrintable c = true) (shallow : count ≤ indent)
    (starts : ∀ c ∈ tail.head?, isBreak c = false)
    (solid : count < indent → ∀ c ∈ tail.head?, isGap c = false) (column : m.column = indent) :
    ∃ (startsBlank : Bool) (m' : Mark), blockLines? true indent b
        ⟨w ++ (d :: breaks ++ (List.replicate count ' ' ++ tail)), m⟩ =
      blockLines? true indent
        ⟨b.text ++ b.lineBreak ++ b.breaks ++ w, [d], breaks, startsBlank⟩ ⟨tail, m'⟩ ∧
        m'.column = count := by
  obtain ⟨c, w, rfl⟩ := List.exists_cons_of_ne_nil some_
  obtain ⟨line, lines⟩ := List.forall_mem_cons.1 lines
  obtain ⟨shown, printable⟩ := List.forall_mem_cons.1 printable
  generalize rest : List.replicate count ' ' ++ tail = after
  have taken : (Cursor.mk (c :: w ++ (d :: breaks ++ after)) m).span (!isBreak ·) =
      (c :: w, ⟨d :: breaks ++ after, m.advance (c :: w).length⟩) := by
    have whole : (c :: w ++ (d :: breaks ++ after)).takeWhile (!isBreak ·) = c :: w :=
      takeWhile_run (fun e he => by simpa using onLine e he) (by simpa using line)
    rw [Cursor.span, whole, Cursor.skip_append]
  obtain ⟨deepest, m', passed, reached⟩ := blockBreaks?_lines lines printable shallow starts solid
    0 [] (m := (m.advance (c :: w).length).newLine 1) rfl
  refine ⟨isBlank c, m', ?_, reached⟩
  have shorter : tail.length < (c :: w ++ (d :: breaks ++ after)).length := by
    rw [← rest]
    simp only [List.length_append, List.length_cons]
    omega
  rw [rest] at passed
  rw [blockLines?]
  simp only [List.cons_append] at taken shorter ⊢
  simp only [column, ne_eq, not_true_eq_false, if_false, taken, breakLine_cons line shown, passed,
    Bool.not_true, Bool.false_and, Bool.false_eq_true, List.nil_append, if_pos shorter]

/-- The lines of a text are gathered from the first of them on. -/
theorem blockLines?_text (some_ : cs ≠ []) (starts : ∀ c ∈ cs.head?, isBreak c = false)
    (printable : ∀ c ∈ cs, isPrintable c = true) (solid : ∀ c ∈ tail.head?, isGap c = false)
    (outer : count < indent) (b : Block) (column : m.column = indent) :
    ∃ b' m', blockLines? true indent b
        ⟨indentLines (List.replicate indent ' ') false cs ++
          (endLine cs ++ (List.replicate count ' ' ++ tail)), m⟩ = some (b', ⟨tail, m'⟩) ∧
      b'.text ++ (Chomp.ofText cs).kept b' = b.text ++ b.lineBreak ++ b.breaks ++ cs ∧
      m'.column = count := by
  have line : ∀ c ∈ tail.head?, isBreak c = false := fun c hc => isBreak_of_not_isGap (solid c hc)
  -- The breaks behind a line are left to the block, and only the next line puts them in the text.
  induction cs using runs_induct isBreak generalizing b m with
  | last w onLine =>
    have feed : ∀ c ∈ ['\n'], isBreak c = true := List.forall_mem_singleton.2 rfl
    obtain ⟨startsBlank, m', read, reached⟩ := blockLines?_line (b := b) some_ onLine feed
      (List.forall_mem_singleton.2 rfl) (Nat.le_of_lt outer) line (fun _ => solid) column
    have written : indentLines (List.replicate indent ' ') false w = w := indentLines_onLine onLine
    have ending : endLine w = ['\n'] :=
      endLine_of_solid fun c hc => onLine c (List.mem_of_getLast? hc)
    refine ⟨⟨b.text ++ b.lineBreak ++ b.breaks ++ w, ['\n'], [], startsBlank⟩, m', ?_, ?_, reached⟩
    · rw [written, ending]
      exact read.trans (blockLines?_stop (by omega))
    · rw [Chomp.ofText_line some_ onLine]
      exact List.append_nil _
  | step w g l onLine gaps lines behind ih =>
    obtain ⟨d, g, rfl⟩ := List.exists_cons_of_ne_nil gaps
    have shown : ∀ c ∈ d :: g, isPrintable c = true := fun c hc =>
      printable c (List.mem_append_right w (List.mem_append_left l hc))
    have first : w ≠ [] := by
      rintro rfl
      exact absurd (starts d rfl) (by simp [lines d List.mem_cons_self])
    have front : indentLines (List.replicate indent ' ') false (w ++ (d :: g ++ l)) =
        w ++ (d :: g ++ indentLines (List.replicate indent ' ') true l) := by
      rw [indentLines_line onLine, indentLines_breaks gaps lines]
    by_cases empty : l = []
    · -- The text ends in breaks, and chomping keeps them all.
      subst empty
      obtain ⟨startsBlank, m', read, reached⟩ := blockLines?_line (b := b) first onLine lines shown
        (Nat.le_of_lt outer) line (fun _ => solid) column
      have ending : endLine (w ++ (d :: g ++ [])) = [] := by
        rw [List.append_nil, endLine_append w gaps]
        exact endLine_of_break (fun c hc => lines c (List.mem_of_getLast? hc)) gaps
      refine ⟨⟨b.text ++ b.lineBreak ++ b.breaks ++ w, [d], g, startsBlank⟩, m', ?_, ?_, reached⟩
      · rw [front, ending]
        simp only [indentLines, List.append_nil, List.nil_append, List.append_assoc w]
        exact read.trans (blockLines?_stop (by omega))
      · rw [List.append_nil, Chomp.kept_breaks first onLine lines]
        exact List.append_assoc _ w (d :: g)
    · have ending : endLine (w ++ (d :: g ++ l)) = endLine l := by
        rw [← List.append_assoc, endLine_append _ empty]
      have chomp : Chomp.ofText (w ++ (d :: g ++ l)) = Chomp.ofText l := by
        rw [← List.append_assoc, Chomp.ofText_append _ empty behind]
      obtain ⟨startsBlank, m', read, reached⟩ := blockLines?_line (b := b) first onLine lines shown
        (Nat.le_refl indent) (head?_indentLines empty behind
          (endLine l ++ (List.replicate count ' ' ++ tail)))
        (fun short => absurd short (Nat.lt_irrefl _)) column
      obtain ⟨b', m'', others, text, end_⟩ := ih empty behind
        (fun c hc => printable c (by simp [hc]))
        ⟨b.text ++ b.lineBreak ++ b.breaks ++ w, [d], g, startsBlank⟩ reached
      refine ⟨b', m'', ?_, ?_, end_⟩
      · rw [front, ending, indentLines_starts empty behind]
        simp only [List.append_assoc] at read others ⊢
        exact read.trans others
      · rw [chomp, text]
        simp

/-- A block is what its header, the empty lines in front of it and its lines say. -/
theorem blockScalar?_eq_some (indent : Nat) {outer : Int} {chomp : Chomp} {given : Option Nat}
    {rest : List Char} {m₁ m' : Mark} {c : Cursor} {deepest : Nat} {b : Block}
    (header : blockHeader? ⟨rest, m⟩ = some (chomp, given, ⟨l, m₁⟩))
    (front : blockBreaks? (given.map fun n => (max outer 0).toNat + n) 0 [] ⟨l, m₁⟩ =
      some (deepest, breaks, c))
    (known : (given.map fun n => (max outer 0).toNat + n).getD
      (max (max deepest (outer + 1).toNat) 1) = indent)
    (lines : blockLines? true indent { breaks } c = some (b, ⟨tail, m'⟩)) :
    blockScalar? true outer ⟨rest, m⟩ = some ⟨b.text ++ chomp.kept b, ⟨tail, m'⟩, false⟩ := by
  rw [blockScalar?, header]
  simp only [front, known, lines]
  cases chomp <;> rfl

/-- A first line that starts with no gap shows the indentation. -/
theorem blockScalar?_shown {column : Nat} (some_ : cs ≠ []) (starts : hidesIndent cs = false)
    (printable : ∀ c ∈ cs, isPrintable c = true) (solid : ∀ c ∈ tail.head?, isGap c = false)
    (outer : count < column + 2) (m : Mark) :
    ∃ m', blockScalar? true column
        ⟨blockHints cs ++ '\n' :: (indentLines (List.replicate (column + 2) ' ') true cs ++
          (endLine cs ++ (List.replicate count ' ' ++ tail))), m⟩ =
      some ⟨cs, ⟨tail, m'⟩, false⟩ ∧ m'.column = count := by
  obtain ⟨m₁, header, start⟩ := blockHeader?_hint (hidesIndent cs) (Chomp.ofText cs)
    (indentLines (List.replicate (column + 2) ' ') true cs ++
      (endLine cs ++ (List.replicate count ' ' ++ tail))) m
  rw [← blockHints_eq, starts] at header
  obtain ⟨c, cs, rfl⟩ := List.exists_cons_of_ne_nil some_
  have shown : ¬ (c = ' ' ∨ isBreak c = true) := by simpa [hidesIndent] using starts
  have onLine : isBreak c = false := by simpa using (not_or.1 shown).2
  have first : isGap c = false :=
    isGap_of_isPrintable (printable c List.mem_cons_self) (not_or.1 shown).1 onLine
  have written : indentLines (List.replicate (column + 2) ' ') true (c :: cs) =
      List.replicate (column + 2) ' ' ++
        indentLines (List.replicate (column + 2) ' ') false (c :: cs) :=
    indentLines_starts some_ (by simpa using onLine)
  have head : indentLines (List.replicate (column + 2) ' ') false (c :: cs) =
      c :: indentLines (List.replicate (column + 2) ' ') false cs := by
    simp [indentLines, onLine]
  have front := blockBreaks?_shown first start (column + 2)
    (indentLines (List.replicate (column + 2) ' ') false cs ++
      (endLine (c :: cs) ++ (List.replicate count ' ' ++ tail)))
  obtain ⟨b, m', lines, text, reached⟩ := blockLines?_text some_ (by simpa using onLine) printable
    solid outer {} (m := m₁.advance (column + 2)) (by simp [Mark.advance, start])
  refine ⟨m', ?_, reached⟩
  rw [blockScalar?_eq_some (column + 2) header
    (by rw [written, head, List.append_assoc]; exact front)
    (by simp only [Bool.false_eq_true, if_false, Option.map_none, Option.getD_none]; omega)
    (by rw [← List.cons_append, ← head]; exact lines), text]
  rfl

/-- Where the header names the indentation, nothing depends on the first line: neither where there
are lines behind the breaks at the start nor where there are none. -/
theorem blockScalar?_hidden {column : Nat} (some_ : cs ≠ []) (hides : hidesIndent cs = true)
    (printable : ∀ c ∈ cs, isPrintable c = true) (solid : ∀ c ∈ tail.head?, isGap c = false)
    (outer : count < column + 2) (m : Mark) :
    ∃ m', blockScalar? true column
        ⟨blockHints cs ++ '\n' :: (indentLines (List.replicate (column + 2) ' ') true cs ++
          (endLine cs ++ (List.replicate count ' ' ++ tail))), m⟩ =
      some ⟨cs, ⟨tail, m'⟩, false⟩ ∧ m'.column = count := by
  obtain ⟨m₁, header, start⟩ := blockHeader?_hint (hidesIndent cs) (Chomp.ofText cs)
    (indentLines (List.replicate (column + 2) ' ') true cs ++
      (endLine cs ++ (List.replicate count ' ' ++ tail))) m
  rw [← blockHints_eq, hides] at header
  have given : ((if true = true then some 2 else none).map fun n =>
      (max (column : Int) 0).toNat + n) = some (column + 2) := by
    simp only [if_true, Option.map_some, Option.some.injEq]
    omega
  have known (other : Nat) : ((if true = true then some 2 else none).map fun n =>
      (max (column : Int) 0).toNat + n).getD other = column + 2 := by
    rw [given, Option.getD_some]
  obtain ⟨g, l, rfl, gap, starts⟩ := exists_run (!isBreak ·) cs
  have breaks : ∀ b ∈ g, isBreak b = true := fun b hb => by simpa using gap b hb
  have behind : ∀ c ∈ l.head?, isBreak c = false := fun c hc => by simpa using starts c hc
  have shown : ∀ b ∈ g, isPrintable b = true := fun b hb =>
    printable b (List.mem_append_left l hb)
  by_cases empty : l = []
  · subst empty
    rw [List.append_nil] at some_ header ⊢
    have written : indentLines (List.replicate (column + 2) ' ') true g = g :=
      indentLines_allBreaks some_ breaks
    have ending : endLine g = [] :=
      endLine_of_break (fun c hc => breaks c (List.mem_of_getLast? hc)) some_
    obtain ⟨deepest, m', front, reached⟩ := blockBreaks?_lines breaks shown (Nat.le_of_lt outer)
      (fun c hc => isBreak_of_not_isGap (solid c hc)) (fun _ => solid) 0 [] start
    refine ⟨m', ?_, reached⟩
    rw [blockScalar?_eq_some (column + 2) header (by rw [given, written, ending]; exact front)
      (known _) (blockLines?_stop (by omega)), Chomp.ofText_breaks some_ breaks]
    rfl
  · have written : indentLines (List.replicate (column + 2) ' ') true (g ++ l) =
        g ++ (List.replicate (column + 2) ' ' ++
          indentLines (List.replicate (column + 2) ' ') false l) := by
      rw [← indentLines_starts empty behind]
      by_cases none : g = []
      · rw [none]
        rfl
      · exact indentLines_breaks none breaks
    obtain ⟨deepest, m₂, front, start'⟩ := blockBreaks?_lines breaks shown
      (Nat.le_refl (column + 2)) (head?_indentLines empty behind
        (endLine l ++ (List.replicate count ' ' ++ tail)))
      (fun short => absurd short (Nat.lt_irrefl _)) 0 [] start
    obtain ⟨b, m', lines, text, reached⟩ := blockLines?_text empty behind
      (fun c hc => printable c (List.mem_append_right g hc)) solid outer { breaks := g } start'
    refine ⟨m', ?_, reached⟩
    rw [blockScalar?_eq_some (column + 2) header
      (by
        rw [given, written, endLine_append g empty]
        simpa only [List.append_assoc, List.nil_append] using front)
      (known _) lines, Chomp.ofText_append g empty behind, text]
    rfl

/-- A literal block is scanned as the text it was written for. -/
theorem blockScalar?_literal {column : Nat} (some_ : cs ≠ [])
    (printable : ∀ c ∈ cs, isPrintable c = true) (solid : ∀ c ∈ tail.head?, isGap c = false)
    (outer : count < column + 2) (m : Mark) :
    ∃ m', blockScalar? true column
        ⟨blockHints cs ++ '\n' :: (indentLines (List.replicate (column + 2) ' ') true cs ++
          (endLine cs ++ (List.replicate count ' ' ++ tail))), m⟩ =
      some ⟨cs, ⟨tail, m'⟩, false⟩ ∧ m'.column = count := by
  cases hides : hidesIndent cs with
  | false => exact blockScalar?_shown some_ hides printable solid outer m
  | true => exact blockScalar?_hidden some_ hides printable solid outer m

end NodeSettings.Yaml
