import NodeSettings.Document.Yaml
import NodeSettings.Proofs.Yaml.Scalars

/-!
From the text of a document to its tokens, `tokens?_yamlText`. The run is followed entry by entry: a
key up to its value, `Ready.run?_key`, a text under its key, `Ready.run?_text`, the texts of a group
and a group. What one entry leaves behind is where the next one starts.
-/

namespace NodeSettings.Yaml

open Document.Yaml (writeKey writeText writeTexts writeGroup)

/-- What is written for a text starts a token. -/
theorem exists_writeScalar (indent : Nat) (cs : List Char) : ∃ c w, writeScalar indent cs = c :: w ∧
    isGap c = false ∧ c ≠ '#' ∧ isByteOrderMark c = false := by
  cases style : Style.ofText cs with
  | plain =>
    have plain := isPlain_of_permits (Style.permits_plain style).1
    obtain ⟨c, w, rfl⟩ := List.exists_cons_of_ne_nil (ne_nil_of_plain style)
    have shown : isPrintable c = true := plain.printable c List.mem_cons_self
    refine ⟨c, w, writeScalar_plain style, plain.starts c rfl, ?_, ?_⟩
    · rintro rfl
      exact head?_ne_hash plain.marks rfl
    · rw [Bool.eq_false_iff]
      intro order
      simp [isPrintable, beq_iff_eq.1 order] at shown
  | singleQuoted => exact ⟨_, _, writeScalar_singleQuoted style, by decide⟩
  | doubleQuoted => exact ⟨_, _, writeScalar_doubleQuoted style, by decide⟩
  | literal => exact ⟨_, _, writeScalar_literal style, by decide⟩

theorem atToken_writeScalar (indent : Nat) (cs after : List Char) :
    AtToken (writeScalar indent cs ++ after) := by
  obtain ⟨c, w, written, start⟩ := exists_writeScalar indent cs
  rw [written]
  rintro d ⟨⟩
  exact start

/-! ## What is written -/

theorem atToken_colon (rest : List Char) : AtToken (':' :: rest) := by
  rintro c ⟨⟩
  decide

theorem atToken_writeKey (column : Nat) (key after : List Char) :
    AtToken (writeKey [] column key ++ after) := by
  simp only [Document.Yaml.writeKey]
  split
  · rw [List.nil_append, List.append_assoc]
    exact atToken_writeScalar (column + 2) key _
  · rintro c ⟨⟩
    decide

theorem writeText_append (front : List Char) (key text : String) (after : List Char) :
    writeText front key text ++ after = front ++ (writeKey [] 2 key.toList ++
      ' ' :: (writeScalar 4 text.toList ++ (endLine (writeScalar 4 text.toList) ++ after))) := by
  simp only [Document.Yaml.writeText, Document.Yaml.writeKey]
  split <;> simp

/-- What stands in front of the first text of a group does not count for the others. -/
theorem writeTexts_cons (front : List Char) (e : String × String) (es : List (String × String)) :
    writeTexts front (e :: es) = front ++ writeTexts [] (e :: es) := by
  simp only [Document.Yaml.writeTexts]
  rw [writeText_append, writeText_append]
  simp

theorem atToken_writeTexts (e : String × String) (es : List (String × String))
    (after : List Char) : AtToken (writeTexts [] (e :: es) ++ after) := by
  rw [Document.Yaml.writeTexts, writeText_append, List.nil_append, List.append_assoc]
  exact atToken_writeKey 2 e.1.toList _

theorem atToken_writeGroup (name : String) (t : Table String) (after : List Char) :
    AtToken (writeGroup name t ++ after) := by
  simp only [Document.Yaml.writeGroup, List.append_assoc]
  exact atToken_writeKey 0 name.toList _

theorem startsGap_group {name : List Char} {es : List (String × String)} (some_ : es ≠ [])
    (after : List Char) :
    startsGap ((if isSimpleKey name then '\n' :: writeTexts [' ', ' '] es
      else writeTexts [' '] es) ++ after) = true := by
  obtain ⟨e, es, rfl⟩ := List.exists_cons_of_ne_nil some_
  rw [writeTexts_cons [' ']]
  split <;> rfl

theorem isPrintable_endLine (scalar : List Char) : ∀ c ∈ endLine scalar, isPrintable c = true := by
  unfold endLine
  split <;> exact List.all_eq_true.1 rfl

theorem isPrintable_writeKey (column : Nat) (key : List Char) :
    ∀ c ∈ writeKey [] column key, isPrintable c = true := by
  have scalar := isPrintable_writeScalar (column + 2) key
  have spaces : ∀ c ∈ List.replicate column ' ', isPrintable c = true :=
    List.forall_mem_replicate.2 (.inr rfl)
  simp only [Document.Yaml.writeKey]
  split
  · simpa [or_imp, forall_and] using ⟨scalar, rfl⟩
  · simp only [List.nil_append, List.forall_mem_append]
    exact ⟨⟨⟨⟨List.all_eq_true.1 rfl, scalar⟩, isPrintable_endLine _⟩, spaces⟩,
      List.forall_mem_singleton.2 rfl⟩

theorem isPrintable_writeTexts {front : List Char} (front_ : ∀ c ∈ front, isPrintable c = true)
    (es : List (String × String)) : ∀ c ∈ writeTexts front es, isPrintable c = true := by
  induction es generalizing front with
  | nil => simp [Document.Yaml.writeTexts]
  | cons e es ih =>
    rw [Document.Yaml.writeTexts, writeText_append]
    simp only [List.forall_mem_append, List.forall_mem_cons]
    exact ⟨front_, isPrintable_writeKey 2 e.1.toList, rfl, isPrintable_writeScalar 4 e.2.toList,
      isPrintable_endLine _, ih (List.all_eq_true.1 rfl)⟩

theorem isPrintable_writeGroup (name : String) (t : Table String) :
    ∀ c ∈ writeGroup name t, isPrintable c = true := by
  simp only [Document.Yaml.writeGroup, List.forall_mem_append]
  refine ⟨isPrintable_writeKey 0 name.toList, ?_⟩
  split
  · exact List.all_eq_true.1 rfl
  split
  · exact List.forall_mem_cons.2 ⟨rfl, isPrintable_writeTexts (List.all_eq_true.1 rfl) _⟩
  · exact isPrintable_writeTexts (List.forall_mem_singleton.2 rfl) _

/-! ## The tokens of entries -/

/-- The tokens of a text under its key. -/
def textTokens (e : String × String) : List Token :=
  [.key, scalarToken e.1.toList, .value, scalarToken e.2.toList]

/-- The tokens of a group under its name. -/
def groupTokens (g : String × Table String) : List Token :=
  [.key, scalarToken g.1.toList, .value] ++
    if g.2.entries.isEmpty then [.flowMappingStart, .flowMappingEnd]
    else [.blockMappingStart] ++ g.2.entries.flatMap textTokens ++ [.blockEnd]

/-- The tokens of a document that is not empty. -/
def documentTokens (d : Document) : List Token :=
  .blockMappingStart :: (d.entries.flatMap groupTokens ++ [.blockEnd])

namespace Scanner

variable {key rest : List Char} {m : Mark} {tokens : List Token} {indents : List Nat}
  {s : Scanner} {column count : Nat}

/-! ## Keys -/

/-- A text behind a space is scanned up to the next token, on a line of its own. -/
theorem run?_scalar (m : Mark) (tokens : List Token) (keyAllowed : Bool)
    (mapping : indents.head? = some column) (inside : column ≤ m.column)
    (outer : count ≤ column) (atToken : AtToken rest) (cs : List Char) :
    ∃ next m', (inBlock (' ' :: (writeScalar (column + 2) cs ++
        (endLine (writeScalar (column + 2) cs) ++ (List.replicate count ' ' ++ rest)))) m tokens
        indents keyAllowed none).run? = next.run? ∧ m'.column = count ∧
      Ready next rest m'
        (tokens ++ [scalarToken cs] ++ List.replicate (closedAt count indents) .blockEnd)
        (indents.drop (closedAt count indents)) true none := by
  have deeper : column < (m.advance 1).column := Nat.lt_succ_of_le inside
  have start := atToken_writeScalar (column + 2) cs
    (endLine (writeScalar (column + 2) cs) ++ (List.replicate count ' ' ++ rest))
  obtain ⟨next, m', fetched, skipped, place, le, shorter⟩ :=
    scansTo_scalar tokens keyAllowed mapping atToken deeper outer cs
  obtain ⟨c, w, written, -⟩ := exists_writeScalar (column + 2) cs
  refine ⟨next, m', (Ready.of_spaces start 1 fun i hi =>
    (lt_of_mapping mapping deeper i hi).le).run? ?_ fetched shorter, place, ?_⟩
  · rw [written]
    exact List.cons_ne_nil _ _
  · rw [← place]
    exact .of_skip skipped le

/-- A simple key is scanned with its colon, which makes a key of it. -/
theorem Ready.run?_simpleKey (simple : isSimpleKey key = true) (gap : startsGap rest = true)
    (inside : ∀ i ∈ indents.head?, i ≤ m.column)
    (ready : Ready s (writeScalar (column + 2) key ++ ':' :: rest) m tokens indents true none) :
    ∃ m', s.run? = (inBlock rest m'
        (tokens ++ ((openedAt m.column indents).1 ++ [.key, scalarToken key, .value]))
        (openedAt m.column indents).2 false none).run? ∧ m.column < m'.column := by
  have fetched := fetch?_scalar_colon tokens true simple inside
    (Nat.succ_pos (column + 1)) gap
  obtain ⟨c, w, written, -⟩ := exists_writeScalar (column + 2) key
  have size := length_writeScalar_le (column + 2) simple
  generalize writeScalar (column + 2) key = scalar at written size fetched ready
  have far : m.column < (m.advance scalar.length).column := by
    rw [written]
    simp [Mark.advance]
  have shorter : (':' :: rest).length < (scalar ++ ':' :: rest).length := by
    rw [written]
    simp only [List.length_append, List.length_cons]
    omega
  rw [ready.run? (by simp [written]) fetched shorter]
  -- At the colon the key is still pending: it is on this line and not far back.
  have behind : Ready (inBlock (':' :: rest) (m.advance scalar.length) (tokens ++ [scalarToken key])
      indents false (savedKey m tokens indents true)) (':' :: rest) (m.advance scalar.length)
        (tokens ++ [scalarToken key]) indents false (savedKey m tokens indents true) := by
    refine .of_skip_inside ?_ (Nat.le_refl _) fun i hi => Nat.le_trans (inside i hi) far.le
    rw [skipToToken_atToken (atToken_colon rest)]
    exact dropStaleKeys?_near rfl (by simp only [Mark.advance]; omega)
  rw [behind.run? (List.cons_ne_nil _ _) ((fetch?_colon gap).trans (value?_key rfl inside))
    (Nat.lt_succ_self _)]
  exact ⟨_, rfl, far.trans (Nat.lt_succ_self _)⟩

/-- A long key is scanned behind its mark, and its colon stands on a line of its own. -/
theorem Ready.run?_longKey (gap : startsGap rest = true) (inside : ∀ i ∈ indents.head?, i ≤ column)
    (ready : Ready s ('?' :: ' ' :: (writeScalar (column + 2) key ++
      (endLine (writeScalar (column + 2) key) ++ (List.replicate column ' ' ++ ':' :: rest)))) m
      tokens indents true none) (place : m.column = column) :
    ∃ m', s.run? = (inBlock rest m'
        (tokens ++ ((openedAt column indents).1 ++ [.key, scalarToken key, .value]))
        (openedAt column indents).2 true none).run? ∧ m'.column = column + 1 := by
  subst place
  have mapping := head?_openedAt m.column indents
  rw [ready.run? (List.cons_ne_nil _ _) (Eq.trans (fetch?_question rfl) (marked?_key inside))
    (Nat.lt_succ_self _)]
  obtain ⟨next, m', step, place, ready'⟩ := run?_scalar (m.advance 1)
    (tokens ++ ((openedAt m.column indents).1 ++ [.key])) true mapping (Nat.le_add_right _ _)
    (Nat.le_refl _) (atToken_colon rest) key
  -- The colon stands at the column of the block, which therefore stays open.
  have stays : closedAt m.column (openedAt m.column indents).2 = 0 :=
    closedAt_of_le fun i hi => by
      rw [mapping, Option.mem_some_iff] at hi
      exact hi.ge
  rw [stays, List.drop_zero, List.replicate_zero, List.append_nil] at ready'
  rw [step, ready'.run? (List.cons_ne_nil _ _)
    ((fetch?_colon gap).trans (value?_none (mapping.trans (by rw [place])))) (Nat.lt_succ_self _)]
  refine ⟨m'.advance 1, ?_, congrArg (· + 1) place⟩
  simp

/-- A key is scanned up to its value. Behind a long key another one may follow at once. -/
theorem Ready.run?_key (gap : startsGap rest = true) (inside : ∀ i ∈ indents.head?, i ≤ column)
    (ready : Ready s (writeKey [] column key ++ rest) m tokens indents true none)
    (place : m.column = column) :
    ∃ m' keyAllowed, s.run? = (inBlock rest m'
        (tokens ++ ((openedAt column indents).1 ++ [.key, scalarToken key, .value]))
        (openedAt column indents).2 keyAllowed none).run? ∧ column < m'.column ∧
      (isSimpleKey key = false → keyAllowed = true ∧ m'.column = column + 1) := by
  unfold Document.Yaml.writeKey at ready
  cases simple : isSimpleKey key with
  | true =>
    subst place
    obtain ⟨m', step, far⟩ := Ready.run?_simpleKey simple gap inside
      (by simpa [simple] using ready)
    exact ⟨m', false, step, far, fun long => by cases long⟩
  | false =>
    obtain ⟨m', step, place'⟩ := Ready.run?_longKey gap inside (by simpa [simple] using ready) place
    exact ⟨m', true, step, by omega, fun _ => ⟨rfl, place'⟩⟩

/-! ## Texts -/

/-- A text is scanned with its key. -/
theorem Ready.run?_text {e : String × String} (inside : ∀ i ∈ indents.head?, i ≤ 2)
    (outer : count ≤ 2) (atToken : AtToken rest)
    (ready : Ready s (writeText [] e.1 e.2 ++ (List.replicate count ' ' ++ rest)) m tokens indents
      true none) (place : m.column = 2) :
    ∃ next m', s.run? = next.run? ∧ m'.column = count ∧
      Ready next rest m' (tokens ++ ((openedAt 2 indents).1 ++ textTokens e) ++
          List.replicate (closedAt count (openedAt 2 indents).2) .blockEnd)
        ((openedAt 2 indents).2.drop (closedAt count (openedAt 2 indents).2)) true none := by
  rw [writeText_append, List.nil_append] at ready
  obtain ⟨m₁, keyAllowed, keyed, far, -⟩ := ready.run?_key (by rfl) inside place
  obtain ⟨next, m', step, place', ready'⟩ := run?_scalar m₁
    (tokens ++ ((openedAt 2 indents).1 ++ [.key, scalarToken e.1.toList, .value])) keyAllowed
    (head?_openedAt 2 indents) far.le outer atToken e.2.toList
  refine ⟨next, m', keyed.trans step, place', ?_⟩
  simpa [textTokens] using ready'

/-- The texts of a group are scanned one after another, and the block of the group is closed. -/
theorem Ready.run?_texts {es : List (String × String)} (some_ : es ≠ []) (atToken : AtToken rest)
    (block : indents = [0] ∨ indents = [2, 0])
    (ready : Ready s (writeTexts [] es ++ rest) m tokens indents true none)
    (place : m.column = 2) :
    ∃ next m', s.run? = next.run? ∧ m'.column = 0 ∧
      Ready next rest m'
        (tokens ++ ((openedAt 2 indents).1 ++ es.flatMap textTokens ++ [.blockEnd])) [0] true
        none := by
  have inside : ∀ i ∈ indents.head?, i ≤ 2 := by
    rcases block with rfl | rfl <;> rintro i ⟨⟩ <;> decide
  have opened : (openedAt 2 indents).2 = [2, 0] := by
    rcases block with rfl | rfl <;> rfl
  induction es generalizing s m tokens indents with
  | nil => exact absurd rfl some_
  | cons e es ih =>
    cases es with
    | nil =>
      obtain ⟨next, m', step, place', ready'⟩ := Ready.run?_text (e := e) inside
        (Nat.zero_le 2) atToken (by simpa [Document.Yaml.writeTexts] using ready) place
      refine ⟨next, m', step, place', ?_⟩
      rw [opened] at ready'
      simpa [closedAt] using ready'
    | cons e' es =>
      have written : writeTexts [] (e :: e' :: es) ++ rest =
          writeText [] e.1 e.2 ++ (List.replicate 2 ' ' ++ (writeTexts [] (e' :: es) ++ rest)) := by
        rw [Document.Yaml.writeTexts, writeTexts_cons, List.append_assoc, List.append_assoc]
        rfl
      rw [written] at ready
      obtain ⟨next, m', step, place', ready'⟩ := Ready.run?_text (e := e) inside (Nat.le_refl 2)
        (atToken_writeTexts e' es rest) ready place
      rw [opened, show closedAt 2 [2, 0] = 0 from rfl, List.replicate_zero, List.append_nil,
        List.drop_zero] at ready'
      obtain ⟨last, m'', steps, place'', ready''⟩ := ih (List.cons_ne_nil e' es) (.inr rfl) ready'
        place' (by decide) rfl
      refine ⟨last, m'', step.trans steps, place'', ?_⟩
      simpa [openedAt] using ready''

/-! ## Groups -/

/-- An empty group is a pair of braces behind its name. -/
theorem run?_emptyGroup (m : Mark) (tokens : List Token) (keyAllowed : Bool)
    (atToken : AtToken rest) :
    ∃ next m', (inBlock (' ' :: '\x7b' :: '\x7d' :: '\n' :: rest) m tokens [0] keyAllowed
        none).run? = Scanner.run? next ∧ m'.column = 0 ∧
      Ready next rest m' (tokens ++ [.flowMappingStart, .flowMappingEnd]) [0] true none := by
  have atBrace : AtToken ('\x7b' :: '\x7d' :: '\n' :: rest) := by
    rintro c ⟨⟩
    decide
  have ready : Ready (inBlock (' ' :: '\x7b' :: '\x7d' :: '\n' :: rest) m tokens [0] keyAllowed
      none) ('\x7b' :: '\x7d' :: '\n' :: rest) (m.advance 1) tokens [0] keyAllowed none :=
    .of_spaces atBrace 1 (by simp)
  have free : Free ((m.advance 1).advance 2) (savedKey (m.advance 1) tokens [0] keyAllowed) :=
    free_savedKey (by simp [Mark.advance]) (Nat.le_refl _)
  exact ⟨_, _, ready.run?_braces, Nat.zero_add 0, .of_line atToken 0 free (by simp)⟩

/-- The texts of a group stand on the lines behind a simple name, and right behind a long one. -/
theorem Ready.of_group (rest : List Char) (tokens : List Token) {name : List Char}
    {keyAllowed : Bool} {es : List (String × String)} (some_ : es ≠ [])
    (long : isSimpleKey name = false → keyAllowed = true ∧ m.column = 1) :
    ∃ m', Ready (inBlock ((if isSimpleKey name then '\n' :: writeTexts [' ', ' '] es
        else writeTexts [' '] es) ++ rest) m tokens [0] keyAllowed none)
      (writeTexts [] es ++ rest) m' tokens [0] true none ∧ m'.column = 2 := by
  obtain ⟨e, es, rfl⟩ := List.exists_cons_of_ne_nil some_
  have atToken := atToken_writeTexts e es rest
  cases simple : isSimpleKey name with
  | true =>
    refine ⟨(m.newLine 1).advance 2, ?_, rfl⟩
    rw [if_pos rfl, writeTexts_cons]
    exact .of_line atToken 2 (fun k hk => by cases hk) (by simp)
  | false =>
    obtain ⟨rfl, place⟩ := long simple
    refine ⟨m.advance 1, ?_, congrArg (· + 1) place⟩
    rw [if_neg Bool.false_ne_true, writeTexts_cons]
    exact .of_spaces atToken 1 (by simp)

/-- A group is scanned with its texts. -/
theorem Ready.run?_group {g : String × Table String} (block : indents = [] ∨ indents = [0])
    (atToken : AtToken rest)
    (ready : Ready s (writeGroup g.1 g.2 ++ rest) m tokens indents true none)
    (place : m.column = 0) :
    ∃ next m', s.run? = next.run? ∧ m'.column = 0 ∧
      Ready next rest m' (tokens ++ ((openedAt 0 indents).1 ++ groupTokens g)) [0] true none := by
  have inside : ∀ i ∈ indents.head?, i ≤ 0 := by
    rcases block with rfl | rfl <;> simp
  have opened : (openedAt 0 indents).2 = [0] := by
    rcases block with rfl | rfl <;> rfl
  simp only [Document.Yaml.writeGroup, List.append_assoc] at ready
  cases empty : g.2.entries.isEmpty with
  | true =>
    rw [empty, if_pos rfl] at ready
    obtain ⟨m₁, keyAllowed, keyed, -, -⟩ := ready.run?_key (by rfl) inside place
    rw [opened] at keyed
    obtain ⟨next, m', step, place', ready'⟩ := run?_emptyGroup m₁
      (tokens ++ ((openedAt 0 indents).1 ++ [.key, scalarToken g.1.toList, .value])) keyAllowed
      atToken
    refine ⟨next, m', keyed.trans step, place', ?_⟩
    simpa [groupTokens, empty] using ready'
  | false =>
    have some_ : g.2.entries ≠ [] := by simpa using empty
    rw [empty, if_neg Bool.false_ne_true] at ready
    obtain ⟨m₁, keyAllowed, keyed, -, long⟩ := ready.run?_key (startsGap_group some_ rest) inside
      place
    rw [opened] at keyed
    obtain ⟨m₂, ready₂, place₂⟩ := Ready.of_group rest
      (tokens ++ ((openedAt 0 indents).1 ++ [.key, scalarToken g.1.toList, .value])) some_ long
    obtain ⟨next, m', steps, place', ready'⟩ := ready₂.run?_texts some_ atToken (.inl rfl) place₂
    refine ⟨next, m', keyed.trans steps, place', ?_⟩
    simpa [groupTokens, empty, openedAt] using ready'

/-- All groups are scanned, and the block of the document is closed at the end. -/
theorem Ready.run?_groups {gs : List (String × Table String)} (some_ : gs ≠ [])
    (block : indents = [] ∨ indents = [0])
    (ready : Ready s (gs.flatMap fun g => writeGroup g.1 g.2) m tokens indents true none)
    (place : m.column = 0) :
    s.run? =
      some (tokens ++ ((openedAt 0 indents).1 ++ gs.flatMap groupTokens ++ [.blockEnd])) := by
  induction gs generalizing s m tokens indents with
  | nil => exact absurd rfl some_
  | cons g gs ih =>
    cases gs with
    | nil =>
      have ends : AtToken [] := fun c hc => by cases hc
      obtain ⟨next, m', step, -, ready'⟩ := Ready.run?_group (g := g) block ends
        (by simpa using ready) place
      rw [step, ready'.run?_nil]
      simp
    | cons g' gs =>
      have written : (g :: g' :: gs).flatMap (fun g => writeGroup g.1 g.2) = writeGroup g.1 g.2 ++
          (writeGroup g'.1 g'.2 ++ gs.flatMap fun g => writeGroup g.1 g.2) := rfl
      rw [written] at ready
      obtain ⟨next, m', step, place', ready'⟩ := Ready.run?_group block
        (atToken_writeGroup g'.1 g'.2 _) ready place
      rw [step, ih (List.cons_ne_nil g' gs) (.inr rfl) ready' place']
      simp [openedAt]

end Scanner

/-! ## Documents -/

/-- The tokens of a document are those of its groups. -/
theorem tokens?_yamlText {d : Document} (some_ : d.entries ≠ []) :
    tokens? d.yamlText.toList = some (documentTokens d) := by
  have text : d.yamlText.toList = d.entries.flatMap fun g => writeGroup g.1 g.2 := by
    rw [Document.yamlText, if_neg (by simpa using some_), String.toList_ofList]
  have permitted : (d.entries.flatMap fun g => writeGroup g.1 g.2).all isPermitted = true := by
    refine List.all_eq_true.2 fun c hc => ?_
    obtain ⟨g, -, hc⟩ := List.mem_flatMap.1 hc
    exact isPermitted_of_isPrintable (isPrintable_writeGroup g.1 g.2 c hc)
  have atToken : AtToken (d.entries.flatMap fun g => writeGroup g.1 g.2) := by
    obtain ⟨g, gs, same⟩ := List.exists_cons_of_ne_nil some_
    rw [same]
    exact atToken_writeGroup g.1 g.2 _
  rw [text, tokens?, if_pos permitted]
  exact Scanner.Ready.run?_groups some_ (.inl rfl) (.of_spaces atToken 0 (by simp)) rfl

/-- Those of an empty one are a pair of braces. -/
theorem tokens?_braces :
    tokens? "\x7b\x7d\n".toList = some [.flowMappingStart, .flowMappingEnd] := by
  have atBrace : AtToken ['\x7b', '\x7d', '\n'] := by
    rintro c ⟨⟩
    decide
  have ready : Scanner.Ready (Scanner.inBlock ['\x7b', '\x7d', '\n'] .start [] [] true none)
      ['\x7b', '\x7d', '\n'] .start [] [] true none := .of_spaces atBrace 0 (by simp)
  have ends : AtToken [] := fun c hc => by cases hc
  have free : Scanner.Free (Mark.start.advance 2) (Scanner.savedKey .start [] [] true) :=
    Scanner.free_savedKey (by simp) (Nat.le_refl _)
  exact ready.run?_braces.trans (Scanner.Ready.run?_nil (.of_line ends 0 free (by simp)))

end NodeSettings.Yaml
