import NodeSettings.Proofs.Yaml.Gaps
import NodeSettings.Yaml.Scanner

/-!
How the scanner goes from token to token through the blocks of a text. `Scanner.inBlock` is the
scanner outside brackets; `Scanner.Ready` says at which token it stands next, once gaps are passed,
stale keys are dropped and blocks are closed. One token is one step of a run: `Ready.run?`.
-/

namespace NodeSettings.Yaml

/-- A text is at its end or at a token: at no gap, no comment and no byte order mark. -/
def AtToken (rest : List Char) : Prop :=
  ∀ c ∈ rest.head?, isGap c = false ∧ c ≠ '#' ∧ isByteOrderMark c = false

theorem AtToken.not_isBreak {rest : List Char} (atToken : AtToken rest) :
    (rest.head?).any isBreak = false := by
  rw [Option.any_eq_false]
  exact fun c hc => by simpa using isBreak_of_not_isGap (atToken c hc).1

namespace Scanner

/-- The scanner outside brackets, in a text without anchors. -/
def inBlock (rest : List Char) (mark : Mark) (tokens : List Token) (indents : List Nat)
    (keyAllowed : Bool) (key : Option PendingKey) : Scanner :=
  { cursor := ⟨rest, mark⟩, tokens := tokens.toArray, indents, keyAllowed, keys := [key] }

variable {rest : List Char} {m : Mark} {tokens : List Token} {indents : List Nat}
  {keyAllowed : Bool} {key : Option PendingKey} {s : Scanner} {count : Nat}

section InBlock

@[simp] theorem inBlock_cursor :
    (inBlock rest m tokens indents keyAllowed key).cursor = ⟨rest, m⟩ := rfl

@[simp] theorem inBlock_tokens :
    (inBlock rest m tokens indents keyAllowed key).tokens = tokens.toArray := rfl

@[simp] theorem inBlock_inFlow :
    (inBlock rest m tokens indents keyAllowed key).inFlow = false := rfl

@[simp] theorem inBlock_keyAllowed :
    (inBlock rest m tokens indents keyAllowed key).keyAllowed = keyAllowed := rfl

@[simp] theorem inBlock_keys :
    (inBlock rest m tokens indents keyAllowed key).keys = [key] := rfl

@[simp] theorem inBlock_indents :
    (inBlock rest m tokens indents keyAllowed key).indents = indents := rfl

theorem inBlock_push (t : Token) : (inBlock rest m tokens indents keyAllowed key).push t =
    inBlock rest m (tokens ++ [t]) indents keyAllowed key := by
  simp [push, inBlock]

theorem inBlock_skip (w : List Char) :
    (inBlock (w ++ rest) m tokens indents keyAllowed key).skip w.length =
      inBlock rest (m.advance w.length) tokens indents keyAllowed key := by
  simp [skip, inBlock, Cursor.skip_append]

end InBlock

/-! ## Gaps between tokens -/

theorem afterBlanks_spaces (count : Nat) (m : Mark)
    (stops : ∀ c ∈ rest.head?, isBlank c = false ∧ c ≠ '#' ∧ isByteOrderMark c = false) :
    (inBlock (List.replicate count ' ' ++ rest) m tokens indents keyAllowed key).afterBlanks =
      ⟨rest, m.advance count⟩ := by
  have noMark : ((List.replicate count ' ' ++ rest).head?).any isByteOrderMark = false := by
    rw [Option.any_eq_false]
    intro c hc
    cases count with
    | zero => simpa using (stops c hc).2.2
    | succ n =>
      obtain rfl : ' ' = c := Option.some.inj hc
      decide
  have passed : (List.replicate count ' ' ++ rest).takeWhile
      (fun d => d == ' ' || (d == '\t' && (false || !keyAllowed))) = List.replicate count ' ' := by
    refine takeWhile_run (List.forall_mem_replicate.2 (.inr rfl)) fun c hc => ?_
    have solid := (stops c hc).1
    simp only [isBlank, Bool.or_eq_false_iff] at solid
    rw [solid.1, solid.2, Bool.false_and, Bool.or_false]
  have comment : (rest.head? == some '#') = false := by
    rw [beq_eq_false_iff_ne]
    exact fun hash => (stops '#' hash).2.1 rfl
  have reached : (Cursor.mk (List.replicate count ' ' ++ rest) m).skip
      (List.replicate count ' ').length = ⟨rest, m.advance count⟩ := by
    simp [Cursor.skip]
  unfold afterBlanks Cursor.skipWhile Cursor.span
  simp only [inBlock_cursor, inBlock_inFlow, inBlock_keyAllowed, noMark, Bool.and_false,
    Bool.false_eq_true, if_false, passed, reached, comment]

/-- The spaces in front of a token are passed. -/
theorem skipToToken_spaces (atToken : AtToken rest) (count : Nat) :
    (inBlock (List.replicate count ' ' ++ rest) m tokens indents keyAllowed key).skipToToken =
      inBlock rest (m.advance count) tokens indents keyAllowed key := by
  rw [skipToToken, afterBlanks_spaces count m fun c hc =>
    ⟨(Bool.or_eq_false_iff.1 (atToken c hc).1).1, (atToken c hc).2⟩, atToken.not_isBreak]
  rfl

theorem skipToToken_atToken (atToken : AtToken rest) :
    (inBlock rest m tokens indents keyAllowed key).skipToToken =
      inBlock rest m tokens indents keyAllowed key :=
  skipToToken_spaces atToken 0

/-- A line break is passed with the indentation of the next line, where a key may begin. -/
theorem skipToToken_line (atToken : AtToken rest) (count : Nat) :
    (inBlock ('\n' :: (List.replicate count ' ' ++ rest)) m tokens indents keyAllowed
      key).skipToToken =
        inBlock rest ((m.newLine 1).advance count) tokens indents true key := by
  have stays : (inBlock ('\n' :: (List.replicate count ' ' ++ rest)) m tokens indents keyAllowed
      key).afterBlanks = ⟨'\n' :: (List.replicate count ' ' ++ rest), m⟩ :=
    afterBlanks_spaces 0 m (by rintro c ⟨⟩; decide)
  have next : (inBlock (List.replicate count ' ' ++ rest) (m.newLine 1) tokens indents true
      key).skipToToken = inBlock rest ((m.newLine 1).advance count) tokens indents true key :=
    skipToToken_spaces atToken count
  rw [skipToToken, stays, breakLine_cons rfl rfl, ← next]
  simp [inBlock, isBreak, inFlow]

/-! ## Stale keys and closed blocks -/

/-- A key on an earlier line is given up. -/
theorem dropStaleKeys?_line {k : PendingKey} (free : k.required = false)
    (line : k.mark.line < m.line) :
    (inBlock rest m tokens indents keyAllowed (some k)).dropStaleKeys? =
      some (inBlock rest m tokens indents keyAllowed none) := by
  simp [dropStaleKeys?, inBlock, free, line]

/-- A key not far back on the same line is kept. -/
theorem dropStaleKeys?_near {k : PendingKey} (line : k.mark.line = m.line)
    (near : m.index ≤ k.mark.index + 1024) :
    (inBlock rest m tokens indents keyAllowed (some k)).dropStaleKeys? =
      some (inBlock rest m tokens indents keyAllowed (some k)) := by
  have far : ¬ k.mark.index + 1024 < m.index := Nat.not_lt.2 near
  simp [dropStaleKeys?, inBlock, line, far]

/-- How many of the open blocks are closed at a column. -/
def closedAt (column : Nat) (indents : List Nat) : Nat :=
  (indents.takeWhile (column < ·)).length

theorem closedAt_of_le {column : Nat} (le : ∀ i ∈ indents.head?, i ≤ column) :
    closedAt column indents = 0 := by
  cases indents with
  | nil => rfl
  | cons i indents =>
    have stays : ¬ column < i := Nat.not_lt.2 (le i rfl)
    simp [closedAt, stays]

theorem closeBlocks_inBlock (column : Nat) :
    (inBlock rest m tokens indents keyAllowed key).closeBlocks column =
      inBlock rest m (tokens ++ List.replicate (closedAt column indents) .blockEnd)
        (indents.drop (closedAt column indents)) keyAllowed key := by
  simp [closeBlocks, inBlock, inFlow, closedAt]

/-! ## One token of a run -/

/-- The scanner stands at a token next: once gaps are passed, keys dropped and blocks closed. -/
structure Ready (s : Scanner) (rest : List Char) (m : Mark) (tokens : List Token)
    (indents : List Nat) (keyAllowed : Bool) (key : Option PendingKey) : Prop where
  reached : ∃ tokens₀ indents₀,
    s.skipToToken.dropStaleKeys? = some (inBlock rest m tokens₀ indents₀ keyAllowed key) ∧
      tokens = tokens₀ ++ List.replicate (closedAt m.column indents₀) .blockEnd ∧
      indents = indents₀.drop (closedAt m.column indents₀)
  le : rest.length ≤ s.cursor.rest.length

namespace Ready

theorem of_skip (skipped : s.skipToToken.dropStaleKeys? =
      some (inBlock rest m tokens indents keyAllowed key))
    (le : rest.length ≤ s.cursor.rest.length) :
    Ready s rest m (tokens ++ List.replicate (closedAt m.column indents) .blockEnd)
      (indents.drop (closedAt m.column indents)) keyAllowed key :=
  ⟨⟨tokens, indents, skipped, rfl, rfl⟩, le⟩

theorem of_skip_inside (skipped : s.skipToToken.dropStaleKeys? =
      some (inBlock rest m tokens indents keyAllowed key))
    (le : rest.length ≤ s.cursor.rest.length) (inside : ∀ i ∈ indents.head?, i ≤ m.column) :
    Ready s rest m tokens indents keyAllowed key := by
  simpa [closedAt_of_le inside] using of_skip skipped le

/-- The token there is scanned, and the run goes on behind it. -/
theorem run? (ready : Ready s rest m tokens indents keyAllowed key) (some_ : rest ≠ [])
    {next : Scanner}
    (fetched : (inBlock rest m tokens indents keyAllowed key).fetch? = some next)
    (shorter : next.cursor.rest.length < rest.length) : s.run? = next.run? := by
  obtain ⟨⟨tokens₀, indents₀, skipped, rfl, rfl⟩, le⟩ := ready
  have more : rest.isEmpty = false := by simpa using some_
  rw [Scanner.run?, skipped]
  simp only [inBlock_cursor, more, Bool.false_eq_true, if_false, closeBlocks_inBlock, fetched,
    if_pos (Nat.lt_of_lt_of_le shorter le)]

/-- At the end of the text all blocks are closed. -/
theorem run?_nil (ready : Ready s [] m tokens indents keyAllowed none) :
    s.run? = some (tokens ++ List.replicate indents.length .blockEnd) := by
  obtain ⟨⟨tokens₀, indents₀, skipped, rfl, rfl⟩, le⟩ := ready
  -- Some blocks were counted as closed at this column; the end closes the rest of them.
  have all : indents₀.takeWhile (fun (n : Nat) => decide (-1 < (n : Int))) = indents₀ :=
    List.takeWhile_eq_self_iff.2 fun n _ => by
      rw [decide_eq_true_eq]
      omega
  have count : closedAt m.column indents₀ + (indents₀.length - closedAt m.column indents₀) =
      indents₀.length :=
    Nat.add_sub_cancel' (List.takeWhile_prefix _).length_le
  rw [Scanner.run?, skipped]
  simp [closeBlocks, inBlock, inFlow, all, dropKey?, List.replicate_append_replicate, count]

end Ready

/-- A pending key that is given up at the end of its line. -/
def Free (m : Mark) (key : Option PendingKey) : Prop :=
  ∀ k ∈ key, k.required = false ∧ k.mark.line ≤ m.line

theorem dropStaleKeys?_free {m' : Mark} (free : Free m' key) (line : m'.line < m.line) :
    (inBlock rest m tokens indents keyAllowed key).dropStaleKeys? =
      some (inBlock rest m tokens indents keyAllowed none) := by
  cases key with
  | none => rfl
  | some k =>
    obtain ⟨required, le⟩ := free k rfl
    exact dropStaleKeys?_line required (Nat.lt_of_le_of_lt le line)

theorem Ready.of_spaces (atToken : AtToken rest) (count : Nat)
    (inside : ∀ i ∈ indents.head?, i ≤ m.column + count) :
    Ready (inBlock (List.replicate count ' ' ++ rest) m tokens indents keyAllowed none) rest
      (m.advance count) tokens indents keyAllowed none := by
  refine .of_skip_inside ?_ (by simp) inside
  rw [skipToToken_spaces atToken]
  rfl

theorem Ready.of_line (atToken : AtToken rest) (count : Nat) (free : Free m key)
    (inside : ∀ i ∈ indents.head?, i ≤ count) :
    Ready (inBlock ('\n' :: (List.replicate count ' ' ++ rest)) m tokens indents keyAllowed key)
      rest ((m.newLine 1).advance count) tokens indents true none := by
  have column : ((m.newLine 1).advance count).column = count := Nat.zero_add count
  refine .of_skip_inside ?_ ?_ (by rwa [column])
  · rw [skipToToken_line atToken]
    exact dropStaleKeys?_free free (Nat.lt_succ_self _)
  · simp only [inBlock_cursor, List.length_cons, List.length_append]
    omega

/-! ## Scanning one token -/

/-- The key that a token may turn out to be. -/
def savedKey (m : Mark) (tokens : List Token) (indents : List Nat) (keyAllowed : Bool) :
    Option PendingKey :=
  if keyAllowed then some ⟨tokens.length, m, indents.head? == some m.column⟩ else none

theorem free_savedKey (inside : ∀ i ∈ indents.head?, i < m.column) {m' : Mark}
    (line : m.line ≤ m'.line) : Free m' (savedKey m tokens indents keyAllowed) := by
  cases keyAllowed with
  | false => exact fun k hk => by cases hk
  | true =>
    rintro k ⟨⟩
    refine ⟨?_, line⟩
    rw [beq_eq_false_iff_ne]
    exact fun same => Nat.lt_irrefl _ (inside m.column same)

theorem indent_eq (column : Nat) :
    ((inBlock rest m tokens indents keyAllowed key).indent == (column : Int)) =
      (indents.head? == some column) := by
  rw [Bool.eq_iff_iff, beq_iff_eq, beq_iff_eq]
  unfold indent
  cases indents with
  | nil => simp
  | cons i indents => exact Int.ofNat_inj.trans Option.some_inj.symm

theorem saveKey?_inBlock : (inBlock rest m tokens indents keyAllowed none).saveKey? =
    some (inBlock rest m tokens indents keyAllowed (savedKey m tokens indents keyAllowed)) := by
  cases keyAllowed with
  | false => rfl
  | true =>
    simp only [saveKey?, inBlock_keyAllowed, if_true, inBlock_cursor, indent_eq, inBlock_inFlow]
    simp [dropKey?, inBlock, savedKey]

theorem pushKeyLike?_inBlock {scan : Scanner → Option (Token × Cursor × Bool)} {t : Token}
    {c : Cursor} {endsLine : Bool}
    (scanned : ∀ key, scan (inBlock rest m tokens indents keyAllowed key) =
      some (t, c, endsLine)) :
    (inBlock rest m tokens indents keyAllowed none).pushKeyLike? scan =
      some (inBlock c.rest c.mark (tokens ++ [t]) indents endsLine
        (savedKey m tokens indents keyAllowed)) := by
  rw [pushKeyLike?, saveKey?_inBlock]
  simp only [scanned]
  simp [inBlock]

/-- The blocks once an entry of a mapping stands at a column, and the token that opens a new one. -/
def openedAt (column : Nat) (indents : List Nat) : List Token × List Nat :=
  if indents.head? = some column then ([], indents) else ([.blockMappingStart], column :: indents)

theorem head?_openedAt (column : Nat) (indents : List Nat) :
    (openedAt column indents).2.head? = some column := by
  unfold openedAt
  split
  · next open_ => exact open_
  · rfl

theorem insertIdx_append {α : Type} (front behind : List α) (a : α) :
    (front ++ behind).insertIdx front.length a = front ++ a :: behind := by
  induction front with
  | nil => simp
  | cons b front ih => simp [ih]

theorem openBlock_inBlock {column : Nat} (inside : ∀ i ∈ indents.head?, i ≤ column)
    (front behind : List Token) :
    (inBlock rest m (front ++ behind) indents keyAllowed key).openBlock column front.length
        .blockMappingStart =
      inBlock rest m (front ++ ((openedAt column indents).1 ++ behind))
        (openedAt column indents).2 keyAllowed key := by
  have opens (outer : ¬ (column : Int) ≤
      (inBlock rest m (front ++ behind) indents keyAllowed key).indent) :
      (inBlock rest m (front ++ behind) indents keyAllowed key).openBlock column front.length
        .blockMappingStart =
        inBlock rest m (front ++ ([.blockMappingStart] ++ behind)) (column :: indents) keyAllowed
          key := by
    simp only [openBlock, outer, inBlock_inFlow, decide_false, Bool.or_false, Bool.false_eq_true,
      if_false]
    simp [inBlock, insertIdx_append]
  cases indents with
  | nil =>
    refine opens ?_
    show ¬ (column : Int) ≤ -1
    omega
  | cons i indents =>
    have le : i ≤ column := inside i rfl
    -- At the column of the innermost block an entry belongs to that block.
    by_cases same : i = column
    · subst same
      have stays : (i : Int) ≤ (inBlock rest m (front ++ behind) (i :: indents) keyAllowed
        key).indent := Int.le_refl i
      simp [openBlock, openedAt, stays]
    · have outer : ¬ (column : Int) ≤ (i : Int) := by omega
      rw [openedAt, if_neg (by simpa using same)]
      exact opens outer

/-- A colon makes a key of the token in front of it. -/
theorem value?_key {t : Token} {k : PendingKey} (position : k.position = tokens.length)
    (inside : ∀ i ∈ indents.head?, i ≤ k.mark.column) :
    (inBlock (':' :: rest) m (tokens ++ [t]) indents keyAllowed (some k)).value? =
      some (inBlock rest (m.advance 1)
        (tokens ++ ((openedAt k.mark.column indents).1 ++ [.key, t, .value]))
        (openedAt k.mark.column indents).2 false none) := by
  have keyed : ({ inBlock (':' :: rest) m (tokens ++ [t]) indents keyAllowed (some k) with
      tokens := (inBlock (':' :: rest) m (tokens ++ [t]) indents keyAllowed
        (some k)).tokens.insertIdxIfInBounds k.position .key
      keys := [none], keyAllowed := false } : Scanner) =
        inBlock (':' :: rest) m (tokens ++ [.key, t]) indents false none := by
    simp [inBlock, position, insertIdx_append]
  -- The key goes in front of the token that is there already, and a new block in front of both.
  rw [value?]
  simp only [inBlock_keys, keyed]
  rw [position, openBlock_inBlock inside, inBlock_push]
  refine congrArg some ((inBlock_skip [':']).trans ?_)
  simp

/-- Without a key in front of it, it stands for the key before. -/
theorem value?_none (mapping : indents.head? = some m.column) :
    (inBlock (':' :: rest) m tokens indents true none).value? =
      some (inBlock rest (m.advance 1) (tokens ++ [.value]) indents true none) := by
  have inside : ∀ i ∈ indents.head?, i ≤ m.column := by
    rintro i hi
    rw [mapping, Option.mem_some_iff] at hi
    omega
  have opened : (inBlock (':' :: rest) m (tokens ++ []) indents true none).openBlock m.column
      tokens.length .blockMappingStart = inBlock (':' :: rest) m
        (tokens ++ ((openedAt m.column indents).1 ++ [])) (openedAt m.column indents).2 true none :=
    openBlock_inBlock inside tokens []
  rw [List.append_nil, openedAt, if_pos mapping, List.append_nil, List.append_nil] at opened
  rw [value?]
  simp only [inBlock_keys, inBlock_inFlow, inBlock_keyAllowed, inBlock_cursor, inBlock_tokens,
    List.size_toArray, opened, inBlock_push, Bool.not_true, Bool.and_false, Bool.false_eq_true,
    if_false]
  exact congrArg (fun s : Scanner => some { s with keyAllowed := true }) (inBlock_skip [':'])

/-- A question mark opens a key of its own. -/
theorem marked?_key (inside : ∀ i ∈ indents.head?, i ≤ m.column) :
    (inBlock ('?' :: rest) m tokens indents true none).marked? .blockMappingStart .key true =
      some (inBlock rest (m.advance 1) (tokens ++ ((openedAt m.column indents).1 ++ [.key]))
        (openedAt m.column indents).2 true none) := by
  have opened : (inBlock ('?' :: rest) m (tokens ++ []) indents true none).openBlock m.column
      tokens.length .blockMappingStart = inBlock ('?' :: rest) m
        (tokens ++ ((openedAt m.column indents).1 ++ [])) (openedAt m.column indents).2 true none :=
    openBlock_inBlock inside tokens []
  rw [List.append_nil, List.append_nil] at opened
  have dropped : (inBlock ('?' :: rest) m (tokens ++ (openedAt m.column indents).1)
      (openedAt m.column indents).2 true none).dropKey? =
        some (inBlock ('?' :: rest) m (tokens ++ (openedAt m.column indents).1)
          (openedAt m.column indents).2 true none) := rfl
  rw [marked?]
  simp only [inBlock_inFlow, inBlock_keyAllowed, inBlock_cursor, inBlock_tokens,
    List.size_toArray, opened, dropped, Option.map_some, inBlock_push, Bool.not_true,
    Bool.and_false, Bool.false_eq_true, if_false, List.append_assoc]
  exact congrArg (fun s : Scanner => some { s with keyAllowed := true }) (inBlock_skip ['?'])

/-! ## Braces -/

/-- The scanner between braces. -/
def inBraces (rest : List Char) (mark : Mark) (tokens : List Token) (indents : List Nat)
    (key : Option PendingKey) : Scanner :=
  { inBlock rest mark tokens indents true none with flowLevel := 1, keys := [none, key] }

theorem fetch?_openBrace :
    (inBlock ('\x7b' :: rest) m tokens indents keyAllowed none).fetch? =
      some (inBraces rest (m.advance 1) (tokens ++ [.flowMappingStart]) indents
        (savedKey m tokens indents keyAllowed)) := by
  have mark : (Cursor.mk ('\x7b' :: rest) m).atDocumentMark = false := by
    simp [Cursor.atDocumentMark]
  have opened : (inBlock ('\x7b' :: rest) m tokens indents keyAllowed none).fetch? =
      (inBlock ('\x7b' :: rest) m tokens indents keyAllowed none).openFlow? .flowMappingStart := by
    simp [fetch?, mark]
  rw [opened, openFlow?, saveKey?_inBlock]
  simp [inBraces, inBlock, push, skip, Cursor.skip]

theorem fetch?_closeBrace : (inBraces ('\x7d' :: rest) m tokens indents key).fetch? =
    some (inBlock rest (m.advance 1) (tokens ++ [.flowMappingEnd]) indents false key) := by
  have mark : (Cursor.mk ('\x7d' :: rest) m).atDocumentMark = false := by
    simp [Cursor.atDocumentMark]
  have closed : (inBraces ('\x7d' :: rest) m tokens indents key).fetch? =
      (inBraces ('\x7d' :: rest) m tokens indents key).closeFlow? .flowMappingEnd := by
    simp [fetch?, mark, inBraces]
  rw [closed]
  simp [inBraces, inBlock, closeFlow?, dropKey?, push, skip, Cursor.skip, inFlow]

theorem skipToToken_inBraces :
    (inBraces ('\x7d' :: rest) m tokens indents key).skipToToken =
      inBraces ('\x7d' :: rest) m tokens indents key := by
  have stays : (inBraces ('\x7d' :: rest) m tokens indents key).afterBlanks =
      ⟨'\x7d' :: rest, m⟩ := by
    simp [afterBlanks, inBraces, Cursor.skipWhile, Cursor.span, Cursor.skip, isByteOrderMark]
  rw [skipToToken, stays]
  rfl

/-- Between braces there need be no entries. -/
theorem Ready.run?_braces
    (ready : Ready s ('\x7b' :: '\x7d' :: rest) m tokens indents keyAllowed none) :
    s.run? = (inBlock rest (m.advance 2) (tokens ++ [.flowMappingStart, .flowMappingEnd]) indents
      false (savedKey m tokens indents keyAllowed)).run? := by
  rw [ready.run? (List.cons_ne_nil _ _) fetch?_openBrace (Nat.lt_succ_self _)]
  have fresh : (inBraces ('\x7d' :: rest) (m.advance 1) (tokens ++ [.flowMappingStart]) indents
      (savedKey m tokens indents keyAllowed)).dropStaleKeys? =
        some (inBraces ('\x7d' :: rest) (m.advance 1) (tokens ++ [.flowMappingStart]) indents
          (savedKey m tokens indents keyAllowed)) := by
    cases keyAllowed <;> simp [dropStaleKeys?, inBraces, savedKey, Mark.advance]
  have stays : (inBraces ('\x7d' :: rest) (m.advance 1) (tokens ++ [.flowMappingStart]) indents
      (savedKey m tokens indents keyAllowed)).closeBlocks (m.advance 1).column =
        inBraces ('\x7d' :: rest) (m.advance 1) (tokens ++ [.flowMappingStart]) indents
          (savedKey m tokens indents keyAllowed) := by
    simp [closeBlocks, inBraces, inFlow]
  have shorter : rest.length < ('\x7d' :: rest).length := Nat.lt_succ_self _
  rw [Scanner.run?, skipToToken_inBraces, fresh]
  simp only [show (inBraces ('\x7d' :: rest) (m.advance 1) (tokens ++ [.flowMappingStart]) indents
    (savedKey m tokens indents keyAllowed)).cursor = ⟨'\x7d' :: rest, m.advance 1⟩ from rfl,
    List.isEmpty_cons, Bool.false_eq_true, if_false, stays, fetch?_closeBrace, inBlock_cursor,
    if_pos shorter, Mark.advance_advance, List.append_assoc]
  rfl

end Scanner
end NodeSettings.Yaml
