import NodeSettings.Proofs.Yaml.BlockText
import NodeSettings.Proofs.Yaml.PlainText
import NodeSettings.Proofs.Yaml.QuotedText
import NodeSettings.Proofs.Yaml.Stages

/-!
Scalars in their places. Whatever style a text is written in, the scanner reads the text at the end
of a line, `scansTo_scalar`, and as a key in front of its colon, `fetch?_scalar_colon`.
-/

namespace NodeSettings.Yaml

variable {cs rest after : List Char} {m : Mark} {indent count : Nat}

/-! ## Styles -/

namespace Style

/-- A style other than the last resort can write the text, and is the one that its meaning asks for
or the next best. -/
theorem ofText_eq {style : Style} (chosen : ofText cs = style) (other : style ≠ .doubleQuoted) :
    permits cs style = true ∧ (preferred cs = style ∨ (preferred cs).fallback = style) := by
  unfold ofText at chosen
  dsimp only at chosen
  split at chosen
  · next permitted => exact ⟨chosen ▸ permitted, .inl chosen⟩
  · split at chosen
    · next permitted => exact ⟨chosen ▸ permitted, .inr chosen⟩
    · exact absurd chosen.symm other

theorem permits_plain (style : ofText cs = .plain) :
    permits cs .plain = true ∧ Plain.ofText cs = .text := by
  obtain ⟨permitted, first | next⟩ := ofText_eq style (by decide)
  · refine ⟨permitted, ?_⟩
    unfold preferred at first
    split at first
    · cases first
    · split at first
      · next text => simpa using (Bool.and_eq_true_iff.1 text).1
      · cases first
  · cases own : preferred cs <;> rw [own] at next <;> cases next

theorem isQuotable_of_singleQuoted (style : ofText cs = .singleQuoted) : IsQuotable cs := by
  obtain ⟨permitted, chosen⟩ := ofText_eq style (by decide)
  have noFeed : '\n' ∉ cs := by
    intro feed
    have own : preferred cs = .literal := by simp [preferred, feed]
    rw [own] at chosen
    rcases chosen with same | same <;> cases same
  simp only [permits, Bool.and_eq_true, List.all_eq_true, Bool.not_eq_true'] at permitted
  exact ⟨permitted.1.1, noFeed, permitted.1.2, permitted.2⟩

theorem mem_of_literal (style : ofText cs = .literal) :
    '\n' ∈ cs ∧ ∀ c ∈ cs, isPrintable c = true := by
  obtain ⟨permitted, first | next⟩ := ofText_eq style (by decide)
  · simp only [permits, Bool.and_eq_true, List.all_eq_true] at permitted
    refine ⟨?_, permitted.1.1⟩
    by_contra feed
    unfold preferred at first
    rw [if_neg (by simpa using feed)] at first
    split at first <;> cases first
  · cases own : preferred cs <;> rw [own] at next <;> cases next

end Style

/-- The token of a text. -/
def scalarToken (cs : List Char) : Token := .scalar cs (Style.ofText cs = .plain)

/-- A plain text is not empty, for that would be null. -/
theorem ne_nil_of_plain (style : Style.ofText cs = .plain) : cs ≠ [] := by
  rintro rfl
  exact absurd (Style.permits_plain style).2 (by decide)

theorem writeScalar_plain (style : Style.ofText cs = .plain) : writeScalar indent cs = cs := by
  rw [writeScalar, style]

theorem writeScalar_literal (style : Style.ofText cs = .literal) : writeScalar indent cs =
    '|' :: (blockHints cs ++ '\n' :: indentLines (List.replicate indent ' ') true cs) := by
  rw [writeScalar, style]
  simp

theorem writeScalar_singleQuoted (style : Style.ofText cs = .singleQuoted) :
    writeScalar indent cs = '\'' :: (singleBody (List.replicate indent ' ') cs ++ ['\'']) := by
  rw [writeScalar, style]
  simp [singleBody, doubleQuotes]

theorem writeScalar_doubleQuoted (style : Style.ofText cs = .doubleQuoted) :
    writeScalar indent cs = '"' :: (cs.flatMap escapeDouble ++ ['"']) := by
  rw [writeScalar, style]
  simp

/-- A quoted text is something between two quotes, and what is scanned there is the text. -/
theorem exists_quoted (quoted : Style.ofText cs = .singleQuoted ∨ Style.ofText cs = .doubleQuoted)
    (deep : 0 < indent) : ∃ single body, ∃ q : Char, q = (if single then '\'' else '"') ∧
      writeScalar indent cs = q :: (body ++ [q]) ∧
      ∀ (after : List Char) (m : Mark), after.head? ≠ some '\'' → 0 < m.column →
        ∃ m', quotedRest? single [] ⟨body ++ q :: after, m⟩ = some ⟨cs, ⟨after, m'⟩, false⟩ ∧
          m.line ≤ m'.line ∧ (cs.any isBreak = false → m' = m.advance (body.length + 1)) := by
  rcases quoted with style | style
  · refine ⟨true, _, '\'', rfl, writeScalar_singleQuoted style, fun after m single inner => ?_⟩
    exact quotedRest?_single (Style.isQuotable_of_singleQuoted style) deep single [] m inner
  · refine ⟨false, _, '"', rfl, writeScalar_doubleQuoted style, fun after m _ inner => ?_⟩
    exact ⟨_, quotedRest?_double [] m inner, Nat.le_refl _, fun _ => rfl⟩

/-- What is written for a text may stand in a text. -/
theorem isPrintable_writeScalar (indent : Nat) (cs : List Char) :
    ∀ c ∈ writeScalar indent cs, isPrintable c = true := by
  have spaces : ∀ c ∈ List.replicate indent ' ', isPrintable c = true :=
    List.forall_mem_replicate.2 (.inr rfl)
  have lines {afterBreak : Bool} {l : List Char} (all : ∀ c ∈ l, isPrintable c = true) :
      ∀ c ∈ indentLines (List.replicate indent ' ') afterBreak l, isPrintable c = true :=
    fun c hc => (mem_indentLines hc).elim (spaces c) (all c)
  have between {q : Char} {body : List Char} (quote : isPrintable q = true)
      (all : ∀ c ∈ body, isPrintable c = true) : ∀ c ∈ q :: (body ++ [q]), isPrintable c = true :=
    List.forall_mem_cons.2 ⟨quote, List.forall_mem_append.2 ⟨all,
      List.forall_mem_singleton.2 quote⟩⟩
  cases style : Style.ofText cs with
  | plain =>
    rw [writeScalar_plain style]
    exact (isPlain_of_permits (Style.permits_plain style).1).printable
  | singleQuoted =>
    have shown := (Style.isQuotable_of_singleQuoted style).printable
    have body : ∀ c ∈ singleBody (List.replicate indent ' ') cs, isPrintable c = true := by
      refine List.forall_mem_append.2 ⟨lines fun c hc => shown c (mem_doubleQuotes.1 hc), ?_⟩
      split
      · exact spaces
      · simp
    rw [writeScalar_singleQuoted style]
    exact between rfl body
  | doubleQuoted =>
    have body : ∀ c ∈ cs.flatMap escapeDouble, isPrintable c = true := fun c hc => by
      obtain ⟨d, -, hd⟩ := List.mem_flatMap.1 hc
      exact isPrintable_escapeDouble d c hd
    rw [writeScalar_doubleQuoted style]
    exact between rfl body
  | literal =>
    have hints : ∀ c ∈ blockHints cs, isPrintable c = true := by
      rw [blockHints_eq]
      cases hidesIndent cs <;> cases Chomp.ofText cs <;> exact List.all_eq_true.1 rfl
    rw [writeScalar_literal style]
    exact List.forall_mem_cons.2 ⟨rfl, List.forall_mem_append.2 ⟨hints,
      List.forall_mem_cons.2 ⟨rfl, lines (Style.mem_of_literal style).2⟩⟩⟩

namespace Scanner

variable {tokens : List Token} {indents : List Nat} {keyAllowed : Bool} {key : Option PendingKey}

/-! ## The ways to scan -/

theorem fetch?_quote {single : Bool} {q : Char} (quote : q = if single then '\'' else '"') :
    (inBlock (q :: rest) m tokens indents keyAllowed key).fetch? =
      (inBlock (q :: rest) m tokens indents keyAllowed key).pushKeyLike? (quoted? single) := by
  subst quote
  cases single <;> simp [fetch?, Cursor.atDocumentMark]

theorem fetch?_bar : (inBlock ('|' :: rest) m tokens indents keyAllowed key).fetch? =
    (inBlock ('|' :: rest) m tokens indents keyAllowed key).block? true := by
  simp [fetch?, Cursor.atDocumentMark]

theorem fetch?_question (gap : startsGap rest = true) :
    (inBlock ('?' :: rest) m tokens indents keyAllowed key).fetch? =
      (inBlock ('?' :: rest) m tokens indents keyAllowed key).marked? .blockMappingStart .key
        true := by
  simp [fetch?, Cursor.atDocumentMark, gap]

theorem fetch?_colon (gap : startsGap rest = true) :
    (inBlock (':' :: rest) m tokens indents keyAllowed key).fetch? =
      (inBlock (':' :: rest) m tokens indents keyAllowed key).value? := by
  simp [fetch?, Cursor.atDocumentMark, gap]

/-- A plain text starts with none of the characters that make something else of a token. -/
theorem others_of_permits {c : Char} {w : List Char}
    (permits : Style.permits (c :: w) .plain = true) :
    c ≠ '#' ∧ c ≠ ',' ∧ c ≠ '[' ∧ c ≠ ']' ∧ c ≠ '\x7b' ∧ c ≠ '\x7d' ∧ c ≠ '&' ∧ c ≠ '*' ∧
      c ≠ '!' ∧ c ≠ '|' ∧ c ≠ '>' ∧ c ≠ '\'' ∧ c ≠ '"' ∧ c ≠ '%' ∧ c ≠ '@' ∧ c ≠ '`' := by
  simp only [Style.permits, Bool.and_eq_true, Bool.not_eq_true'] at permits
  have start := permits.1.2
  simp only [startsWithMark, Bool.or_eq_false_iff, Bool.and_eq_false_iff] at start
  obtain ⟨⟨-, indicator⟩, -⟩ := start
  simpa using indicator

/-- Where it starts with a mark that counts only in front of a gap, no gap follows. -/
theorem follows_of_permits {c : Char} {w : List Char}
    (permits : Style.permits (c :: w) .plain = true) (mem : "?:-".toList.contains c = true)
    (after : List Char) : startsGap (w ++ after) = false := by
  simp only [Style.permits, Bool.and_eq_true, Bool.not_eq_true'] at permits
  have start := permits.1.2
  simp only [startsWithMark, Bool.or_eq_false_iff, Bool.and_eq_false_iff] at start
  have more : startsGap w = false := start.2.resolve_left fun no => by
    rw [mem] at no
    cases no
  cases w with
  | nil => cases more
  | cons d w => exact more

theorem startsPlain_of_permits {c : Char} {w : List Char}
    (permits : Style.permits (c :: w) .plain = true) (after : List Char) :
    startsPlain false (c :: (w ++ after)) = true := by
  by_cases mem : "?:-".toList.contains c = true
  · have more := follows_of_permits permits mem after
    generalize w ++ after = rest at more ⊢
    have blank : (rest.head?).any isBlank = false := by
      cases rest with
      | nil => cases more
      | cons d rest => exact (Bool.or_eq_false_iff.1 more).1
    have which : c = '?' ∨ c = ':' ∨ c = '-' := by simpa using mem
    rcases which with rfl | rfl | rfl
    · simp [startsPlain, more]
    · simp [startsPlain, more]
    · rw [startsPlain, blank]
      simp
  · have which : c ≠ '?' ∧ c ≠ ':' ∧ c ≠ '-' := by simpa using mem
    have solid : isGap c = false := (isPlain_of_permits permits).starts c rfl
    simp [startsPlain, solid, others_of_permits permits, which]

/-- A plain text starts as a plain scalar may, and as nothing else does. -/
theorem fetch?_plain (permits : Style.permits cs .plain = true) (some_ : cs ≠ [])
    (mark : (Cursor.mk (cs ++ after) m).atDocumentMark = false) :
    (inBlock (cs ++ after) m tokens indents keyAllowed key).fetch? =
      (inBlock (cs ++ after) m tokens indents keyAllowed key).pushKeyLike? plain? := by
  obtain ⟨c, w, rfl⟩ := List.exists_cons_of_ne_nil some_
  have others := others_of_permits permits
  have starts := startsPlain_of_permits permits after
  have unspaced (d : Char) (mem : "?:-".toList.contains d = true) :
      (c = d && startsGap (w ++ after)) = false := by
    by_cases same : c = d
    · simp [follows_of_permits permits (same ▸ mem) after]
    · simp [same]
  rw [List.cons_append] at mark ⊢
  simp [fetch?, mark, others, unspaced '-' rfl, unspaced '?' rfl, unspaced ':' rfl, starts]

/-- A plain text in front of a colon is no mark of a document. -/
theorem atDocumentMark_of_permits (permits : Style.permits cs .plain = true) :
    (Cursor.mk (cs ++ ':' :: rest) m).atDocumentMark = false := by
  simp only [Style.permits, Bool.and_eq_true, Bool.not_eq_true'] at permits
  have start := permits.1.2
  unfold Cursor.atDocumentMark
  rcases cs with _ | ⟨a, _ | ⟨b, _ | ⟨c, cs⟩⟩⟩
  · simp
  · simp
  · simp
  · simp only [startsWithMark, Bool.or_eq_false_iff, List.take_succ_cons, List.take_zero,
      beq_eq_false_iff_ne] at start
    obtain ⟨⟨⟨dashes, points⟩, -⟩, -⟩ := start
    simp only [List.cons_append, Bool.and_eq_false_iff]
    right
    split
    · next same =>
      simp only [List.cons.injEq] at same
      simp [same] at dashes
    · next same =>
      simp only [List.cons.injEq] at same
      simp [same] at points
    · rfl

/-! ## Scalars -/

theorem plain?_inBlock {endsLine : Bool} {c : Cursor}
    (style : Style.ofText cs = .plain)
    (read : plainWords? false ((inBlock rest m tokens indents keyAllowed key).indent + 1) {} []
      ⟨rest, m⟩ = some ⟨cs, c, endsLine⟩) :
    plain? (inBlock rest m tokens indents keyAllowed key) =
      some (scalarToken cs, c, endsLine) := by
  rw [plain?, inBlock_inFlow, inBlock_cursor, read]
  simp [scalarToken, style]

theorem block?_inBlock {d : Char} {literal : Bool} {r : Scanned}
    (read : blockScalar? literal (inBlock (d :: rest) m tokens indents keyAllowed none).indent
      ⟨rest, m.advance 1⟩ = some r) :
    (inBlock (d :: rest) m tokens indents keyAllowed none).block? literal =
      some (inBlock r.cursor.rest r.cursor.mark (tokens ++ [.scalar r.text false]) indents true
        none) := by
  have dropped : (inBlock (d :: rest) m tokens indents keyAllowed none).dropKey? =
      some (inBlock (d :: rest) m tokens indents keyAllowed none) := rfl
  have passed : (Cursor.mk (d :: rest) m).skip 1 = ⟨rest, m.advance 1⟩ := rfl
  rw [block?, dropped]
  simp only [inBlock_cursor, passed, read, Option.map_some, inBlock_push]
  rfl

/-- A quoted text is scanned up to its closing quote. -/
theorem fetch?_quoted (quoted : Style.ofText cs = .singleQuoted ∨ Style.ofText cs = .doubleQuoted)
    (deep : 0 < indent) (single : after.head? ≠ some '\'') (m : Mark) (tokens : List Token)
    (indents : List Nat) (keyAllowed : Bool) :
    ∃ m', (inBlock (writeScalar indent cs ++ after) m tokens indents keyAllowed none).fetch? =
      some (inBlock after m' (tokens ++ [scalarToken cs]) indents false
        (savedKey m tokens indents keyAllowed)) ∧
      m.line ≤ m'.line ∧
      (cs.any isBreak = false → m' = m.advance (writeScalar indent cs).length) := by
  obtain ⟨kind, body, q, quote, written, reads⟩ := exists_quoted quoted deep
  obtain ⟨m', read, le, exact_⟩ := reads after (m.advance 1) single (Nat.succ_pos _)
  have style : Style.ofText cs ≠ .plain := by
    rcases quoted with same | same <;> simp [same]
  refine ⟨m', ?_, le, fun onLine => ?_⟩
  · have scanned (key : Option PendingKey) : quoted? kind (inBlock (q :: (body ++ q :: after)) m
        tokens indents keyAllowed key) = some (scalarToken cs, ⟨after, m'⟩, false) := by
      simp [quoted?, Cursor.skip, read, scalarToken, style]
    rw [written, List.cons_append, List.append_assoc, List.singleton_append, fetch?_quote quote,
      pushKeyLike?_inBlock scanned]
  · rw [exact_ onLine, written]
    simp [Nat.add_comm]

theorem endLine_plain (style : Style.ofText cs = .plain) : endLine cs = ['\n'] :=
  endLine_of_solid fun c hc =>
    (isPlain_of_permits (Style.permits_plain style).1).onLine c (List.mem_of_getLast? hc)

theorem endLine_quoted (quoted : Style.ofText cs = .singleQuoted ∨ Style.ofText cs = .doubleQuoted)
    (deep : 0 < indent) : endLine (writeScalar indent cs) = ['\n'] := by
  obtain ⟨kind, body, q, rfl, written, -⟩ := exists_quoted quoted deep
  rw [written, ← List.cons_append]
  refine endLine_of_solid fun c hc => ?_
  rw [List.getLast?_append_of_ne_nil _ (List.cons_ne_nil _ _)] at hc
  cases kind <;> obtain rfl := Option.some.inj hc <;> rfl

theorem endLine_literal (style : Style.ofText cs = .literal) :
    endLine (writeScalar indent cs) = endLine cs := by
  have some_ : cs ≠ [] := List.ne_nil_of_mem (Style.mem_of_literal style).1
  have more : indentLines (List.replicate indent ' ') true cs ≠ [] := by
    obtain ⟨c, cs, rfl⟩ := List.exists_cons_of_ne_nil some_
    cases line : isBreak c <;> simp [indentLines, line]
  have written : writeScalar indent cs = '|' :: blockHints cs ++ ['\n'] ++
      indentLines (List.replicate indent ' ') true cs := by
    rw [writeScalar_literal style]
    simp
  rw [written, endLine_append _ more, endLine_indentLines some_]

theorem indent_of_mapping {column : Nat} (mapping : indents.head? = some column) :
    (inBlock rest m tokens indents keyAllowed key).indent = column := by
  rw [indent, inBlock_indents, mapping]
  rfl

theorem lt_of_mapping {column : Nat} (mapping : indents.head? = some column)
    (inside : column < m.column) : ∀ i ∈ indents.head?, i < m.column := by
  intro i hi
  rw [mapping, Option.mem_some_iff] at hi
  omega

/-- One token is scanned, and then the scanner stands where a key may begin, at a column. -/
def ScansTo (s : Scanner) (rest : List Char) (column : Nat) (tokens : List Token)
    (indents : List Nat) : Prop :=
  ∃ next m, s.fetch? = some next ∧
    next.skipToToken.dropStaleKeys? = some (inBlock rest m tokens indents true none) ∧
    m.column = column ∧ rest.length ≤ next.cursor.rest.length ∧
    next.cursor.rest.length < s.cursor.rest.length

section Line

variable {column : Nat} (mapping : indents.head? = some column) (atToken : AtToken rest)
include mapping atToken

theorem scansTo_plain (inside : column < m.column) (outer : count ≤ column)
    (style : Style.ofText cs = .plain) :
    ScansTo (inBlock (cs ++ '\n' :: (List.replicate count ' ' ++ rest)) m tokens indents keyAllowed
      none) rest count (tokens ++ [scalarToken cs]) indents := by
  obtain ⟨permits, -⟩ := Style.permits_plain style
  have some_ := ne_nil_of_plain style
  have inner : 0 < m.column := Nat.lt_of_le_of_lt (Nat.zero_le column) inside
  have shallow : (count : Int) < (column : Int) + 1 := by omega
  have deep : (column : Int) + 1 ≤ m.column + 1 := by omega
  have read := plainWords?_line (isPlain_of_permits permits) some_ (fun c hc => (atToken c hc).1)
    inner shallow deep
  have scanned (key : Option PendingKey) : plain? (inBlock (cs ++ '\n' ::
      (List.replicate count ' ' ++ rest)) m tokens indents keyAllowed key) = some (scalarToken cs,
        ⟨rest, ((m.advance cs.length).newLine 1).advance count⟩, true) :=
    plain?_inBlock style (by rw [indent_of_mapping mapping]; exact read)
  have fetched := (fetch?_plain permits some_ (atDocumentMark_of_column inner)).trans
    (pushKeyLike?_inBlock scanned)
  have line : m.line < (((m.advance cs.length).newLine 1).advance count).line :=
    Nat.lt_succ_self _
  refine ⟨_, _, fetched, (congrArg dropStaleKeys? (skipToToken_atToken atToken)).trans
    (dropStaleKeys?_free (free_savedKey (lt_of_mapping mapping inside) (Nat.le_refl _)) line),
    Nat.zero_add count, Nat.le_refl _, ?_⟩
  simp only [inBlock_cursor, List.length_append, List.length_cons]
  omega

theorem scansTo_quoted (inside : column < m.column) (deep : 0 < indent)
    (quoted : Style.ofText cs = .singleQuoted ∨ Style.ofText cs = .doubleQuoted) :
    ScansTo (inBlock (writeScalar indent cs ++ '\n' :: (List.replicate count ' ' ++ rest)) m tokens
      indents keyAllowed none) rest count (tokens ++ [scalarToken cs]) indents := by
  have single : ('\n' :: (List.replicate count ' ' ++ rest)).head? ≠ some '\'' := by simp
  obtain ⟨m', fetched, le, -⟩ := fetch?_quoted quoted deep single m tokens indents keyAllowed
  have line : m'.line < ((m'.newLine 1).advance count).line := Nat.lt_succ_self _
  refine ⟨_, _, fetched, (congrArg dropStaleKeys? (skipToToken_line atToken count)).trans
    (dropStaleKeys?_free (free_savedKey (lt_of_mapping mapping inside) le) line),
    Nat.zero_add count, ?_, ?_⟩
  · simp only [inBlock_cursor, List.length_append, List.length_cons]
    omega
  · obtain ⟨kind, body, q, -, written, -⟩ := exists_quoted quoted deep
    rw [written]
    simp only [inBlock_cursor, List.length_append, List.length_cons]
    omega

theorem scansTo_literal (outer : count ≤ column) (style : Style.ofText cs = .literal) :
    ScansTo (inBlock (writeScalar (column + 2) cs ++ (endLine cs ++
        (List.replicate count ' ' ++ rest))) m tokens indents keyAllowed none) rest count
      (tokens ++ [scalarToken cs]) indents := by
  obtain ⟨feed, printable⟩ := Style.mem_of_literal style
  have shallow : count < column + 2 := by omega
  obtain ⟨m', read, reached⟩ := blockScalar?_literal (List.ne_nil_of_mem feed) printable
    (fun c hc => (atToken c hc).1) shallow (m.advance 1)
  have written : writeScalar (column + 2) cs ++ (endLine cs ++ (List.replicate count ' ' ++ rest)) =
      '|' :: (blockHints cs ++ '\n' :: (indentLines (List.replicate (column + 2) ' ') true cs ++
        (endLine cs ++ (List.replicate count ' ' ++ rest)))) := by
    rw [writeScalar_literal style]
    simp
  have fetched : (inBlock (writeScalar (column + 2) cs ++ (endLine cs ++
      (List.replicate count ' ' ++ rest))) m tokens indents keyAllowed none).fetch? =
        some (inBlock rest m' (tokens ++ [scalarToken cs]) indents true none) := by
    rw [written, fetch?_bar, block?_inBlock (by rw [indent_of_mapping mapping]; exact read)]
    simp [scalarToken, style]
  refine ⟨_, m', fetched, congrArg dropStaleKeys? (skipToToken_atToken atToken), reached,
    Nat.le_refl _, ?_⟩
  rw [written]
  simp only [inBlock_cursor, List.length_append, List.length_cons]
  omega

variable (tokens keyAllowed) in
/-- A text at the end of its line is scanned, and the gap up to the next token is passed. -/
theorem scansTo_scalar (inside : column < m.column) (outer : count ≤ column) (cs : List Char) :
    ScansTo (inBlock (writeScalar (column + 2) cs ++ (endLine (writeScalar (column + 2) cs) ++
        (List.replicate count ' ' ++ rest))) m tokens indents keyAllowed none) rest count
      (tokens ++ [scalarToken cs]) indents := by
  cases style : Style.ofText cs with
  | plain =>
    rw [writeScalar_plain style, endLine_plain style]
    exact scansTo_plain mapping atToken inside outer style
  | singleQuoted =>
    rw [endLine_quoted (.inl style) (Nat.succ_pos _)]
    exact scansTo_quoted mapping atToken inside (Nat.succ_pos _) (.inl style)
  | doubleQuoted =>
    rw [endLine_quoted (.inr style) (Nat.succ_pos _)]
    exact scansTo_quoted mapping atToken inside (Nat.succ_pos _) (.inr style)
  | literal =>
    rw [endLine_literal style]
    exact scansTo_literal mapping atToken outer style

end Line

/-! ## Simple keys -/

theorem length_le_utf8ByteSize (cs : List Char) : cs.length ≤ (String.ofList cs).utf8ByteSize := by
  induction cs with
  | nil => exact Nat.zero_le _
  | cons c cs ih =>
    have wide : 0 < c.utf8Size := c.utf8Size_pos
    rw [String.ofList_cons, String.utf8ByteSize_append, String.utf8ByteSize_singleton,
      List.length_cons]
    omega

theorem length_flatMap_le {width : Nat} {write : Char → List Char}
    (each : ∀ c, (write c).length ≤ width) (cs : List Char) :
    (cs.flatMap write).length ≤ width * cs.length := by
  induction cs with
  | nil => exact Nat.zero_le _
  | cons c cs ih =>
    rw [List.flatMap_cons, List.length_append, List.length_cons, Nat.mul_succ, Nat.add_comm]
    exact Nat.add_le_add ih (each c)

/-- A simple key does not get so long that it could be given up before its colon. -/
theorem length_writeScalar_le (indent : Nat) (simple : isSimpleKey cs = true) :
    (writeScalar indent cs).length ≤ 1023 := by
  have onLine : ∀ c ∈ cs, isBreak c = false := by
    simpa [isSimpleKey] using (Bool.and_eq_true_iff.1 simple).1
  have short : cs.length ≤ 128 :=
    Nat.le_trans (length_le_utf8ByteSize cs) (of_decide_eq_true (Bool.and_eq_true_iff.1 simple).2)
  cases style : Style.ofText cs with
  | plain =>
    rw [writeScalar_plain style]
    omega
  | singleQuoted =>
    have each (c : Char) : (if c = '\'' then [c, c] else [c]).length ≤ 2 := by
      split <;> simp
    have size : (doubleQuotes cs).length ≤ 2 * cs.length := length_flatMap_le each cs
    rw [writeScalar_singleQuoted style, singleBody_onLine onLine, List.length_cons,
      List.length_append, List.length_singleton]
    omega
  | doubleQuoted =>
    have size := length_flatMap_le length_escapeDouble_le cs
    rw [writeScalar_doubleQuoted style, List.length_cons, List.length_append, List.length_singleton]
    omega
  | literal => exact absurd (onLine _ (Style.mem_of_literal style).1) (by decide)

variable (tokens keyAllowed) in
/-- A simple key is scanned up to its colon. -/
theorem fetch?_scalar_colon (simple : isSimpleKey cs = true)
    (inside : ∀ i ∈ indents.head?, i ≤ m.column) (deep : 0 < indent)
    (gap : startsGap rest = true) :
    (inBlock (writeScalar indent cs ++ ':' :: rest) m tokens indents keyAllowed none).fetch? =
      some (inBlock (':' :: rest) (m.advance (writeScalar indent cs).length)
        (tokens ++ [scalarToken cs]) indents false (savedKey m tokens indents keyAllowed)) := by
  have onLine : cs.any isBreak = false := by
    simpa [isSimpleKey] using (Bool.and_eq_true_iff.1 simple).1
  have quoted (style : Style.ofText cs = .singleQuoted ∨ Style.ofText cs = .doubleQuoted) :
      (inBlock (writeScalar indent cs ++ ':' :: rest) m tokens indents keyAllowed none).fetch? =
        some (inBlock (':' :: rest) (m.advance (writeScalar indent cs).length)
          (tokens ++ [scalarToken cs]) indents false (savedKey m tokens indents keyAllowed)) := by
    have single : (':' :: rest).head? ≠ some '\'' := by simp
    obtain ⟨m', fetched, -, exact_⟩ := fetch?_quoted style deep single m tokens indents keyAllowed
    rw [fetched, exact_ onLine]
  cases style : Style.ofText cs with
  | plain =>
    obtain ⟨permits, -⟩ := Style.permits_plain style
    have some_ := ne_nil_of_plain style
    have mark : (Cursor.mk (cs ++ ':' :: rest) m).atDocumentMark = false :=
      atDocumentMark_of_permits permits
    have shallow (key : Option PendingKey) :
        (inBlock (cs ++ ':' :: rest) m tokens indents keyAllowed key).indent + 1 ≤
          m.column + 1 := by
      cases indents with
      | nil =>
        show (-1 : Int) + 1 ≤ m.column + 1
        omega
      | cons i indents =>
        have le : i ≤ m.column := inside i rfl
        show (i : Int) + 1 ≤ m.column + 1
        omega
    rw [writeScalar_plain style, fetch?_plain permits some_ mark,
      pushKeyLike?_inBlock (t := scalarToken cs) fun key => plain?_inBlock style
        (plainWords?_colon (isPlain_of_permits permits) some_ mark gap (shallow key))]
  | singleQuoted => exact quoted (.inl style)
  | doubleQuoted => exact quoted (.inr style)
  | literal =>
    have feed := (Style.mem_of_literal style).1
    exact absurd onLine (by simpa using ⟨_, feed, rfl⟩)

end Scanner

end NodeSettings.Yaml
