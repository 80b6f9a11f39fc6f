import Mathlib.Data.List.DropRight
import NodeSettings.Document.Text

/-!
JSON texts of documents. `decode_encode_json`: the text that a document is written as is read back
as the document, whatever its texts hold. A written value is read off the front of any text, in no
more steps than it has characters: `IsReadAs`.
-/

namespace NodeSettings

namespace Json

open Syntax

/-! ## Strings -/

theorem hexDigits_control : ∀ n < 0x20, ∃ a b c d, Text.hexDigits n 4 = [a, b, c, d] ∧
    Text.natOfDigits? 16 [a, b, c, d] = some n := by
  have each : ∀ n < 0x20,
      Text.hexDigits n 4 = ['0', '0', Nat.digitChar (n / 16), Nat.digitChar (n % 16)] ∧
        Text.natOfDigits? 16 (Text.hexDigits n 4) = some n := by decide
  intro n small
  obtain ⟨shape, value⟩ := each n small
  exact ⟨_, _, _, _, shape, shape ▸ value⟩

/-- However a character is written, it is read as its code point. -/
theorem readString_escapeChar (c : Char) (rest : List Char) :
    readString (escapeChar c ++ rest) =
      (readString rest).map fun (codes, rest) => (c.toNat :: codes, rest) := by
  by_cases letter : c ∈ ['"', '\\', '\x08', '\x0c', '\n', '\r', '\t']
  · -- One letter stands behind the backslash.
    simp only [List.mem_cons, List.not_mem_nil, or_false] at letter
    rcases letter with rfl | rfl | rfl | rfl | rfl | rfl | rfl <;> rfl
  · simp only [List.mem_cons, List.not_mem_nil, or_false, not_or] at letter
    obtain ⟨quote, backslash, back, feed, line, carriage, tab⟩ := letter
    unfold escapeChar
    rw [if_neg quote, if_neg backslash, if_neg back, if_neg feed, if_neg line, if_neg carriage,
      if_neg tab]
    by_cases control : c.toNat < 0x20
    · obtain ⟨x, y, z, w, shape, value⟩ := hexDigits_control c.toNat control
      rw [if_pos control, shape]
      show readString ('\\' :: 'u' :: x :: y :: z :: w :: rest) = _
      rw [readString, value]
    · rw [if_neg control]
      show readString (c :: rest) = _
      rw [readString]
      · simp [control, backslash]
      · exact quote
      · exact fun _ _ _ _ _ same => absurd same backslash
      · exact fun _ _ same => absurd same backslash

theorem readString_escaped (cs rest : List Char) :
    readString (cs.flatMap escapeChar ++ '"' :: rest) = some (cs.map Char.toNat, rest) := by
  induction cs with
  | nil => rfl
  | cons c cs ih =>
    rw [List.flatMap_cons, List.append_assoc, readString_escapeChar, ih]
    rfl

/-- A character is no surrogate. -/
theorem charsOfCodes?_toNat (cs : List Char) : charsOfCodes? (cs.map Char.toNat) = some cs := by
  induction cs with
  | nil => rfl
  | cons c cs ih =>
    have valid : c.toNat < 0xD800 ∨ 0xDFFF < c.toNat ∧ c.toNat < 0x110000 := c.valid
    have low : ¬ (0xDC00 ≤ c.toNat ∧ c.toNat ≤ 0xDFFF) := by omega
    have high : ¬ (0xD800 ≤ c.toNat ∧ c.toNat ≤ 0xDBFF) := by omega
    rw [List.map_cons, charsOfCodes?.eq_def]
    simp [low, high, ih, Char.ofNat_toNat]

theorem toList_quote (s : String) (rest : List Char) :
    (quote s).toList ++ rest = '"' :: (s.toList.flatMap escapeChar ++ '"' :: rest) := by
  simp [quote]

/-! ## Values -/

theorem skipGaps_append {gap : List Char} (blank : ∀ c ∈ gap, isGap c = true) (cs : List Char) :
    skipGaps (gap ++ cs) = skipGaps cs :=
  List.dropWhile_append_of_pos blank

theorem skipGaps_skipGaps (cs : List Char) : skipGaps (skipGaps cs) = skipGaps cs :=
  List.dropWhile_idempotent isGap cs

theorem readValue_skipGaps (fuel : Nat) (cs : List Char) :
    readValue fuel (skipGaps cs) = readValue fuel cs := by
  cases fuel with
  | zero => rfl
  | succ fuel => rw [readValue, readValue, skipGaps_skipGaps]

/-- A text that holds a value is read as it, whatever follows. -/
def IsReadAs (depth : Nat) (text : String) (j : Json) : Prop :=
  ∃ v, ofSyntax? depth v = some j ∧ ∀ fuel rest, text.length ≤ fuel →
    readValue fuel (text.toList ++ rest) = some (v, rest)

theorem quote_isReadAs (depth : Nat) (s : String) : IsReadAs depth (quote s) (.string s) := by
  refine ⟨.string (s.toList.map Char.toNat), ?_, fun fuel rest enough => ?_⟩
  · simp [ofSyntax?, textOfCodes?, charsOfCodes?_toNat]
  · cases fuel with
    | zero => simp [quote] at enough
    | succ fuel =>
      rw [toList_quote]
      show (readString (s.toList.flatMap escapeChar ++ '"' :: rest)).map _ = _
      rw [readString_escaped]
      rfl

/-! ## Members -/

theorem toList_writeMember (key text : String) (rest : List Char) :
    (Document.Json.writeMember key text).toList ++ rest =
      '"' :: (key.toList.flatMap escapeChar ++ '"' :: ':' :: ' ' :: (text.toList ++ rest)) := by
  simp [Document.Json.writeMember, quote]

section Members

variable {fuel : Nat} {key text : String} {v : Syntax} {cs after rest : List Char}
  {members : List (List Nat × Syntax)}

theorem readValue_after_colon (reads : readValue fuel cs = some (v, rest)) :
    readValue fuel (' ' :: cs) = some (v, rest) := by
  rw [← readValue_skipGaps] at reads ⊢
  exact reads

/-- A member that others follow. -/
theorem readMembers_of_comma
    (starts : skipGaps cs = (Document.Json.writeMember key text).toList ++ ',' :: after)
    (reads : readValue fuel (text.toList ++ ',' :: after) = some (v, ',' :: after))
    (others : readMembers fuel after = some (members, rest)) :
    readMembers (fuel + 1) cs = some ((key.toList.map Char.toNat, v) :: members, rest) := by
  have colon (cs : List Char) : skipGaps (':' :: cs) = ':' :: cs := rfl
  have comma (cs : List Char) : skipGaps (',' :: cs) = ',' :: cs := rfl
  rw [toList_writeMember] at starts
  simp only [readMembers, starts, readString_escaped, colon, readValue_after_colon reads, comma,
    others, Option.map_some]

/-- The last member. -/
theorem readMembers_of_brace
    (starts : skipGaps cs = (Document.Json.writeMember key text).toList ++ after)
    (reads : readValue fuel (text.toList ++ after) = some (v, after))
    (closes : skipGaps after = '\x7d' :: rest) :
    readMembers (fuel + 1) cs = some ([(key.toList.map Char.toNat, v)], rest) := by
  have colon (cs : List Char) : skipGaps (':' :: cs) = ':' :: cs := rfl
  rw [toList_writeMember] at starts
  simp only [readMembers, starts, readString_escaped, colon, readValue_after_colon reads, closes]

end Members

theorem length_writeMember (key text : String) :
    text.length < (Document.Json.writeMember key text).length := by
  have colon : (": " : String).length = 2 := rfl
  simp only [Document.Json.writeMember, String.length_append]
  omega

theorem skipGaps_writeMember (key text : String) (rest : List Char) :
    skipGaps ((Document.Json.writeMember key text).toList ++ rest) =
      (Document.Json.writeMember key text).toList ++ rest := by
  rw [toList_writeMember]
  rfl

section Objects

open Document.Json

variable {α : Type} {depth : Nat} {write : α → String} {value : α → Json} {inner outer : String}

/-- The lines of a table's entries. -/
def entryLines (write : α → String) (inner : String) (entries : List (String × α)) : List Char :=
  (",\n".intercalate (entries.map fun e => inner ++ writeMember e.1 (write e.2))).toList

theorem entryLines_singleton (e : String × α) :
    entryLines write inner [e] = inner.toList ++ (writeMember e.1 (write e.2)).toList := by
  simp [entryLines]

theorem entryLines_cons_cons (e next : String × α) (entries : List (String × α)) :
    entryLines write inner (e :: next :: entries) =
      inner.toList ++ ((writeMember e.1 (write e.2)).toList ++
        ',' :: '\n' :: entryLines write inner (next :: entries)) := by
  simp [entryLines]

/-- The lines are read as the members that they are written of, up to the brace behind them. -/
theorem exists_readMembers (each : ∀ a, IsReadAs depth (write a) (value a))
    (blank : ∀ c ∈ inner.toList, isGap c = true) {entries : List (String × α)}
    (nonempty : entries ≠ []) :
    ∃ members, membersOfSyntax? depth members = some (entries.map fun e => (e.1, value e.2)) ∧
      ∀ fuel cs after rest, (entryLines write inner entries).length ≤ fuel →
        skipGaps cs = skipGaps (entryLines write inner entries ++ after) →
        skipGaps after = '\x7d' :: rest → readMembers fuel cs = some (members, rest) := by
  induction entries with
  | nil => exact absurd rfl nonempty
  | cons e entries ih =>
    obtain ⟨key, a⟩ := e
    obtain ⟨v, holds, reads⟩ := each a
    have size := length_writeMember key (write a)
    cases entries with
    | nil =>
      refine ⟨[(key.toList.map Char.toNat, v)], ?_, ?_⟩
      · simp [membersOfSyntax?, textOfCodes?, charsOfCodes?_toNat, holds]
      · intro fuel cs after rest enough starts closes
        rw [entryLines_singleton] at starts enough
        rw [List.append_assoc, skipGaps_append blank, skipGaps_writeMember] at starts
        simp only [List.length_append, String.length_toList] at enough
        obtain ⟨fuel, rfl⟩ : ∃ n, fuel = n + 1 := ⟨fuel - 1, by omega⟩
        exact readMembers_of_brace starts (reads fuel after (by omega)) closes
    | cons next entries =>
      obtain ⟨members, hold, others⟩ := ih (List.cons_ne_nil next entries)
      refine ⟨(key.toList.map Char.toNat, v) :: members, ?_, ?_⟩
      · simp [membersOfSyntax?, textOfCodes?, charsOfCodes?_toNat, holds, hold]
      · intro fuel cs after rest enough starts closes
        rw [entryLines_cons_cons] at starts enough
        rw [List.append_assoc, List.append_assoc, skipGaps_append blank,
          skipGaps_writeMember] at starts
        simp only [List.length_append, List.length_cons, String.length_toList] at enough
        obtain ⟨fuel, rfl⟩ : ∃ n, fuel = n + 1 := ⟨fuel - 1, by omega⟩
        refine readMembers_of_comma starts (reads fuel _ (by omega)) ?_
        exact others fuel _ after rest (by omega) rfl closes

/-- The first thing on the lines is a key. -/
theorem exists_skipGaps (write : α → String) (blank : ∀ c ∈ inner.toList, isGap c = true)
    {entries : List (String × α)} (nonempty : entries ≠ []) (after : List Char) :
    ∃ cs, skipGaps (entryLines write inner entries ++ after) = '"' :: cs := by
  cases entries with
  | nil => exact absurd rfl nonempty
  | cons e entries =>
    cases entries with
    | nil =>
      rw [entryLines_singleton, List.append_assoc, skipGaps_append blank, skipGaps_writeMember,
        toList_writeMember]
      exact ⟨_, rfl⟩
    | cons next entries =>
      rw [entryLines_cons_cons, List.append_assoc, List.append_assoc, skipGaps_append blank,
        skipGaps_writeMember, toList_writeMember]
      exact ⟨_, rfl⟩

theorem writeMembers_nil (outer : String) : writeMembers outer [] = "\x7b\x7d" := rfl

theorem toList_writeMembers (write : α → String) (outer : String) {entries : List (String × α)}
    (nonempty : entries ≠ []) (rest : List Char) :
    (writeMembers outer (entries.map fun e => writeMember e.1 (write e.2))).toList ++ rest =
      '\x7b' :: '\n' :: (entryLines write (outer ++ "  ") entries ++
        '\n' :: (outer.toList ++ '\x7d' :: rest)) := by
  unfold writeMembers
  rw [if_neg (by simpa using nonempty)]
  simp [entryLines, Function.comp_def]

theorem exists_toList_writeMembers (write : α → String) (outer : String)
    (entries : List (String × α)) :
    ∃ cs, (writeMembers outer (entries.map fun e => writeMember e.1 (write e.2))).toList =
      '\x7b' :: cs := by
  cases entries with
  | nil =>
    rw [List.map_nil, writeMembers_nil]
    exact ⟨['\x7d'], rfl⟩
  | cons e entries =>
    have nonempty := List.cons_ne_nil e entries
    rw [← List.append_nil (String.toList _), toList_writeMembers write outer nonempty]
    exact ⟨_, rfl⟩

theorem sortMembers_entries (value : α → Json) (t : Table α) :
    sortMembers (t.entries.map fun e => (e.1, value e.2)) =
      t.entries.map fun e => (e.1, value e.2) :=
  Table.foldl_insertEntry (l := []) (List.pairwise_map.2 t.sorted)

/-- A table written as an object is read as the object of its entries. -/
theorem writeMembers_isReadAs (each : ∀ a, IsReadAs depth (write a) (value a))
    (blank : ∀ c ∈ outer.toList, isGap c = true) (t : Table α) :
    IsReadAs (depth + 1) (writeMembers outer (t.entries.map fun e => writeMember e.1 (write e.2)))
      (.object (t.entries.map fun e => (e.1, value e.2))) := by
  by_cases empty : t.entries = []
  · rw [empty, List.map_nil, List.map_nil, writeMembers_nil]
    refine ⟨.object [], rfl, fun fuel rest enough => ?_⟩
    have positive : 0 < fuel := Nat.lt_of_lt_of_le (by decide) enough
    obtain ⟨fuel, rfl⟩ : ∃ n, fuel = n + 1 := ⟨fuel - 1, by omega⟩
    rfl
  · have indented : ∀ c ∈ (outer ++ "  ").toList, isGap c = true := by
      intro c hc
      rw [String.toList_append] at hc
      rcases List.mem_append.1 hc with hc | hc
      · exact blank c hc
      · exact List.all_eq_true.1 (show ("  " : String).toList.all isGap = true from rfl) c hc
    obtain ⟨members, hold, reads⟩ := exists_readMembers each indented empty
    refine ⟨.object members, ?_, fun fuel rest enough => ?_⟩
    · simp only [ofSyntax?, hold, Option.map_some, sortMembers_entries]
    · have text := toList_writeMembers write outer empty rest
      have size := congrArg List.length text
      simp only [List.length_append, List.length_cons, String.length_toList] at size
      obtain ⟨fuel, rfl⟩ : ∃ n, fuel = n + 1 := ⟨fuel - 1, by omega⟩
      generalize behind : '\n' :: (outer.toList ++ '\x7d' :: rest) = after at text
      have closes : skipGaps after = '\x7d' :: rest := by
        rw [← behind]
        exact skipGaps_append blank ('\x7d' :: rest)
      obtain ⟨cs, starts⟩ := exists_skipGaps write indented empty after
      have whole := reads fuel ('"' :: cs) after rest (by omega)
        (by rw [← starts, skipGaps_skipGaps]) closes
      have brace (cs : List Char) : skipGaps ('\x7b' :: cs) = '\x7b' :: cs := rfl
      have line (cs : List Char) : skipGaps ('\n' :: cs) = skipGaps cs := rfl
      rw [text]
      simp only [readValue, brace, line, starts]
      -- No brace closes the object at once.
      show (readMembers fuel ('"' :: cs)).map _ = _
      rw [whole]
      rfl

end Objects

end Json

/-! ## Documents -/

namespace Document

open NodeSettings.Json Syntax

/-- The value that a document is written as. -/
def groupJson (t : Table String) : NodeSettings.Json :=
  .object (t.entries.map fun e => (e.1, .string e.2))

theorem foldlM_insert {ε α β : Type} (step : Table α → String × β → Except ε (Table α))
    (value : α → β) (each : ∀ t key a, step t (key, value a) = .ok (t.insert key a))
    (t : Table α) : (t.entries.map fun e => (e.1, value e.2)).foldlM step ∅ = .ok t := by
  have all (entries : List (String × α)) (u : Table α) :
      (entries.map fun e => (e.1, value e.2)).foldlM step u =
        .ok (entries.foldl (fun t e => t.insert e.1 e.2) u) := by
    induction entries generalizing u with
    | nil => rfl
    | cons e entries ih =>
      rw [List.map_cons, List.foldlM_cons, each]
      exact ih _
  rw [all]
  exact congrArg Except.ok t.ofList_entries

theorem groupOfJson_groupJson (group : String) (t : Table String) :
    Json.groupOfJson group (groupJson t) = .ok t :=
  foldlM_insert _ NodeSettings.Json.string (fun _ _ _ => rfl) t

theorem ofJson_entries (d : Document) :
    ofJson (.object (d.entries.map fun e => (e.1, groupJson e.2))) = .ok d := by
  refine foldlM_insert _ groupJson (fun t key a => ?_) d
  rw [groupOfJson_groupJson]
  rfl

/-- Whatever texts a document holds, what it is written as in JSON is read back as the document. -/
theorem decode_encode_json (d : Document) : decode (d.encode .json) .json = .ok d := by
  have spaces : ("  " : String).toList.all isGap = true := rfl
  have nothing : ("" : String).toList.all isGap = true := rfl
  have groups (t : Table String) : IsReadAs 126 (Json.writeGroup t) (groupJson t) :=
    writeMembers_isReadAs (quote_isReadAs 125) (List.all_eq_true.1 spaces) t
  obtain ⟨v, holds, reads⟩ := writeMembers_isReadAs groups (List.all_eq_true.1 nothing) d
  obtain ⟨cs, front⟩ := exists_toList_writeMembers Json.writeGroup "" d.entries
  generalize body : Json.writeMembers "" (d.entries.map fun e =>
    Json.writeMember e.1 (Json.writeGroup e.2)) = text at reads front
  have written : d.encode .json = text ++ "\n" := by
    rw [← body]
    rfl
  have solid : (text ++ "\n").toList.all Text.isBlank = false := by
    rw [String.toList_append, front]
    rfl
  have read : readValue (2 * (text ++ "\n").length + 2) (text ++ "\n").toList =
      some (v, ['\n']) := by
    have enough : text.length ≤ 2 * (text ++ "\n").length + 2 := by
      rw [String.length_append]
      omega
    rw [String.toList_append]
    exact reads _ _ enough
  have parsed : NodeSettings.Json.parse? (text ++ "\n") =
      some (.object (d.entries.map fun e => (e.1, groupJson e.2))) := by
    unfold NodeSettings.Json.parse? Syntax.parse?
    rw [read]
    exact holds
  rw [written, decode, solid, if_neg Bool.false_ne_true]
  simp only [parsed]
  exact ofJson_entries d

/-- The JSON text of a document gives the document back, so that different documents never have one
text. -/
theorem encode_json_faithful (d d' : Document) :
    decode (d.encode .json) .json = .ok d ∧ (d.encode .json = d'.encode .json ↔ d = d') := by
  refine ⟨decode_encode_json d, fun same => ?_, fun same => by rw [same]⟩
  have read : decode (d.encode .json) .json = .ok d' := by
    rw [same]
    exact decode_encode_json d'
  rw [decode_encode_json d] at read
  exact Except.ok.inj read

end Document
end NodeSettings
