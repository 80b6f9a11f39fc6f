/-!
Blank characters and trimming. `trim_of_tight`: a text that neither starts nor ends with a blank is
its own trimming.
-/

namespace NodeSettings.Text

/-- The characters with the `White_Space` property. -/
def isBlank (c : Char) : Bool :=
  let n := c.toNat
  (9 ≤ n && n ≤ 13) || n == 0x20 || n == 0x85 || n == 0xA0 || n == 0x1680 ||
  (0x2000 ≤ n && n ≤ 0x200A) || n == 0x2028 || n == 0x2029 || n == 0x202F || n == 0x205F ||
  n == 0x3000

/-- Drops the blanks at the front. -/
def trimStart (cs : List Char) : List Char := cs.dropWhile isBlank

/-- Drops the blanks at both ends. -/
def trimChars (cs : List Char) : List Char := (trimStart (trimStart cs).reverse).reverse

/-- The text without the blanks that surround it. -/
def trim (s : String) : String := String.ofList (trimChars s.toList)

theorem isBlank_of_isDigit {c : Char} (h : c.isDigit = true) : isBlank c = false := by
  obtain ⟨least, most⟩ := Char.isDigit_iff_toNat.1 h
  have least : 48 ≤ c.toNat := least
  have most : c.toNat ≤ 57 := most
  simp [isBlank]
  omega

/-- Only what is behind the last character that is no blank is trimmed at the end. -/
theorem trimEnd_append (before : List Char) {c : Char} (shown : isBlank c = false)
    (behind : List Char) :
    (trimStart (before ++ c :: behind).reverse).reverse =
      before ++ c :: (trimStart behind.reverse).reverse := by
  have stops : trimStart (c :: before.reverse) = c :: before.reverse :=
    List.dropWhile_cons_of_neg (by simp [shown])
  have dropped : trimStart (behind.reverse ++ c :: before.reverse) =
      trimStart behind.reverse ++ c :: before.reverse := by
    rw [trimStart, List.dropWhile_append]
    split
    · next none =>
      rw [trimStart, List.isEmpty_iff.1 none, List.nil_append]
      exact stops
    · rfl
  rw [List.reverse_append, List.reverse_cons, List.append_assoc, List.singleton_append, dropped]
  simp

theorem trimStart_append {blanks : List Char} (all : ∀ c ∈ blanks, isBlank c = true)
    (cs : List Char) : trimStart (blanks ++ cs) = trimStart cs := by
  induction blanks with
  | nil => rfl
  | cons c blanks ih =>
    obtain ⟨blank, all⟩ := List.forall_mem_cons.1 all
    rw [List.cons_append, trimStart, List.dropWhile_cons_of_pos blank]
    exact ih all

/-- A list is its trimming with blanks around it. -/
theorem exists_append_trimChars (cs : List Char) : ∃ before behind,
    cs = before ++ trimChars cs ++ behind ∧ (∀ c ∈ before, isBlank c = true) ∧
      ∀ c ∈ behind, isBlank c = true := by
  have split (cs : List Char) : cs = cs.takeWhile isBlank ++ trimStart cs :=
    List.takeWhile_append_dropWhile.symm
  have blanks (cs : List Char) : ∀ c ∈ cs.takeWhile isBlank, isBlank c = true := fun c hc =>
    List.all_eq_true.1 List.all_takeWhile c hc
  refine ⟨cs.takeWhile isBlank, ((trimStart cs).reverse.takeWhile isBlank).reverse, ?_, blanks cs,
    fun c hc => blanks _ c (List.mem_reverse.1 hc)⟩
  rw [trimChars, List.append_assoc, ← List.reverse_append, ← split, List.reverse_reverse, ← split]

theorem trimStart_of_head {cs : List Char} (h : ∀ c, cs.head? = some c → isBlank c = false) :
    trimStart cs = cs := by
  cases cs with
  | nil => rfl
  | cons c r => simp [trimStart, h c rfl]

/-- Trimming a stretch without blanks takes what is blank in front of it and at the end of what is
behind it. -/
theorem trimChars_append {blanks cs : List Char} (all : ∀ c ∈ blanks, isBlank c = true)
    (some_ : cs ≠ []) (shown : ∀ c ∈ cs, isBlank c = false) (behind : List Char) :
    trimChars (blanks ++ (cs ++ behind)) = cs ++ (trimStart behind.reverse).reverse := by
  have first : trimStart (cs ++ behind) = cs ++ behind := by
    refine trimStart_of_head fun c hc => shown c ?_
    cases cs with
    | nil => exact absurd rfl some_
    | cons _ _ =>
      cases hc
      exact List.mem_cons_self
  obtain ⟨front, last, rfl⟩ := (List.eq_nil_or_concat cs).resolve_left some_
  rw [trimChars, trimStart_append all, first, List.concat_append,
    trimEnd_append front (shown last (by simp)), List.concat_append]

theorem trimChars_of_tight {cs : List Char} (first : ∀ c, cs.head? = some c → isBlank c = false)
    (last : ∀ c, cs.getLast? = some c → isBlank c = false) : trimChars cs = cs := by
  rw [trimChars, trimStart_of_head first, trimStart_of_head, List.reverse_reverse]
  simpa using last

theorem trim_of_tight {s : String} (first : ∀ c, s.toList.head? = some c → isBlank c = false)
    (last : ∀ c, s.toList.getLast? = some c → isBlank c = false) : trim s = s := by
  rw [trim, trimChars_of_tight first last, String.ofList_toList]

end NodeSettings.Text
