import NodeSettings.Text.Numeral

/-!
Characters of YAML texts, places in a text, and the gaps between the words of a scalar.
-/

namespace NodeSettings.Yaml

/-- Whether a text may hold a character at all. -/
def isPermitted (c : Char) : Bool :=
  let n := c.toNat
  n == 0x09 || n == 0x0A || n == 0x0D || (0x20 ≤ n && n ≤ 0x7E) || n == 0x85
    || (0xA0 ≤ n && n ≤ 0xD7FF) || (0xE000 ≤ n && n ≤ 0xFFFD) || 0x10000 ≤ n

def isByteOrderMark (c : Char) : Bool := c.toNat == 0xFEFF

def isBlank (c : Char) : Bool := c == ' ' || c == '\t'

def isBreak (c : Char) : Bool :=
  c == '\n' || c == '\r' || c.toNat == 0x85 || c.toNat == 0x2028 || c.toNat == 0x2029

def isGap (c : Char) : Bool := isBlank c || isBreak c

/-- Whether a text is at its end, at a blank or at a line break. -/
def startsGap : List Char → Bool
  | [] => true
  | c :: _ => isGap c

/-- Characters of names of anchors, handles and directives. -/
def isNameChar (c : Char) : Bool := c.isAlphanum || c == '-' || c == '_'

/-- A place in a text. -/
structure Mark where
  line : Nat
  column : Nat
  index : Nat
deriving DecidableEq

namespace Mark

def start : Mark := ⟨0, 0, 0⟩

/-- The place after `count` characters of a line. -/
def advance (m : Mark) (count : Nat) : Mark :=
  { m with column := m.column + count, index := m.index + count }

/-- The place after a line break of `count` characters. -/
def newLine (m : Mark) (count : Nat) : Mark := ⟨m.line + 1, 0, m.index + count⟩

end Mark

/-- The rest of a text and the place where it begins. -/
structure Cursor where
  rest : List Char
  mark : Mark

namespace Cursor

/-- Passes characters of one line. -/
def skip (c : Cursor) (count : Nat) : Cursor := ⟨c.rest.drop count, c.mark.advance count⟩

/-- Passes the characters of one line that satisfy a test, and returns them too. -/
def span (c : Cursor) (test : Char → Bool) : List Char × Cursor :=
  let taken := c.rest.takeWhile test
  (taken, c.skip taken.length)

def skipWhile (c : Cursor) (test : Char → Bool) : Cursor := (c.span test).2

/-- Passes a line break, if there is one, and returns what it counts as: the two line separators
stand for themselves, all others for a line feed. -/
def breakLine (c : Cursor) : List Char × Cursor :=
  match c.rest with
  | '\r' :: '\n' :: rest => (['\n'], ⟨rest, c.mark.newLine 2⟩)
  | b :: rest =>
    if isBreak b then
      (if b.toNat = 0x2028 || b.toNat = 0x2029 then [b] else ['\n'], ⟨rest, c.mark.newLine 1⟩)
    else ([], c)
  | [] => ([], c)

/-- Whether `---` or `...` stands alone at the start of a line. -/
def atDocumentMark (c : Cursor) : Bool :=
  c.mark.column == 0 &&
    match c.rest with
    | '-' :: '-' :: '-' :: rest => startsGap rest
    | '.' :: '.' :: '.' :: rest => startsGap rest
    | _ => false

/-- Passes blanks and a comment up to the end of the line, which must come then. -/
def endLine? (c : Cursor) : Option Cursor :=
  let c := c.skipWhile isBlank
  let c := if c.rest.head? == some '#' then c.skipWhile (!isBreak ·) else c
  match c.rest with
  | [] => some c
  | b :: _ => if isBreak b then some c.breakLine.2 else none

theorem length_breakLine_lt {c : Cursor} {b : Char} {rest : List Char} (h : c.rest = b :: rest)
    (hb : isBreak b = true) : c.breakLine.2.rest.length < c.rest.length := by
  rw [h]
  unfold breakLine
  split
  · rename_i more e
    rw [h, List.cons.injEq] at e
    rw [e.2]
    simp only [List.length_cons]
    omega
  · rename_i e
    rw [h, List.cons.injEq] at e
    obtain ⟨rfl, rfl⟩ := e
    simp [hb]
  · rename_i e
    simp [h] at e

end Cursor

/-- Blanks and line breaks between two words of a scalar. -/
structure Gap where
  /-- The blanks before any line break. -/
  blanks : List Char := []
  hasBreak : Bool := false
  firstBreak : List Char := []
  moreBreaks : List Char := []

namespace Gap

/-- What a gap counts as: blanks as they are, a line break as a space, further ones as they are. -/
def folded (g : Gap) : List Char :=
  if !g.hasBreak then g.blanks
  else if g.firstBreak = ['\n'] then if g.moreBreaks.isEmpty then [' '] else g.moreBreaks
  else g.firstBreak ++ g.moreBreaks

/-- Passes a gap. Blanks after a line break do not count; a tab there is refused where the column
is one that `noTab` names. -/
def scan? (noTab : Nat → Bool) (g : Gap) (c : Cursor) : Option (Gap × Cursor) :=
  match h : c.rest with
  | [] => some (g, c)
  | b :: rest =>
    if isBlank b then
      if g.hasBreak then
        if b = '\t' && noTab c.mark.column then none else scan? noTab g ⟨rest, c.mark.advance 1⟩
      else scan? noTab { g with blanks := g.blanks ++ [b] } ⟨rest, c.mark.advance 1⟩
    else if hb : isBreak b then
      let text := c.breakLine.1
      have : c.breakLine.2.rest.length < c.rest.length := Cursor.length_breakLine_lt h hb
      if g.hasBreak then scan? noTab { g with moreBreaks := g.moreBreaks ++ text } c.breakLine.2
      else scan? noTab { g with hasBreak := true, firstBreak := text, blanks := [] } c.breakLine.2
    else some (g, c)
termination_by c.rest.length
decreasing_by all_goals simp_all

end Gap
end NodeSettings.Yaml
