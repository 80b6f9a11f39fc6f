import NodeSettings.Yaml.Token

/-!
From a YAML text to its tokens. A token that turns out to be a key gets its mark afterwards, in
front of it; until then it is kept as pending, one for each level of brackets.
-/

namespace NodeSettings.Yaml

/-- A token that may turn out to be a key. -/
structure PendingKey where
  /-- How many tokens stand before it. -/
  position : Nat
  mark : Mark
  /-- Whether the indentation leaves no other reading. -/
  required : Bool

structure Scanner where
  cursor : Cursor
  tokens : Array Token := #[]
  /-- The columns of the open blocks, innermost first. -/
  indents : List Nat := []
  flowLevel : Nat := 0
  keyAllowed : Bool := true
  /-- The pending keys, of the innermost level first. -/
  keys : List (Option PendingKey) := [none]
  /-- The names of anchors so far, each with the label of its last use. -/
  labels : List (List Char × Nat) := []

namespace Scanner

/-- The column of the innermost open block; -1 outside all blocks. -/
def indent (s : Scanner) : Int := (s.indents.head?.map fun n => (n : Int)).getD (-1)

def inFlow (s : Scanner) : Bool := s.flowLevel != 0

def push (s : Scanner) (t : Token) : Scanner := { s with tokens := s.tokens.push t }

/-- Passes characters of one line. -/
def skip (s : Scanner) (count : Nat) : Scanner := { s with cursor := s.cursor.skip count }

/-- The end of the blanks and the comment at the cursor. Where a block key may begin, tabs do not
count as blanks. -/
def afterBlanks (s : Scanner) : Cursor :=
  let c := s.cursor
  let c := if c.mark.column = 0 && (c.rest.head?).any isByteOrderMark then c.skip 1 else c
  let c := c.skipWhile fun d => d == ' ' || (d == '\t' && (s.inFlow || !s.keyAllowed))
  if c.rest.head? == some '#' then c.skipWhile (!isBreak ·) else c

/-- Passes blanks, comments and line breaks; a line break outside brackets allows a key again. -/
def skipToToken (s : Scanner) : Scanner :=
  if !(s.afterBlanks.rest.head?).any isBreak then { s with cursor := s.afterBlanks }
  else if _ : s.afterBlanks.breakLine.2.rest.length < s.cursor.rest.length then
    skipToToken { s with
      cursor := s.afterBlanks.breakLine.2, keyAllowed := s.keyAllowed || !s.inFlow }
  else { s with cursor := s.afterBlanks }
termination_by s.cursor.rest.length

/-- Gives up keys that are on an earlier line or too far back. -/
def dropStaleKeys? (s : Scanner) : Option Scanner :=
  let isStale (k : PendingKey) : Bool :=
    k.mark.line < s.cursor.mark.line || k.mark.index + 1024 < s.cursor.mark.index
  if s.keys.any fun key => key.any fun k => isStale k && k.required then none
  else
    some { s with
      keys := s.keys.map fun key => if key.any isStale then none else key }

/-- Closes the blocks that are indented deeper than a column. -/
def closeBlocks (s : Scanner) (column : Int) : Scanner :=
  if s.inFlow then s
  else
    let closed := s.indents.takeWhile fun (n : Nat) => column < (n : Int)
    { s with
      indents := s.indents.drop closed.length
      tokens := s.tokens ++ Array.replicate closed.length .blockEnd }

/-- Opens a block at a column deeper than the innermost one, in front of the token at `position`. -/
def openBlock (s : Scanner) (column position : Nat) (t : Token) : Scanner :=
  if s.inFlow || (column : Int) ≤ s.indent then s
  else
    { s with
      indents := column :: s.indents
      tokens := s.tokens.insertIdxIfInBounds position t }

/-- Gives up the pending key of the innermost level. -/
def dropKey? (s : Scanner) : Option Scanner :=
  match s.keys with
  | some k :: keys => if k.required then none else some { s with keys := none :: keys }
  | _ => some s

/-- Notes that the next token may be a key. -/
def saveKey? (s : Scanner) : Option Scanner :=
  if s.keyAllowed then
    let required := !s.inFlow && s.indent == (s.cursor.mark.column : Int)
    (s.dropKey?).map fun s =>
      { s with keys := some ⟨s.tokens.size, s.cursor.mark, required⟩ :: s.keys.drop 1 }
  else some s

/-- A token that may be a key, with the scanner at its end. -/
def pushKeyLike? (s : Scanner) (scan : Scanner → Option (Token × Cursor × Bool)) :
    Option Scanner :=
  match s.saveKey? with
  | none => none
  | some s =>
    match scan s with
    | some (t, cursor, endsLine) =>
      some { s with cursor, keyAllowed := endsLine, tokens := s.tokens.push t }
    | none => none

/-- Closes everything at the start of a directive or a document. -/
private def closeAll? (s : Scanner) : Option Scanner :=
  ((s.closeBlocks (-1)).dropKey?).map fun s => { s with keyAllowed := false }

private def documentMark? (s : Scanner) (t : Token) : Option Scanner :=
  (s.closeAll?).map fun s => (s.push t).skip 3

private def directive? (s : Scanner) : Option Scanner :=
  match s.closeAll? with
  | none => none
  | some s =>
    (readDirective? (s.cursor.skip 1)).map fun (t, cursor) => { s.push t with cursor }

def openFlow? (s : Scanner) (t : Token) : Option Scanner :=
  (s.saveKey?).map fun s =>
    { (s.push t).skip 1 with
      flowLevel := s.flowLevel + 1, keys := none :: s.keys, keyAllowed := true }

def closeFlow? (s : Scanner) (t : Token) : Option Scanner :=
  (s.dropKey?).map fun s =>
    { (s.push t).skip 1 with
      flowLevel := s.flowLevel - 1
      keys := if s.inFlow then s.keys.drop 1 else s.keys
      keyAllowed := false }

private def flowEntry? (s : Scanner) : Option Scanner :=
  (s.dropKey?).map fun s => { (s.push .flowEntry).skip 1 with keyAllowed := true }

/-- An entry or a key with a mark of its own, which in a block must stand where a key may. -/
def marked? (s : Scanner) (block t : Token) (keyAllowed : Bool) : Option Scanner :=
  if !s.inFlow && !s.keyAllowed then none
  else
    ((s.openBlock s.cursor.mark.column s.tokens.size block).dropKey?).map fun s =>
      { (s.push t).skip 1 with keyAllowed }

/-- The colon before a value: it makes a key of the pending token, if there is one. -/
def value? (s : Scanner) : Option Scanner :=
  match s.keys with
  | some k :: keys =>
    let s := { s with
      tokens := s.tokens.insertIdxIfInBounds k.position .key
      keys := none :: keys, keyAllowed := false }
    some ((s.openBlock k.mark.column k.position .blockMappingStart).push .value |>.skip 1)
  | _ =>
    if !s.inFlow && !s.keyAllowed then none
    else
      let s := s.openBlock s.cursor.mark.column s.tokens.size .blockMappingStart
      some { (s.push .value).skip 1 with keyAllowed := !s.inFlow }

/-- An anchor's label is the number of different names before it, so two anchors may share one. -/
private def anchor? (s : Scanner) : Option Scanner :=
  match readAnchor? (s.cursor.skip 1) with
  | none => none
  | some (name, c) =>
    let label := s.labels.length
    (s.pushKeyLike? fun _ => some (.anchor label, c, false)).map fun s =>
      { s with labels := (name, label) :: s.labels.filter (·.1 != name) }

/-- An alias has the label of the last anchor of its name. -/
private def reference? (s : Scanner) : Option (Token × Cursor × Bool) :=
  match readAnchor? (s.cursor.skip 1) with
  | none => none
  | some (name, c) => (s.labels.lookup name).map fun label => (.reference label, c, false)

def quoted? (single : Bool) (s : Scanner) : Option (Token × Cursor × Bool) :=
  (quotedRest? single [] (s.cursor.skip 1)).map fun r => (.scalar r.text false, r.cursor, false)

def plain? (s : Scanner) : Option (Token × Cursor × Bool) :=
  (plainWords? s.inFlow (s.indent + 1) {} [] s.cursor).map fun r =>
    (.scalar r.text true, r.cursor, r.endsLine)

def block? (s : Scanner) (literal : Bool) : Option Scanner :=
  match s.dropKey? with
  | none => none
  | some s =>
    (blockScalar? literal s.indent (s.cursor.skip 1)).map fun r =>
      { s.push (.scalar r.text false) with cursor := r.cursor, keyAllowed := true }

/-- Whether a plain scalar may begin with these characters. -/
def startsPlain (inFlow : Bool) : List Char → Bool
  | [] => false
  | c :: rest =>
    (!isGap c && !("-?:,[]\x7b\x7d#&*!|>'\"%@`".toList.contains c))
      || (c == '-' && !(rest.head?).any isBlank)
      || (!inFlow && (c == '?' || c == ':') && !startsGap rest)

/-- Scans the token at the cursor, which stands at one. -/
def fetch? (s : Scanner) : Option Scanner :=
  match s.cursor.rest with
  | [] => some s
  | c :: rest =>
    let atStart := s.cursor.mark.column == 0
    let isSpaced := startsGap rest
    if atStart && c = '%' then s.directive?
    else if s.cursor.atDocumentMark then
      s.documentMark? (if c = '-' then .documentStart else .documentEnd)
    else if c = '[' then s.openFlow? .flowSequenceStart
    else if c = '\x7b' then s.openFlow? .flowMappingStart
    else if c = ']' then s.closeFlow? .flowSequenceEnd
    else if c = '\x7d' then s.closeFlow? .flowMappingEnd
    else if c = ',' then s.flowEntry?
    else if c = '-' && isSpaced then s.marked? .blockSequenceStart .blockEntry true
    else if c = '?' && (s.inFlow || isSpaced) then
      s.marked? .blockMappingStart .key (!s.inFlow)
    else if c = ':' && (s.inFlow || isSpaced) then s.value?
    else if c = '*' then s.pushKeyLike? reference?
    else if c = '&' then s.anchor?
    else if c = '!' then
      s.pushKeyLike? fun s => (readTag? s.inFlow s.cursor).map fun (t, c) => (t, c, false)
    else if c = '|' && !s.inFlow then s.block? true
    else if c = '>' && !s.inFlow then s.block? false
    else if c = '\'' then s.pushKeyLike? (quoted? true)
    else if c = '"' then s.pushKeyLike? (quoted? false)
    else if startsPlain s.inFlow (c :: rest) then s.pushKeyLike? plain?
    else none

/-- Scans tokens to the end of the text. -/
def run? (s : Scanner) : Option (List Token) :=
  match s.skipToToken.dropStaleKeys? with
  | none => none
  | some ready =>
    if ready.cursor.rest.isEmpty then
      ((ready.closeBlocks (-1)).dropKey?).map fun s => s.tokens.toList
    else
      match (ready.closeBlocks ready.cursor.mark.column).fetch? with
      | none => none
      | some next =>
        if next.cursor.rest.length < s.cursor.rest.length then next.run? else none
termination_by s.cursor.rest.length

end Scanner

/-- The tokens of a text. -/
def tokens? (text : List Char) : Option (List Token) :=
  if text.all isPermitted then Scanner.run? { cursor := ⟨text, .start⟩ } else none

end NodeSettings.Yaml
