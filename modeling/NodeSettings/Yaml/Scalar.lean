import NodeSettings.Yaml.Characters

/-!
Scanning of scalars: plain ones, quoted ones and blocks of lines.
-/

namespace NodeSettings.Yaml

open Text

/-- One word of a plain scalar. In brackets a colon must not run into another indicator. -/
def plainWord? (inFlow : Bool) : List Char → Option (List Char)
  | [] => some []
  | c :: rest =>
    if isGap c then some []
    else if inFlow && c = ':' && (rest.head?).any (",?[]\x7b\x7d".toList.contains ·) then none
    else if c = ':' && startsGap rest then some []
    else if inFlow && (c = ',' || c = '[' || c = ']' || c = '\x7b' || c = '\x7d') then some []
    else (plainWord? inFlow rest).map (c :: ·)

/-- A scanned scalar: its text, where it ends, and whether a line break was passed after it. -/
structure Scanned where
  text : List Char
  cursor : Cursor
  endsLine : Bool

/-- The words of a plain scalar from a cursor on, after a gap that counts only if a word follows.
`indent` is how far a word on a further line must be indented. -/
def plainWords? (inFlow : Bool) (indent : Int) (gap : Gap) (text : List Char) (c : Cursor) :
    Option Scanned :=
  let stop : Scanned := ⟨text, c, gap.hasBreak⟩
  if c.atDocumentMark || c.rest.head? == some '#' then some stop
  else
    match plainWord? inFlow c.rest with
    | none => none
    | some [] => some stop
    | some (w :: ws) =>
      let word := w :: ws
      let text := text ++ gap.folded ++ word
      let after := c.skip word.length
      if startsGap after.rest && !after.rest.isEmpty then
        match Gap.scan? (fun column => (column : Int) < indent) {} after with
        | none => none
        | some (gap, next) =>
          if !inFlow && (next.mark.column : Int) < indent then some ⟨text, next, gap.hasBreak⟩
          else if next.rest.length < c.rest.length then
            plainWords? inFlow indent gap text next
          else none
      else some ⟨text, after, false⟩
termination_by c.rest.length

/-- One stretch of a quoted scalar between gaps: its text, what follows, and whether a backslash at
the end of the line ended it. -/
structure Stretch where
  text : List Char
  rest : List Char
  continues : Bool := false

/-- A stretch between single quotes, where a quote is written twice. -/
def singleStretch : List Char → Stretch
  | [] => ⟨[], [], false⟩
  | '\'' :: '\'' :: rest =>
    let s := singleStretch rest
    { s with text := '\'' :: s.text }
  | c :: rest =>
    if c = '\'' || isGap c then ⟨[], c :: rest, false⟩
    else
      let s := singleStretch rest
      { s with text := c :: s.text }

/-- The character of an escape that is one letter. -/
def escapeChar? (c : Char) : Option Char :=
  match c with
  | '0' => some '\x00'
  | 'a' => some '\x07'
  | 'b' => some '\x08'
  | 't' | '\t' => some '\t'
  | 'n' => some '\n'
  | 'v' => some '\x0b'
  | 'f' => some '\x0c'
  | 'r' => some '\r'
  | 'e' => some '\x1b'
  | ' ' | '"' | '/' | '\\' => some c
  | 'N' => some '\x85'
  | '_' => some '\xa0'
  | 'L' => some '\u2028'
  | 'P' => some '\u2029'
  | _ => none

/-- How many digits follow the letter of an escape that names a code point. -/
def escapeWidth? (c : Char) : Option Nat :=
  match c with
  | 'x' => some 2
  | 'u' => some 4
  | 'U' => some 8
  | _ => none

/-- The character that digits name. -/
def charOfDigits? (width : Nat) (cs : List Char) : Option Char :=
  let digits := cs.take width
  if digits.length < width then none
  else
    match natOfDigits? 16 digits with
    | some n => if n.isValidChar then some (.ofNat n) else none
    | none => none

/-- A stretch between double quotes, with escapes. -/
def doubleStretch? (cs : List Char) : Option Stretch :=
  match cs with
  | [] => some ⟨[], [], false⟩
  | c :: rest =>
    if c = '"' || isGap c then some ⟨[], c :: rest, false⟩
    else if c = '\\' then
      match rest with
      | [] => none
      | e :: more =>
        if isBreak e then some ⟨[], rest, true⟩
        else
          match escapeWidth? e with
          | some width =>
            match charOfDigits? width more with
            | some d =>
              (doubleStretch? (more.drop width)).map fun s => { s with text := d :: s.text }
            | none => none
          | none =>
            match escapeChar? e with
            | some d => (doubleStretch? more).map fun s => { s with text := d :: s.text }
            | none => none
    else (doubleStretch? rest).map fun s => { s with text := c :: s.text }
termination_by cs.length
decreasing_by all_goals (simp; try omega)

/-- The rest of a quoted scalar after its opening quote. -/
def quotedRest? (single : Bool) (text : List Char) (c : Cursor) : Option Scanned :=
  if c.atDocumentMark then none
  else
    let stretch := if single then some (singleStretch c.rest) else doubleStretch? c.rest
    match stretch with
    | none => none
    | some s =>
      let text := text ++ s.text
      let passed := c.rest.length - s.rest.length
      let after : Cursor := ⟨s.rest, c.mark.advance passed⟩
      let (gap, after) : Gap × Cursor :=
        if s.continues then ({ hasBreak := true }, after.breakLine.2) else ({}, after)
      match after.rest with
      | [] => none
      | q :: _ =>
        if q = (if single then '\'' else '"') then some ⟨text, after.skip 1, false⟩
        else
          match gap.scan? (fun _ => false) after with
          | none => none
          | some (gap, next) =>
            if next.rest.length < c.rest.length then
              quotedRest? single (text ++ gap.folded) next
            else none
termination_by c.rest.length

/-- What becomes of the line breaks at the end of a block. -/
inductive Chomp where
  | clip | strip | keep
deriving DecidableEq

/-- The header of a block after its first mark: how its end is chomped, and how far it is indented
if the header says so. -/
def blockHeader? (c : Cursor) : Option (Chomp × Option Nat × Cursor) :=
  let chomp? (cs : List Char) : Option Chomp :=
    match cs with
    | '+' :: _ => some .keep
    | '-' :: _ => some .strip
    | _ => none
  let indent? (cs : List Char) : Option Nat :=
    match cs with
    | d :: _ => if d.isDigit then some (d.toNat - 48) else none
    | [] => none
  let (chomp, c) := match chomp? c.rest with
    | some k => (some k, c.skip 1)
    | none => (none, c)
  let (indent, c) := match indent? c.rest with
    | some n => (some n, c.skip 1)
    | none => (none, c)
  let (chomp, c) := match chomp, indent, chomp? c.rest with
    | none, some _, some k => (some k, c.skip 1)
    | _, _, _ => (chomp, c)
  if indent = some 0 then none
  else (c.endLine?).map fun c => (chomp.getD .clip, indent, c)

/-- Passes indentation and empty lines of a block. While the indentation is not known, `deepest`
collects the deepest one; a tab in its place is refused. -/
def blockBreaks? (indent : Option Nat) (deepest : Nat) (breaks : List Char) (c : Cursor) :
    Option (Nat × List Char × Cursor) :=
  let room := match indent with
    | some n => n - c.mark.column
    | none => c.rest.length
  let spaces := (c.rest.take room).takeWhile (· == ' ')
  let c' := c.skip spaces.length
  let deepest := max deepest c'.mark.column
  let isShort := match indent with
    | some n => decide (c'.mark.column < n)
    | none => true
  match c'.rest with
  | [] => some (deepest, breaks, c')
  | b :: _ =>
    if isShort && b = '\t' then none
    else if isBreak b then
      let (text, next) := c'.breakLine
      if next.rest.length < c.rest.length then
        blockBreaks? indent deepest (breaks ++ text) next
      else none
    else some (deepest, breaks, c')
termination_by c.rest.length

/-- What a block has gathered: its text, the break after its last line and the empty lines after
that. -/
structure Block where
  text : List Char := []
  lineBreak : List Char := []
  breaks : List Char := []
  startsBlank : Bool := false

/-- Lines of a block. In a folded block a break between two lines that start with no blank counts as
a space. -/
def blockLines? (literal : Bool) (indent : Nat) (b : Block) (c : Cursor) :
    Option (Block × Cursor) :=
  match c.rest with
  | [] => some (b, c)
  | first :: _ =>
    if c.mark.column ≠ indent then some (b, c)
    else
      let startsBlank := isBlank first
      let joint :=
        if !literal && b.lineBreak = ['\n'] && !b.startsBlank && !startsBlank then
          if b.breaks.isEmpty then [' '] else []
        else b.lineBreak
      let (line, c') := c.span (!isBreak ·)
      let (lineBreak, c') := c'.breakLine
      match blockBreaks? (some indent) 0 [] c' with
      | none => none
      | some (_, breaks, next) =>
        let b : Block := ⟨b.text ++ joint ++ b.breaks ++ line, lineBreak, breaks, startsBlank⟩
        if next.rest.length < c.rest.length then blockLines? literal indent b next else none
termination_by c.rest.length

/-- A block after its first mark, within lines indented by `outer`. -/
def blockScalar? (literal : Bool) (outer : Int) (c : Cursor) : Option Scanned :=
  match blockHeader? c with
  | none => none
  | some (chomp, given, c) =>
    let known := given.map fun n => (max outer 0).toNat + n
    match blockBreaks? known 0 [] c with
    | none => none
    | some (deepest, breaks, c) =>
      let indent := known.getD (max (max deepest (outer + 1).toNat) 1)
      match blockLines? literal indent { breaks } c with
      | none => none
      | some (b, c) =>
        let tail := match chomp with
          | .strip => []
          | .clip => b.lineBreak
          | .keep => b.lineBreak ++ b.breaks
        some ⟨b.text ++ tail, c, false⟩

end NodeSettings.Yaml
