import NodeSettings.Yaml.Scalar

/-!
Tokens of YAML texts, and the parts of tags, anchors and directives.
-/

namespace NodeSettings.Yaml

open Text

inductive Token where
  | versionDirective (major minor : Nat)
  | tagDirective (handle tagStart : List Char)
  | documentStart | documentEnd
  | blockSequenceStart | blockMappingStart | blockEnd
  | flowSequenceStart | flowSequenceEnd | flowMappingStart | flowMappingEnd
  | blockEntry | flowEntry | key | value
  | reference (label : Nat)
  | anchor (label : Nat)
  | tag (handle suffix : List Char)
  | scalar (text : List Char) (plain : Bool)
deriving DecidableEq

/-- The name of an anchor or an alias, which must end where a name may end. -/
def readAnchor? (c : Cursor) : Option (List Char × Cursor) :=
  let (name, c) := c.span isNameChar
  let isEnd := startsGap c.rest || (c.rest.head?).any ("?:,]\x7d%@`".toList.contains ·)
  if !name.isEmpty && isEnd then some (name, c) else none

/-- How many bytes a character has whose first byte is this; nothing if no character has. -/
private def width? (b : Nat) : Option Nat :=
  if b < 0x80 then some 1
  else if 0xC0 ≤ b && b < 0xE0 then some 2
  else if 0xE0 ≤ b && b < 0xF0 then some 3
  else if 0xF0 ≤ b && b < 0xF8 then some 4
  else none

private def readEscapedBytes? : Nat → List Char → Option (List UInt8)
  | 0, _ => some []
  | count + 1, '%' :: h :: l :: rest =>
    match natOfDigits? 16 [h, l], readEscapedBytes? count rest with
    | some n, some bytes => some (.ofNat n :: bytes)
    | _, _ => none
  | _ + 1, _ => none

/-- A character whose bytes are written as `%` and two digits each; also how many bytes it has. -/
private def readEscapedChar? (cs : List Char) : Option (List Char × Nat) :=
  match cs with
  | '%' :: h :: l :: _ =>
    match (natOfDigits? 16 [h, l]).bind width? with
    | some count =>
      match (readEscapedBytes? count cs).bind fun bytes =>
          String.fromUTF8? (.mk bytes.toArray) with
      | some s => some (s.toList, count)
      | none => none
    | none => none
  | _ => none

/-- The characters of a tag; between angle brackets or in a directive a few more. -/
private def isTagChar (isLong : Bool) (c : Char) : Bool :=
  isNameChar c || ";/?:@&=+$.%!~*'()".toList.contains c || (isLong && ",[]".toList.contains c)

/-- The part of a tag from a cursor on. -/
def readTagText? (isLong : Bool) (c : Cursor) : Option (List Char × Cursor) :=
  match c.rest with
  | [] => some ([], c)
  | d :: _ =>
    if !isTagChar isLong d then some ([], c)
    else
      let (text, passed) : Option (List Char) × Nat :=
        if d = '%' then
          match readEscapedChar? c.rest with
          | some (text, count) => (some text, 3 * count)
          | none => (none, 1)
        else (some [d], 1)
      let next := c.skip passed
      match text with
      | none => none
      | some text =>
        if next.rest.length < c.rest.length then
          (readTagText? isLong next).map fun (more, c) => (text ++ more, c)
        else none
termination_by c.rest.length

/-- A handle: an exclamation mark, a name and, unless something else follows, another mark. -/
def readHandle? (c : Cursor) : Option (List Char × Cursor) :=
  match c.rest with
  | '!' :: _ =>
    let (name, c) := (c.skip 1).span isNameChar
    match c.rest with
    | '!' :: _ => some ('!' :: name ++ ['!'], c.skip 1)
    | _ => some ('!' :: name, c)
  | _ => none

private def endsWithMark (handle : List Char) : Bool :=
  1 < handle.length && handle.getLast? == some '!'

/-- A tag: a long one between angle brackets, one with a handle, or one with the plain mark only. -/
def readTag? (inFlow : Bool) (c : Cursor) : Option (Token × Cursor) :=
  let found : Option (Token × Cursor) :=
    match c.rest with
    | '!' :: '<' :: _ =>
      match readTagText? true (c.skip 2) with
      | some (text, c) =>
        if text.isEmpty || c.rest.head? != some '>' then none
        else some (.tag [] text, c.skip 1)
      | none => none
    | _ =>
      match readHandle? c with
      | none => none
      | some (handle, c) =>
        match readTagText? false c with
        | none => none
        | some (text, c) =>
          if endsWithMark handle then
            if text.isEmpty then none else some (.tag handle text, c)
          else
            let suffix := handle.drop 1 ++ text
            if suffix.isEmpty then some (.tag [] ['!'], c) else some (.tag ['!'] suffix, c)
  match found with
  | none => none
  | some (token, c) =>
    if (inFlow && c.rest.head? == some ',') || startsGap c.rest then some (token, c) else none

/-- A number of a version directive, of at most nine digits. -/
private def readVersionNumber? (c : Cursor) : Option (Nat × Cursor) :=
  let (digits, c) := c.span Char.isDigit
  if 9 < digits.length then none else (natOfDigits? 10 digits).map (·, c)

/-- A directive after its `%`, to the end of its line. -/
def readDirective? (c : Cursor) : Option (Token × Cursor) :=
  let (name, c) := c.span isNameChar
  if name.isEmpty || !startsGap c.rest then none
  else
    let c := c.skipWhile isBlank
    let found : Option (Token × Cursor) :=
      if name = ['Y', 'A', 'M', 'L'] then
        match readVersionNumber? c with
        | some (major, c) =>
          if c.rest.head? == some '.' then
            (readVersionNumber? (c.skip 1)).map fun (minor, c) =>
              (.versionDirective major minor, c)
          else none
        | none => none
      else if name = ['T', 'A', 'G'] then
        match readHandle? c with
        | some (handle, c) =>
          if (endsWithMark handle || handle = ['!']) && (c.rest.head?).any isBlank then
            match readTagText? true (c.skipWhile isBlank) with
            | some (text, c) =>
              if text.isEmpty || !startsGap c.rest then none
              else some (.tagDirective handle text, c)
            | none => none
          else none
        | none => none
      else none
    match found with
    | some (token, c) => (c.endLine?).map (token, ·)
    | none => none

end NodeSettings.Yaml
