import NodeSettings.Pattern.Escape

/-!
Reading a pattern from its text. Open groups and bracketed sets wait on a stack, so that a text is
read in one pass; each step leaves a shorter rest.
-/

namespace NodeSettings.Pattern

open Text

attribute [local instance (high)] instPowNat

/-- How two sets inside brackets are combined. -/
inductive SetOperator where
  | intersection | difference | symmetricDifference

def SetOperator.combine (left right : CharacterSet) : SetOperator → CharacterSet
  | intersection => .inter left right
  | difference => .diff left right
  | symmetricDifference => .union (.diff left right) (.diff right left)

/-- What waits for a bracketed set to end: the set around it, or an operator with its left side. -/
inductive SetFrame where
  | brackets (negated : Bool) (items : List CharacterSet)
  | operator (o : SetOperator) (left : CharacterSet)

/-- A bracketed set being read, its items last first. -/
structure SetState where
  rest : List Char
  items : List CharacterSet
  frames : List SetFrame

namespace SetState

/-- The items so far, joined to the left side of an operator that waits for them. -/
def close (st : SetState) : CharacterSet × List SetFrame :=
  let items := CharacterSet.unionAll st.items.reverse
  match st.frames with
  | .operator o left :: frames => (o.combine left items, frames)
  | frames => (items, frames)

/-- Opens brackets whose text is at hand: a `^`, then hyphens or one `]` that stand for themselves.
-/
def openBrackets? (flags : Flags) (cs : List Char) (items : List CharacterSet)
    (frames : List SetFrame) : Option SetState :=
  let cs := flags.skip cs
  let (negated, cs) := match cs with
    | '^' :: rest => (true, flags.skip rest)
    | _ => (false, cs)
  if negated && !flags.unicode then none
  else
    let skipped (cs : List Char) := flags.skip cs
    let hyphens := (cs.takeWhile (· == '-')).map fun _ => flags.leaf (.single '-')
    let cs := skipped (cs.drop hyphens.length)
    match hyphens, cs with
    | [], ']' :: rest =>
      some ⟨flags.skip rest, [flags.leaf (.single ']')], .brackets negated items :: frames⟩
    | _, _ => some ⟨cs, hyphens, .brackets negated items :: frames⟩

/-- A class name between `[:` and `:]`. -/
def readAsciiClass? (flags : Flags) (cs : List Char) : Option (CharacterSet × List Char) :=
  match cs with
  | '[' :: ':' :: rest =>
    let (negated, rest) := match rest with
      | '^' :: more => (true, more)
      | more => (false, more)
    let name := rest.takeWhile (· != ':')
    match rest.drop name.length, asciiClass? (String.ofList name) with
    | ':' :: ']' :: after, some s =>
      if negated then (flags.complement? (flags.leaf s)).map fun s => (s, after)
      else some (flags.leaf s, after)
    | _, _ => none
  | _ => none

/-- One character or escape inside brackets. -/
def readItem? (flags : Flags) : List Char → Option (Primitive × List Char)
  | '\\' :: rest => readEscape? flags rest
  | c :: rest => some (.literal c, rest)
  | [] => none

private def itemSet? (flags : Flags) : Primitive → Option CharacterSet
  | .literal c => if flags.unicode || c.toNat < 0x80 then some (flags.leaf (.single c)) else none
  | .set s => some s
  | .anchor _ => none

/-- An item or a range of two characters. A hyphen before `]` or another hyphen makes no range. -/
def readRange? (flags : Flags) (cs : List Char) : Option (CharacterSet × List Char) :=
  match readItem? flags cs with
  | none => none
  | some (first, rest) =>
    match flags.skip rest with
    | [] => none
    | '-' :: after =>
      match flags.skip after with
      | [] => none
      | next :: _ =>
        if next = ']' || next = '-' then (itemSet? flags first).map fun s => (s, '-' :: after)
        else
          match first, readItem? flags (flags.skip after) with
          | .literal low, some (.literal high, rest) =>
            if low ≤ high && (flags.unicode || high.toNat < 0x80) then
              some (flags.leaf (.range low high), rest)
            else none
          | _, _ => none
    | rest => (itemSet? flags first).map fun s => (s, rest)

/-- The result of one step: the finished set, or the state to go on with. -/
inductive Step where
  | done (s : CharacterSet) (rest : List Char)
  | more (st : SetState)

def step? (flags : Flags) (st : SetState) : Option Step :=
  let operator (o : SetOperator) (rest : List Char) : Step :=
    let (left, frames) := st.close
    .more ⟨rest, [], .operator o left :: frames⟩
  match st.rest with
  | [] => none
  | ']' :: rest =>
    match st.close with
    | (s, .brackets negated items :: frames) =>
      let s := if negated then .complement s else s
      if frames.isEmpty then some (.done s rest) else some (.more ⟨rest, s :: items, frames⟩)
    | _ => none
  | '&' :: '&' :: rest => some (operator .intersection rest)
  | '-' :: '-' :: rest => some (operator .difference rest)
  | '~' :: '~' :: rest => some (operator .symmetricDifference rest)
  | '[' :: rest =>
    match readAsciiClass? flags ('[' :: rest) with
    | some (s, after) => some (.more { st with rest := after, items := s :: st.items })
    | none => (openBrackets? flags rest st.items st.frames).map .more
  | cs =>
    (readRange? flags cs).map fun (s, rest) => .more { st with rest, items := s :: st.items }

/-- Reads to the bracket that closes the outermost set. -/
def run? (flags : Flags) (st : SetState) : Option (CharacterSet × List Char) :=
  match step? flags { st with rest := flags.skip st.rest } with
  | some (.done s rest) => some (s, rest)
  | some (.more next) => if next.rest.length < st.rest.length then run? flags next else none
  | none => none
termination_by st.rest.length

end SetState

/-- A part of an alternative; a setting of flags is a part that cannot be repeated. -/
inductive Piece where
  | part (p : Pattern)
  | setting

/-- What an open group waits to go on with. -/
structure GroupFrame where
  alternatives : List Pattern
  pieces : List Piece
  flags : Flags

/-- A pattern being read, with parts and alternatives last first. -/
structure ReadState where
  rest : List Char
  flags : Flags
  names : List (List Char)
  alternatives : List Pattern
  pieces : List Piece
  frames : List GroupFrame

private def ofParts : List Pattern → Pattern
  | [] => .empty
  | [p] => p
  | p :: rest => .sequence p (ofParts rest)

private def ofAlternatives (first : Pattern) : List Pattern → Pattern
  | [] => first
  | next :: rest => .either first (ofAlternatives next rest)

namespace ReadState

/-- The alternative being read. -/
def alternative (st : ReadState) : Pattern :=
  ofParts (st.pieces.reverse.filterMap fun piece =>
    match piece with
    | .part p => some p
    | .setting => none)

/-- The group being read. -/
def group (st : ReadState) : Pattern :=
  match (st.alternative :: st.alternatives).reverse with
  | [] => .empty
  | first :: rest => ofAlternatives first rest

def push (st : ReadState) (p : Pattern) (rest : List Char) : ReadState :=
  { st with rest, pieces := .part p :: st.pieces }

/-- Opens a group that is read under `flags`. Groups nest at most 250 deep. -/
def openGroup? (st : ReadState) (flags : Flags) (rest : List Char) : Option ReadState :=
  if 250 ≤ st.frames.length then none
  else some { st with
    rest, flags, alternatives := [], pieces := [],
    frames := ⟨st.alternatives, st.pieces, st.flags⟩ :: st.frames }

private def isNameStart (c : Char) : Bool :=
  c == '_' || (category c).isLetter || category c == .letterNumber

private def isNamePart (c : Char) : Bool :=
  isNameStart c || c == '.' || c == '[' || c == ']'
    || category c matches .decimalNumber | .otherNumber

/-- Opens a group whose name is at hand. Names are unique. -/
private def openNamed? (st : ReadState) (cs : List Char) : Option ReadState :=
  let name := cs.takeWhile (· != '>')
  match name, cs.drop name.length with
  | c :: more, _ :: rest =>
    if isNameStart c && more.all isNamePart && !st.names.contains name then
      { st with names := name :: st.names }.openGroup? st.flags rest
    else none
  | _, _ => none

/-- What follows an opening parenthesis. There is no looking around. -/
def open? (st : ReadState) (cs : List Char) : Option ReadState :=
  match st.flags.skip cs with
  | '?' :: 'P' :: '<' :: rest => st.openNamed? rest
  | '?' :: '<' :: rest =>
    match rest with
    | '=' :: _ | '!' :: _ => none
    | _ => st.openNamed? rest
  | '?' :: rest =>
    match readFlagLetters? rest with
    | some (letters, ')', rest) =>
      some { st with rest, flags := st.flags.apply letters, pieces := .setting :: st.pieces }
    | some (letters, _, rest) => st.openGroup? (st.flags.apply letters) rest
    | none => none
  | rest => st.openGroup? st.flags rest

/-- Closes the innermost group. -/
def close? (st : ReadState) (rest : List Char) : Option ReadState :=
  match st.frames with
  | [] => none
  | frame :: frames => some
    { st with
      rest, flags := frame.flags, alternatives := frame.alternatives,
      pieces := .part st.group :: frame.pieces, frames }

/-- Repeats the last part. -/
def repeat? (st : ReadState) (least : Nat) (most : Option Nat) (rest : List Char) :
    Option ReadState :=
  match st.pieces with
  | .part p :: pieces =>
    let rest := match rest with
      | '?' :: after => after
      | after => after
    some { st with rest, pieces := .part (.repeated p least most) :: pieces }
  | _ => none

/-- A count between braces, with blanks around it. -/
private def readCount? (flags : Flags) (cs : List Char) : Option (Nat × List Char) :=
  let cs := cs.dropWhile isBlank
  let kept := cs.takeWhile fun c => c.isDigit || (flags.verbose && isBlank c)
  let digits := kept.filter Char.isDigit
  match natOfDigits? 10 digits with
  | some n => if n < 2 ^ (32 : Nat) then some (n, (cs.drop kept.length).dropWhile isBlank) else none
  | none => none

/-- The counts after an opening brace, and the part repeated as they say. -/
def repeatCounted? (st : ReadState) (cs : List Char) : Option ReadState :=
  let finish (least : Nat) (most : Option Nat) (rest : List Char) : Option ReadState :=
    if most.all (least ≤ ·) then st.repeat? least most (st.flags.skip rest) else none
  match readCount? st.flags (st.flags.skip cs) with
  | some (n, '\x7d' :: rest) => finish n (some n) rest
  | some (n, ',' :: rest) =>
    match st.flags.skip rest with
    | '\x7d' :: rest => finish n none rest
    | rest =>
      match readCount? st.flags rest with
      | some (m, '\x7d' :: rest) => finish n (some m) rest
      | _ => none
  | _ => none

/-- The pattern of a primitive outside brackets. -/
private def primitive (flags : Flags) : Primitive → Pattern
  | .literal c => .chars (flags.leaf (.single c))
  | .set s => .chars s
  | .anchor a => .anchor a

private def dot? (flags : Flags) : Option CharacterSet :=
  if flags.dotMatchesNewline then flags.complement? .none
  else if flags.carriageReturns then
    flags.complement? (.union (.single '\n') (.single '\r'))
  else flags.complement? (.single '\n')

private def lineAnchor (flags : Flags) (whole line carriage : Anchor) : Pattern :=
  .anchor (if !flags.multiLine then whole else if flags.carriageReturns then carriage else line)

/-- Reads the part that begins with `c`. -/
def step? (st : ReadState) (c : Char) (rest : List Char) : Option ReadState :=
  match c with
  | '(' => st.open? rest
  | ')' => st.close? rest
  | '|' => some
    { st with rest, alternatives := st.alternative :: st.alternatives, pieces := [] }
  | '[' =>
    match SetState.openBrackets? st.flags rest [] [] with
    | some inner => (inner.run? st.flags).map fun (s, rest) => st.push (.chars s) rest
    | none => none
  | '?' => st.repeat? 0 (some 1) rest
  | '*' => st.repeat? 0 none rest
  | '+' => st.repeat? 1 none rest
  | '\x7b' => st.repeatCounted? rest
  | '\\' =>
    (readEscape? st.flags rest).map fun (p, rest) => st.push (primitive st.flags p) rest
  | '.' => (dot? st.flags).map fun s => st.push (.chars s) rest
  | '^' => some (st.push (lineAnchor st.flags .textStart .lineStart .carriageLineStart) rest)
  | '$' => some (st.push (lineAnchor st.flags .textEnd .lineEnd .carriageLineEnd) rest)
  | c => some (st.push (primitive st.flags (.literal c)) rest)

/-- Reads to the end of the text. -/
def run? (st : ReadState) : Option Pattern :=
  match st.flags.skip st.rest with
  | [] => if st.frames.isEmpty then some st.group else none
  | c :: rest =>
    match st.step? c rest with
    | some next => if next.rest.length < st.rest.length then next.run? else none
    | none => none
termination_by st.rest.length

end ReadState

/-- How many states a machine for the pattern has, about. -/
def stateCount : Pattern → Nat
  | .empty => 1
  | .chars _ => 1
  | .anchor _ => 1
  | .sequence p q => p.stateCount + q.stateCount
  | .either p q => p.stateCount + q.stateCount + 1
  | .repeated p least most => p.stateCount * max 1 (most.getD (least + 1)) + 1

/-- The largest machine that is built. -/
def stateLimit : Nat := 10 * 2 ^ (20 : Nat) / 32

/-- The pattern that a text denotes. -/
def parse? (s : String) : Option Pattern :=
  match (ReadState.run? ⟨s.toList, {}, [], [], [], []⟩) with
  | some p => if p.stateCount ≤ stateLimit then some p else none
  | none => none

end NodeSettings.Pattern
