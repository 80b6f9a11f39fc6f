import NodeSettings.Yaml.Characters
import NodeSettings.Yaml.Plain

/-!
How a text is written as a YAML scalar: plain where it reads back as itself, otherwise between
single quotes, between double quotes or as a block of its lines.
-/

namespace NodeSettings.Yaml

inductive Style where
  | plain | singleQuoted | doubleQuoted | literal
deriving DecidableEq

/-- Whether a character may stand as it is; tabs and returns may not. -/
def isPrintable (c : Char) : Bool :=
  let n := c.toNat
  n == 0x0A || (0x20 ≤ n && n ≤ 0x7E) || (0xA0 ≤ n && n ≤ 0xFFFD && n != 0xFEFF) || 0x10000 ≤ n

/-- Whether some character that satisfies `p` is followed by one that satisfies `q`. -/
def hasPair (p q : Char → Bool) : List Char → Bool
  | c :: d :: rest => (p c && q d) || hasPair p q (d :: rest)
  | _ => false

/-- Whether characters after the first would end a plain scalar. -/
def hasInnerMark : List Char → Bool
  | [] => false
  | c :: rest =>
    (isGap c && rest.head? == some '#') || (rest.head? == some ':' && startsGap (rest.drop 1))
      || hasInnerMark rest

/-- Whether a text begins with what means something else in a YAML text. -/
def startsWithMark (cs : List Char) : Bool :=
  match cs with
  | [] => false
  | c :: rest =>
    cs.take 3 == ['-', '-', '-'] || cs.take 3 == ['.', '.', '.']
      || "#,[]\x7b\x7d&*!|>'\"%@`".toList.contains c
      || ("?:-".toList.contains c && startsGap rest)

/-- Whether a space or a line break stands at the start or at the end. -/
def hasOuterGap (cs : List Char) : Bool :=
  let isOuter (c : Char) : Bool := c == ' ' || isBreak c
  (cs.head?).any isOuter || (cs.getLast?).any isOuter

namespace Style

/-- The style that the meaning of a text asks for. -/
def preferred (cs : List Char) : Style :=
  if cs.contains '\n' then literal
  else if Plain.ofText cs = .text && !Plain.isPaddedNumeral cs then plain
  else singleQuoted

/-- Whether a style can write a text. -/
def permits (cs : List Char) : Style → Bool
  | plain =>
    cs.all isPrintable && !cs.any isBreak && !hasOuterGap cs && !startsWithMark cs
      && !hasInnerMark cs
  | singleQuoted =>
    cs.all isPrintable && !hasPair (· == ' ') isBreak cs && !hasPair isBreak (· == ' ') cs
  | literal =>
    cs.all isPrintable && !hasPair (· == ' ') isBreak cs && cs.getLast? != some ' '
  | doubleQuoted => true

/-- The style to use instead of one that cannot write a text. -/
def fallback : Style → Style
  | plain => singleQuoted
  | _ => doubleQuoted

/-- The style of a text. -/
def ofText (cs : List Char) : Style :=
  let first := preferred cs
  if first.permits cs then first
  else if first.fallback.permits cs then first.fallback
  else doubleQuoted

end Style

/-- The letter of the short escape of a character. -/
def escapeLetter? (c : Char) : Option Char :=
  match c.toNat with
  | 0x00 => some '0'
  | 0x07 => some 'a'
  | 0x08 => some 'b'
  | 0x09 => some 't'
  | 0x0A => some 'n'
  | 0x0B => some 'v'
  | 0x0C => some 'f'
  | 0x0D => some 'r'
  | 0x1B => some 'e'
  | 0x22 => some '"'
  | 0x5C => some '\\'
  | 0x85 => some 'N'
  | 0x2028 => some 'L'
  | 0x2029 => some 'P'
  | _ => none

/-- How one character is written between double quotes. -/
def escapeDouble (c : Char) : List Char :=
  match escapeLetter? c with
  | some letter => ['\\', letter]
  | none =>
    if isPrintable c then [c]
    else
      let digits (width : Nat) : List Char := (Text.hexDigits c.toNat width).map Char.toUpper
      if c.toNat < 0x100 then '\\' :: 'x' :: digits 2
      else if c.toNat < 0x10000 then '\\' :: 'u' :: digits 4
      else '\\' :: 'U' :: digits 8

/-- Lines with spaces in front of each character that follows a break; `afterBreak` tells that one
stands before the text. -/
def indentLines (spaces : List Char) (afterBreak : Bool) : List Char → List Char
  | [] => []
  | c :: rest =>
    if isBreak c then c :: indentLines spaces true rest
    else (if afterBreak then spaces else []) ++ c :: indentLines spaces false rest

/-- What the header of a block says of its text: that it is indented by two, where it starts with a
gap itself, and what becomes of the breaks at its end. -/
def blockHints (cs : List Char) : List Char :=
  let indentation := if (cs.head?).any (fun c => c == ' ' || isBreak c) then ['2'] else []
  let chomp := match cs.reverse with
    | [] => ['-']
    | [c] => if isBreak c then ['+'] else ['-']
    | c :: d :: _ => if !isBreak c then ['-'] else if isBreak d then ['+'] else []
  indentation ++ chomp

/-- A text as a scalar whose further lines are indented by `indent`. -/
def writeScalar (indent : Nat) (cs : List Char) : List Char :=
  let spaces := List.replicate indent ' '
  match Style.ofText cs with
  | .plain => cs
  | .singleQuoted =>
    let body := indentLines spaces false (cs.flatMap fun c => if c = '\'' then [c, c] else [c])
    let ending := if (cs.getLast?).any isBreak then spaces else []
    ['\''] ++ body ++ ending ++ ['\'']
  | .doubleQuoted => ['"'] ++ cs.flatMap escapeDouble ++ ['"']
  | .literal => ['|'] ++ blockHints cs ++ ['\n'] ++ indentLines spaces true cs

/-- Whether a text can be a key on one line with its value. -/
def isSimpleKey (cs : List Char) : Bool :=
  !cs.any isBreak && (String.ofList cs).utf8ByteSize ≤ 128

/-- The end of a line after a scalar, unless the scalar ends in a line break already. -/
def endLine (scalar : List Char) : List Char :=
  if (scalar.getLast?).any isBreak then [] else ['\n']

end NodeSettings.Yaml
