import NodeSettings.Endpoint.Punycode
import NodeSettings.Text.Composition
import NodeSettings.Text.Shaping
import NodeSettings.Version

/-!
Names of hosts in ASCII. Letters of either case, width or style are one letter; a label with letters
beyond ASCII is written after `xn--`. Joiners stand only where letters need them, and in a name that
runs both ways each label runs one way.
-/

namespace NodeSettings.Endpoint

open Text

/-- ASCII characters that no host name holds. -/
def isDenied (c : Char) : Bool :=
  c.toNat ≤ 0x20 || c == '\x7f' || "%#/:<>?@[\\]^|".toList.contains c

/-- Invisible characters that are left out of names. -/
private def isIgnored (n : Nat) : Bool :=
  n == 0xAD || n == 0x34F || (0x180B ≤ n && n ≤ 0x180D) || n == 0x180F || n == 0x200B
    || n == 0x2060 || n == 0x2064 || (0xFE00 ≤ n && n ≤ 0xFE0F) || n == 0xFEFF
    || (0x1BCA0 ≤ n && n ≤ 0x1BCA3) || (0xE0100 ≤ n && n ≤ 0xE01EF)

/-- The joiners, which some scripts need between letters. -/
private def isJoiner (c : Char) : Bool := c.toNat == 0x200C || c.toNat == 0x200D

/-- The points of several scripts and widths. -/
private def isPoint (n : Nat) : Bool := n == 0x3002 || n == 0xFF0E || n == 0xFF61

/-- The form of a character in names. One that holds a point among other things has none. -/
private def nameForm (c : Char) : List Char :=
  if c.toNat < 0x80 then [c.toLower]
  else if isIgnored c.toNat then []
  else if isPoint c.toNat then ['.']
  else if (plainForm c).contains '.' then [c]
  else plainForm c

/-- Characters beyond ASCII that no name holds although they can be seen: fillers, signs that
describe other characters or stand in for them, and what is more than a point. -/
private def isUnfit (c : Char) : Bool :=
  let n := c.toNat
  n == 0x115F || n == 0x1160 || n == 0x17B4 || n == 0x17B5 || (0x2FF0 ≤ n && n ≤ 0x2FFF)
    || n == 0x3164 || n == 0x31EF || n == 0xFFA0 || n == 0xFFFC || n == 0xFFFD
    || (plainForm c).contains '.'

private def isAllowed (c : Char) : Bool :=
  if c.toNat < 0x80 then !isDenied c
  else isJoiner c || (!(category c).isInvisible && !isUnfit c)

/-- The letter nearest to a place, as it joins others. -/
private def nearest? (cs : List Char) : Option Joining :=
  (cs.map joining).find? (· != .transparent)

/-- Whether a joiner may stand between two texts, the first one backwards: after a mark that asks
for it, or, if it keeps letters apart, between letters that would join. -/
private def joinerFits (c : Char) (before after : List Char) : Bool :=
  (before.head?.any fun a => combiningClass a.toNat = 9)
    || (c.toNat == 0x200C && (nearest? before).any Joining.joinsNext
      && (nearest? after).any Joining.joinsPrevious)

private def joinersFit (before : List Char) : List Char → Bool
  | [] => true
  | c :: after => (!isJoiner c || joinerFits c before after) && joinersFit (c :: before) after

/-- Whether a label with letters beyond ASCII is well formed. Long ones are refused, since the work
on a label grows with the square of its length. -/
private def isLabel (label : List Char) : Bool :=
  label.all isAllowed && joinersFit [] label && label.length ≤ 1000
    && (label.head?).all fun c => !(category c).isMark

private def isAscii (cs : List Char) : Bool := cs.all (·.toNat < 0x80)

/-- A label as it reads and as it is written in ASCII. -/
private structure Label where
  shown : List Char
  ascii : List Char

/-- What a text in ASCII that claims to stand for a label holds of it. -/
private def encoded? : List Char → Option (List Char)
  | 'x' :: 'n' :: '-' :: '-' :: rest => some rest
  | _ => none

/-- Reads a label. One that claims to stand for another must be the form that the other has. -/
private def readLabel? (label : List Char) : Option Label :=
  match encoded? label with
  | some rest =>
    if !isAscii rest || 2000 < rest.length then none
    else
      match Punycode.decode? rest with
      | some shown =>
        if isAscii shown || !isLabel shown || compose (shown.flatMap nameForm) != shown then none
        else some ⟨shown, label⟩
      | none => none
  | none =>
    if isAscii label then some ⟨label, label⟩
    else if isLabel label then some ⟨label, ['x', 'n', '-', '-'] ++ Punycode.encode label⟩
    else none

/-- Whether a character makes its name one that runs both ways. -/
private def runsBack (c : Char) : Bool :=
  0x590 ≤ c.toNat && direction c matches .rightToLeft | .arabicNumber

/-- A label of a name that runs both ways begins and ends with letters or numbers that run one
way, and nothing between them runs the other way. Marks at the end do not count. -/
def runsOneWay : List Direction → Bool
  | [] => true
  | first :: rest =>
    let body := (rest.reverse.dropWhile (· == .mark)).reverse
    match first with
    | .leftToRight =>
      body.all (fun d => d != .rightToLeft && d != .arabicNumber)
        && body.getLast?.all (· matches .leftToRight | .europeanNumber)
    | .rightToLeft =>
      body.all (· != .leftToRight)
        && body.getLast?.all (· matches .rightToLeft | .europeanNumber | .arabicNumber)
        && !(body.contains .europeanNumber && body.contains .arabicNumber)
    | _ => false

example : runsOneWay [.rightToLeft, .neutral, .europeanNumber, .mark] = true := by decide
example : runsOneWay [.rightToLeft, .leftToRight] = false := by decide

/-- The name in ASCII, if it is a name. -/
def domainToAscii? (name : List Char) : Option (List Char) :=
  let plain := compose (name.flatMap nameForm)
  if !plain.all isAllowed then none
  else
    match (Text.fields '.' plain).mapM readLabel? with
    | none => none
    | some labels =>
      let runsBothWays := labels.any (·.shown.any runsBack)
      if runsBothWays && !labels.all (fun label => runsOneWay (label.shown.map direction)) then none
      else some (['.'].intercalate (labels.map (·.ascii)))

end NodeSettings.Endpoint
