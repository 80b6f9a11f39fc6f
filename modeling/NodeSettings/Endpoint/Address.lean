import NodeSettings.Text.Numeral
import NodeSettings.Version

/-!
Numeric addresses of hosts, in the four parts of the older kind and the eight of the newer one.
-/

namespace NodeSettings.Endpoint

open Text

attribute [local instance (high)] instPowNat

/-- A number of an address: decimal, octal after a `0`, hexadecimal after `0x`. -/
def readPart? (part : List Char) : Option Nat :=
  match part with
  | [] => none
  | '0' :: 'x' :: digits | '0' :: 'X' :: digits =>
    if digits.isEmpty then some 0 else natOfDigits? 16 digits
  | '0' :: c :: rest => natOfDigits? 8 (c :: rest)
  | digits => if digits.all Char.isDigit then natOfDigits? 10 digits else none

/-- The parts between points, without an empty last one. -/
private def numericParts (host : List Char) : List (List Char) :=
  let parts := Text.fields '.' host
  if parts.getLast? == some [] then parts.dropLast else parts

/-- Whether the last part of a host is a number, so that the host must be an address. -/
def endsInNumber (host : List Char) : Bool :=
  match (numericParts host).getLast? with
  | some part => (!part.isEmpty && part.all Char.isDigit) || (readPart? part).isSome
  | none => false

/-- An address in up to four numbers, of which the last stands for all bytes that are left. -/
def readAddress4? (host : List Char) : Option Nat :=
  match (numericParts host).mapM readPart? with
  | none => none
  | some numbers =>
    match numbers.reverse with
    | [] => none
    | last :: front =>
      if 3 < front.length || front.any (255 < ·) || 2 ^ (32 - 8 * front.length) ≤ last then none
      else
        let high := front.reverse.zipIdx.foldl (fun n (x, i) => n + x * 2 ^ (8 * (3 - i))) 0
        some (high + last)

def address4Text (n : Nat) : String :=
  ".".intercalate <| List.map toString
    [n / 2 ^ (24 : Nat), n / 2 ^ (16 : Nat) % 256, n / 2 ^ (8 : Nat) % 256, n % 256]

/-- The newer kind of address while it is read: its pieces so far, last first, and how many of them
stand before the place of the missing zeros. -/
structure Pieces where
  pieces : List Nat
  gap : Option Nat

/-- A byte in decimal without leading zeros. -/
private def readByte? (digits : List Char) : Option Nat :=
  match digits with
  | '0' :: _ :: _ => none
  | _ => (natOfDigits? 10 digits).bind fun n => if n ≤ 255 then some n else none

/-- The two last pieces, as four bytes. -/
private def readTrailing4? (cs : List Char) : Option (List Nat) :=
  match (Text.fields '.' cs).mapM fun field =>
      if field.all Char.isDigit then readByte? field else none with
  | some [a, b, c, d] => some [a * 256 + b, c * 256 + d]
  | _ => none

/-- Reads pieces of up to four hexadecimal digits, one `::`, and four bytes at the end. -/
private def readPieces? (st : Pieces) (cs : List Char) : Option Pieces :=
  match cs with
  | [] => some st
  | ':' :: rest =>
    if 8 ≤ st.pieces.length + (if st.gap.isSome then 1 else 0) || st.gap.isSome then none
    else readPieces? { st with gap := some st.pieces.length } rest
  | c :: cs =>
    let cs := c :: cs
    let count := st.pieces.length + (if st.gap.isSome then 1 else 0)
    if 8 ≤ count then none
    else
      let digits := (cs.take 4).takeWhile fun c => ((digitValue? c).any (· < 16))
      let rest := cs.drop digits.length
      let value := (appendDigits? 16 0 digits).getD 0
      match rest with
      | [] => some { st with pieces := value :: st.pieces }
      | '.' :: _ =>
        if digits.isEmpty || 6 < count then none
        else
          (readTrailing4? cs).map fun last => { st with pieces := last.reverse ++ st.pieces }
      | ':' :: after =>
        if after.isEmpty then none
        else if after.length < cs.length then
          readPieces? { st with pieces := value :: st.pieces } after
        else none
      | _ => none
termination_by cs.length
decreasing_by
  · simp
  · assumption

/-- The eight pieces of an address. -/
def readAddress6? (cs : List Char) : Option (List Nat) :=
  let start : Option (Pieces × List Char) :=
    match cs with
    | ':' :: ':' :: rest => some (⟨[], some 0⟩, rest)
    | ':' :: _ => none
    | [] | [_] => none
    | cs => some (⟨[], none⟩, cs)
  match start.bind fun (st, rest) => readPieces? st rest with
  | some ⟨pieces, gap⟩ =>
    let front := pieces.reverse
    match gap with
    | some n =>
      if 8 ≤ front.length then none
      else some (front.take n ++ List.replicate (8 - front.length) 0 ++ front.drop n)
    | none => if front.length = 8 then some front else none
  | none => none

/-- The longest run of zero pieces, as where it starts and its length; the first of equals. -/
private def longestZeros (pieces : List Nat) : Nat × Nat :=
  (List.range 8).foldl
    (fun best i =>
      let length := ((pieces.drop i).takeWhile (· = 0)).length
      if best.2 < length then (i, length) else best)
    (0, 0)

/-- The text of an address, with `::` for its longest run of at least two zeros. -/
def address6Text (pieces : List Nat) : String :=
  let hex (n : Nat) : String := String.ofList (Nat.toDigits 16 n)
  let (start, length) := longestZeros pieces
  if length < 2 then ":".intercalate (pieces.map hex)
  else
    ":".intercalate ((pieces.take start).map hex) ++ "::"
      ++ ":".intercalate ((pieces.drop (start + length)).map hex)

example : (readAddress6? "1:0:0:2:0:0:0:3".toList).map address6Text = some "1:0:0:2::3" := by
  decide +kernel
example : (readAddress4? "0x7f.1".toList).map address4Text = some "127.0.0.1" := by
  decide +kernel

end NodeSettings.Endpoint
