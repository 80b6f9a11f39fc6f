import NodeSettings.Binary64.Basic

/-!
Decimal texts of binary numbers: reading any decimal to the nearest number, and writing a number
with the fewest digits that read back as it.
-/

namespace NodeSettings

attribute [local instance (high)] instPowNat

/-- A decimal as written: `digits · 10 ^ exponent`, with its sign. -/
structure Decimal where
  negative : Bool
  digits : Nat
  exponent : Int
deriving DecidableEq

namespace Decimal

/-- How many decimal digits `n` has. -/
def digitCount (n : Nat) : Nat := (Nat.toDigits 10 n).length

def ofDigits (digits : List Char) : Nat :=
  digits.foldl (fun n c => 10 * n + (c.toNat - 48)) 0

/-- The exponent part of a decimal: nothing, or `e`, an optional sign and digits. -/
def readExponent? : List Char → Option Int
  | [] => some 0
  | mark :: rest =>
    if mark = 'e' || mark = 'E' then
      let (negative, digits) := match rest with
        | '-' :: ds => (true, ds)
        | '+' :: ds => (false, ds)
        | ds => (false, ds)
      if digits.isEmpty || !digits.all Char.isDigit then none
      else some (if negative then -(ofDigits digits : Int) else ofDigits digits)
    else none

/-- Digits with an optional point among them or at an end, then an optional exponent. -/
def readUnsigned? (negative : Bool) (cs : List Char) : Option Decimal :=
  let whole := cs.takeWhile Char.isDigit
  let rest := cs.dropWhile Char.isDigit
  let (fraction, rest) := match rest with
    | '.' :: more => (more.takeWhile Char.isDigit, more.dropWhile Char.isDigit)
    | more => ([], more)
  if whole.isEmpty && fraction.isEmpty then none
  else
    (readExponent? rest).map fun exponent =>
      ⟨negative, ofDigits (whole ++ fraction), exponent - fraction.length⟩

/-- Reads a decimal with an optional sign. -/
def read? : List Char → Option Decimal
  | '-' :: cs => readUnsigned? true cs
  | '+' :: cs => readUnsigned? false cs
  | cs => readUnsigned? false cs

/-- The nearest binary number. A decimal whose exponent puts it out of reach is settled at once. -/
def toBinary64 (d : Decimal) : Binary64 :=
  let top := digitCount d.digits + d.exponent
  if d.digits = 0 || top < -330 then Binary64.ofRatio d.negative 0 1
  else if 310 < top then .infinite d.negative
  else if 0 ≤ d.exponent then
    Binary64.ofRatio d.negative (d.digits * 10 ^ d.exponent.toNat * Binary64.unitsPerOne) 1
  else
    Binary64.ofRatio d.negative (d.digits * Binary64.unitsPerOne) (10 ^ (-d.exponent).toNat)

end Decimal

/-- Which of two equally near decimals to write. -/
inductive Tie where
  | up | toEven
deriving DecidableEq

/-- How numbers are written. -/
structure NumberLayout where
  tie : Tie
  /-- Whether a number is written without exponent, given the power of ten of its first digit. -/
  positional : Int → Bool
  /-- Whether a whole number ends in `.0`. -/
  keepsPoint : Bool
  /-- Whether an exponent above zero has a sign. -/
  plusInExponent : Bool
  infinity : String
  negativeInfinity : String
  notANumber : String

namespace Binary64

/-- The power of ten of the first digit of `num / den`, for `num > 0`. -/
def leadingPower (num den : Nat) : Int :=
  let guess : Int := (Decimal.digitCount num : Int) - Decimal.digitCount den
  let reached := if 0 ≤ guess then den * 10 ^ guess.toNat ≤ num
    else den ≤ num * 10 ^ (-guess).toNat
  if reached then guess else guess - 1

/-- The better of the two decimals around `rank` whose last digit stands for `10 ^ power`, if one
of them reads back. -/
def nearestOnGrid? (tie : Tie) (rank : Fin rankLimit) (power : Int) : Option Decimal :=
  let num := if 0 ≤ power then units rank else units rank * 10 ^ (-power).toNat
  let den := if 0 ≤ power then unitsPerOne * 10 ^ power.toNat else unitsPerOne
  let low := num / den
  let rest := num % den
  let readsBack (n : Nat) : Bool := Decimal.toBinary64 ⟨false, n, power⟩ = .finite false rank
  let lowIsNearer :=
    2 * rest < den || (2 * rest = den && tie = .toEven && low % 2 = 0)
  match readsBack low, readsBack (low + 1) with
  | true, true => some ⟨false, if lowIsNearer then low else low + 1, power⟩
  | true, false => some ⟨false, low, power⟩
  | false, true => some ⟨false, low + 1, power⟩
  | false, false => none

/-- The decimal with the fewest digits that reads back; seventeen always suffice. -/
def shortest (tie : Tie) (rank : Fin rankLimit) : Decimal :=
  if rank.val = 0 then ⟨false, 0, 0⟩
  else
    let top := leadingPower (units rank) unitsPerOne
    let found := (List.range 17).findSome? fun (n : Nat) => nearestOnGrid? tie rank (top - (n : Int))
    found.getD ⟨false, 0, 0⟩

/-- Drops the zeros at the end of a list of digits. -/
def dropTrailingZeros (digits : List Char) : List Char :=
  (digits.reverse.dropWhile (· == '0')).reverse

/-- Writes `0.d₁d₂… · 10 ^ point`. -/
def layOut (layout : NumberLayout) (digits : List Char) (point : Int) : List Char :=
  let whole := if layout.keepsPoint then ['.', '0'] else []
  if layout.positional (point - 1) then
    if point ≤ 0 then ['0', '.'] ++ List.replicate (-point).toNat '0' ++ digits
    else
      let before := point.toNat
      if digits.length ≤ before then
        digits ++ List.replicate (before - digits.length) '0' ++ whole
      else digits.take before ++ ['.'] ++ digits.drop before
  else
    let exponent := point - 1
    let sign := if exponent < 0 then ['-'] else if layout.plusInExponent then ['+'] else []
    let fraction := match digits with
      | [d] => [d]
      | d :: ds => d :: '.' :: ds
      | [] => []
    fraction ++ ['e'] ++ sign ++ Nat.toDigits 10 exponent.natAbs

/-- The digits of a magnitude and its place of the point, written as `layout` says. -/
def magnitudeText (layout : NumberLayout) (rank : Fin rankLimit) : List Char :=
  let d := shortest layout.tie rank
  let digits := Nat.toDigits 10 d.digits
  if d.digits = 0 then if layout.keepsPoint then ['0', '.', '0'] else ['0']
  else layOut layout (dropTrailingZeros digits) (digits.length + d.exponent)

/-- The text of a number; a negative zero keeps its sign. -/
def text (layout : NumberLayout) : Binary64 → String
  | .finite negative rank =>
    String.ofList ((if negative then ['-'] else []) ++ magnitudeText layout rank)
  | .infinite false => layout.infinity
  | .infinite true => layout.negativeInfinity
  | .nan => layout.notANumber

/-- Reads a decimal text to the nearest number; refuses one too large to be finite. -/
def read? (s : String) : Option Binary64 :=
  match Decimal.read? s.toList with
  | none => none
  | some d => if d.toBinary64.isFinite then some d.toBinary64 else none

end Binary64
end NodeSettings
