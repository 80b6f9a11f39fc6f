import NodeSettings.Binary64.Decimal
import NodeSettings.Text.Numeral

/-!
Numbers of JSON texts. A literal without point and exponent is a whole number while 64 bits hold it;
any other is read by scaling its leading digits with one power of ten.
-/

namespace NodeSettings.Json

-- A power is the built-in one, whatever theory of powers is at hand.
attribute [local instance (high)] instPowNat

/-- A number as written. There are digits of a fraction exactly if there is a point. -/
structure Literal where
  negative : Bool
  whole : List Char
  fraction : List Char
  /-- Whether the exponent is negative, and its digits. -/
  exponent : Option (Bool × List Char)
deriving DecidableEq

inductive Number where
  | natural (n : UInt64)
  | negative (i : Int64)
  | float (x : Binary64)
deriving DecidableEq

/-- How numbers that are not whole are written: `2.0`, `0.00001`, `1e-6`, `1e+16`. -/
def floatLayout : NumberLayout where
  tie := .toEven
  positional := fun power => -5 ≤ power && power ≤ 15
  keepsPoint := true
  plusInExponent := true
  infinity := "null"
  negativeInfinity := "null"
  notANumber := "null"

def Number.text : Number → String
  | natural n => toString n.toNat
  | negative i => toString i.toInt
  | float x => x.text floatLayout

namespace Literal

/-- Reads digits onto a number while 64 bits hold it; also tells how many were read. -/
def absorb : Nat → List Char → Nat × Nat
  | n, [] => (n, 0)
  | n, c :: rest =>
    let next := 10 * n + (c.toNat - 48)
    if next < 2 ^ (64 : Nat) then
      let (m, count) := absorb next rest
      (m, count + 1)
    else (n, 0)

/-- The power of ten nearest to `10 ^ n`. -/
private def powerOfTen (n : Nat) : Binary64 := .ofNat (10 ^ n)

/-- `x · 10 ^ power`, in steps of at most `10 ^ 308`; refused where it is too large. -/
def scale? (x : Binary64) (power : Int) : Option Binary64 :=
  if x.isZero then some x
  else if h : 0 ≤ power then
    let y := x.mul (powerOfTen (min power.toNat 308))
    if power ≤ 308 && y.isFinite then some y else none
  else if -308 ≤ power then some (x.div (powerOfTen (-power).toNat))
  else scale? (x.div (powerOfTen 308)) (power + 308)
termination_by (-power).toNat
decreasing_by omega

/-- The float of leading digits and a power of ten. -/
private def ofParts? (negative : Bool) (digits : Nat) (power : Int) : Option Number :=
  (scale? (.ofNat digits) power).map fun x => .float (if negative then x.neg else x)

/-- The number that a literal denotes, unless it is too large for any. -/
def number? (l : Literal) : Option Number :=
  let (digits, read) := absorb 0 l.whole
  let dropped := l.whole.length - read
  if l.fraction.isEmpty && l.exponent.isNone then
    if dropped ≠ 0 then ofParts? l.negative digits dropped
    else if !l.negative then some (.natural (.ofNat digits))
    else if digits = 0 || 2 ^ (63 : Nat) < digits then
      some (.float (Binary64.ofNat digits).neg)
    else some (.negative (.ofInt (-(digits : Int))))
  else
    let (digits, read) := absorb digits l.fraction
    let power : Int := (dropped : Int) - read
    match l.exponent with
    | none => ofParts? l.negative digits power
    | some (down, exponentDigits) =>
      let exponent := (Text.natOfDigits? 10 exponentDigits).getD 0
      if 2 ^ (31 : Nat) ≤ exponent then
        if digits ≠ 0 && !down then none
        else some (.float (if l.negative then Binary64.zero.neg else .zero))
      else ofParts? l.negative digits (if down then power - exponent else power + exponent)

end Literal
end NodeSettings.Json
