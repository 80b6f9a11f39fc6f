import NodeSettings.Binary64.Decimal
import NodeSettings.Text.Numeral

/-!
What a plain scalar without a tag denotes: nothing, a truth value, a number or its own text.
-/

namespace NodeSettings.Yaml

open Text

attribute [local instance (high)] instPowNat

inductive Number where
  | natural (n : UInt64)
  | negative (i : Int64)
  | float (x : Binary64)
deriving DecidableEq

namespace Number

/-- How numbers that are not whole are written: `2.0`, `0.00001`, `1e-6`, `1e16`, `.inf`. -/
def floatLayout : NumberLayout where
  tie := .toEven
  positional := fun power => -5 ≤ power && power ≤ 15
  keepsPoint := true
  plusInExponent := false
  infinity := ".inf"
  negativeInfinity := "-.inf"
  notANumber := ".nan"

def text : Number → String
  | natural n => toString n.toNat
  | negative i => toString i.toInt
  | float x => x.text floatLayout

/-- Equality, in which both zeros are one number and `.nan` equals itself. -/
def agrees : Number → Number → Bool
  | float x, float y => x.agrees y || (x == .nan && y == .nan)
  | m, n => m == n

end Number

inductive Plain where
  | null
  | bool (b : Bool)
  | number (n : Number)
  /-- A whole number that 64 bits cannot hold but 128 bits can. -/
  | tooLarge
  | text
deriving DecidableEq

namespace Plain

def isNull (cs : List Char) : Bool :=
  ["", "null", "Null", "NULL", "~"].any fun s => s.toList == cs

def bool? (cs : List Char) : Option Bool :=
  if ["true", "True", "TRUE"].any fun s => s.toList == cs then some true
  else if ["false", "False", "FALSE"].any fun s => s.toList == cs then some false
  else none

def startsWithSign (cs : List Char) : Bool := (cs.head?).any fun c => c == '+' || c == '-'

/-- Digits with a zero in front, which are no number. -/
def isPaddedNumeral (cs : List Char) : Bool :=
  match (if startsWithSign cs then cs.drop 1 else cs) with
  | '0' :: d :: rest => (d :: rest).all Char.isDigit
  | _ => false

/-- Digits in a radix that a letter after a zero names, or in radix ten. -/
private def magnitude? (cs : List Char) : Option Nat :=
  match cs with
  | '0' :: 'x' :: digits => natOfDigits? 16 digits
  | '0' :: 'o' :: digits => natOfDigits? 8 digits
  | '0' :: 'b' :: digits => natOfDigits? 2 digits
  | digits => if isPaddedNumeral digits then none else natOfDigits? 10 digits

/-- The whole number that a text denotes. -/
def whole? : List Char → Option Int
  | '-' :: cs => (magnitude? cs).map fun n => -(n : Int)
  | '+' :: cs => (magnitude? cs).map fun n => (n : Int)
  | cs => (magnitude? cs).map fun n => (n : Int)

/-- The float that a text denotes. -/
def float? (cs : List Char) : Option Binary64 :=
  let unsigned := if cs.head? == some '+' then cs.drop 1 else cs
  if cs.head? == some '+' && startsWithSign unsigned then none
  else if [".inf", ".Inf", ".INF"].any fun s => s.toList == unsigned then some (.infinite false)
  else if ["-.inf", "-.Inf", "-.INF"].any fun s => s.toList == cs then some (.infinite true)
  else if [".nan", ".NaN", ".NAN"].any fun s => s.toList == cs then some .nan
  else Binary64.read? (String.ofList unsigned)

/-- A whole number as a value, where 64 bits hold it. -/
def ofWhole? (i : Int) : Option Plain :=
  if 0 ≤ i ∧ i < 2 ^ (64 : Nat) then some (number (.natural (.ofNat i.toNat)))
  else if -2 ^ (63 : Nat) ≤ i ∧ i < 0 then some (number (.negative (.ofInt i)))
  else if -2 ^ (127 : Nat) ≤ i ∧ i < 2 ^ (128 : Nat) then some tooLarge
  else none

def ofText (cs : List Char) : Plain :=
  if isNull cs then null
  else
    match bool? cs, (whole? cs).bind ofWhole? with
    | some b, _ => bool b
    | none, some p => p
    | none, none =>
      if isPaddedNumeral cs then text
      else
        match float? cs with
        | some x => number (.float x)
        | none => text

end Plain
end NodeSettings.Yaml
