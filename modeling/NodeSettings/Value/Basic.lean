import NodeSettings.Binary64.Decimal
import NodeSettings.Names
import NodeSettings.Text.Blank
import NodeSettings.Text.Numeral

/-!
The values of settings, their texts, and the reading of a text as a value of some kind. Two values
agree when they are equal up to the sign of a zero; a value that is no number agrees with nothing,
itself included.
-/

namespace NodeSettings

open Text

-- A power is the built-in one, whatever theory of powers is at hand.
attribute [local instance (high)] instPowNat

inductive Value where
  | bool (b : Bool)
  | int (i : Int64)
  | uint (n : UInt64)
  | uint16 (n : UInt16)
  | float (x : Binary64)
  | string (s : String)
  | choice (s : String)
deriving DecidableEq

namespace Value

def kind : Value → Kind
  | bool _ => .bool
  | int _ => .int
  | uint _ => .uint
  | uint16 _ => .uint16
  | float _ => .float
  | string _ => .string
  | choice _ => .choice

/-- What a parameter holds before it is given a value. -/
def zero : Kind → Value
  | .bool => bool false
  | .int => int 0
  | .uint => uint 0
  | .uint16 => uint16 0
  | .float => float .zero
  | .string => string ""
  | .choice => choice ""

/-- Numbers are written in full, with neither exponent nor a point that nothing follows. -/
def numberLayout : NumberLayout where
  tie := .up
  positional := fun _ => true
  keepsPoint := false
  plusInExponent := false
  infinity := "inf"
  negativeInfinity := "-inf"
  notANumber := "NaN"

/-- The text a value is persisted as. -/
def text : Value → String
  | bool b => if b then "true" else "false"
  | int i => toString i.toInt
  | uint n => toString n.toNat
  | uint16 n => toString n.toNat
  | float x => x.text numberLayout
  | string s => s
  | choice s => s

/-- The spellings of truth and falsehood. -/
def parseBool? (s : String) : Option Bool :=
  if ["1", "t", "T", "true", "TRUE", "True"].contains s then some true
  else if ["0", "f", "F", "false", "FALSE", "False"].contains s then some false
  else none

/-- The number that a text spells, if it is below a bound. -/
def parseBelow? (bound : Nat) (s : String) : Option Nat :=
  (readNat? s.toList).filter (· < bound)

/-- The value of a kind that a text denotes. Blanks around a truth value or a number are ignored,
numbers must be in range and finite, and texts are taken as they are. -/
def parse? (kind : Kind) (raw : String) : Option Value :=
  match kind with
  | .bool => (parseBool? (trim raw)).map bool
  | .int =>
    match readInt? (trim raw).toList with
    | some i => if -2 ^ (63 : Nat) ≤ i ∧ i < 2 ^ (63 : Nat) then some (int (.ofInt i)) else none
    | none => none
  | .uint => (parseBelow? (2 ^ (64 : Nat)) (trim raw)).map fun n => uint (.ofNat n)
  | .uint16 => (parseBelow? (2 ^ (16 : Nat)) (trim raw)).map fun n => uint16 (.ofNat n)
  | .float => (Binary64.read? (trim raw)).map float
  | .string => some (string raw)
  | .choice => some (choice raw)

def asBool? : Value → Option Bool
  | bool b => some b
  | _ => none

def asUInt16? : Value → Option UInt16
  | uint16 n => some n
  | _ => none

def asUInt64? : Value → Option UInt64
  | uint n => some n
  | uint16 n => some (.ofNat n.toNat)
  | _ => none

/-- The text of a string or a choice. -/
def asString? : Value → Option String
  | string s => some s
  | choice s => some s
  | _ => none

/-- The number nearest to a numeric value. -/
def asNumber? : Value → Option Binary64
  | int i => some (.ofInt i.toInt)
  | uint n => some (.ofNat n.toNat)
  | uint16 n => some (.ofNat n.toNat)
  | float x => some x
  | _ => none

/-- The member of a closed set that a string or a choice names. -/
def named? {α : Type} [Named α] (v : Value) : Option α :=
  v.asString?.bind Named.find?

/-- The choice of a member of a closed set. -/
def ofNamed {α : Type} [Named α] (a : α) : Value := choice (Named.name a)

/-- Equality, with numbers compared as numbers. -/
def agrees : Value → Value → Bool
  | float x, float y => x.agrees y
  | v, w => v == w

end Value
end NodeSettings
