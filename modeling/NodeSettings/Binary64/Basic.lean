/-!
Numbers in the 64-bit binary format, without rounding anywhere but in `ofRatio`. A magnitude is its
rank: the count of finite magnitudes below it. Ranks order as the numbers do, and a rank is also the
number's bit pattern without the sign.
-/

namespace NodeSettings

-- A power is the built-in one, whatever theory of powers is at hand.
attribute [local instance (high)] instPowNat

/-- How many finite magnitudes there are. -/
abbrev Binary64.rankLimit : Nat := 2047 * 2 ^ (52 : Nat)

inductive Binary64 where
  | finite (negative : Bool) (rank : Fin Binary64.rankLimit)
  | infinite (negative : Bool)
  | nan
deriving DecidableEq

namespace Binary64

/-- One, in units of the least magnitude above zero. -/
def unitsPerOne : Nat := 2 ^ (1074 : Nat)

/-- A magnitude in units of the least one above zero. -/
def units (rank : Nat) : Nat :=
  let shift := rank / 2 ^ (52 : Nat) - 1
  (rank - shift * 2 ^ (52 : Nat)) * 2 ^ shift

/-- The whole number nearest to `num / den`; of two, the even one. -/
def roundHalfEven (num den : Nat) : Nat :=
  let whole := num / den
  let rest := num % den
  if 2 * rest < den then whole
  else if den < 2 * rest then whole + 1
  else whole + whole % 2

/-- The rank of the magnitude nearest to `num / den` units, as if ranks had no limit. -/
def nearestRank (num den : Nat) : Nat :=
  let whole := num / den
  let shift := if whole < 2 ^ (53 : Nat) then 0 else whole.log2 - 52
  shift * 2 ^ (52 : Nat) + roundHalfEven num (den * 2 ^ shift)

/-- The number nearest to `num / den` units; past the last finite one it is infinite. -/
def ofRatio (negative : Bool) (num den : Nat) : Binary64 :=
  if h : nearestRank num den < rankLimit then .finite negative ⟨nearestRank num den, h⟩
  else .infinite negative

def zero : Binary64 := .finite false ⟨0, by decide⟩

def ofInt (i : Int) : Binary64 := ofRatio (decide (i < 0)) (i.natAbs * unitsPerOne) 1

def ofNat (n : Nat) : Binary64 := ofRatio false (n * unitsPerOne) 1

def isFinite : Binary64 → Bool
  | .finite .. => true
  | _ => false

def isNegative : Binary64 → Bool
  | .finite negative _ => negative
  | .infinite negative => negative
  | .nan => false

def neg : Binary64 → Binary64
  | .finite negative rank => .finite (!negative) rank
  | .infinite negative => .infinite (!negative)
  | .nan => .nan

/-- A number's place on the line: both zeros have one place, and `nan` has none. -/
def place? : Binary64 → Option Int
  | .finite negative rank => some (if negative then -(rank.val : Int) else rank.val)
  | .infinite negative => some (if negative then -(rankLimit : Int) else rankLimit)
  | .nan => none

/-- Numeric equality. -/
def agrees (x y : Binary64) : Bool :=
  match x.place?, y.place? with
  | some p, some q => p == q
  | _, _ => false

/-- Numeric order; `nan` is below nothing. -/
def le (x y : Binary64) : Bool :=
  match x.place?, y.place? with
  | some p, some q => p ≤ q
  | _, _ => false

def isZero (x : Binary64) : Bool := x.place? == some 0

def mul : Binary64 → Binary64 → Binary64
  | .finite m x, .finite n y => ofRatio (m != n) (units x * units y) unitsPerOne
  | .nan, _ | _, .nan => .nan
  | x, y => if x.isZero || y.isZero then .nan else .infinite (x.isNegative != y.isNegative)

def div : Binary64 → Binary64 → Binary64
  | .finite m x, .finite n y =>
    if y.val = 0 then if x.val = 0 then .nan else .infinite (m != n)
    else ofRatio (m != n) (units x * unitsPerOne) (units y)
  | .infinite m, .finite n _ => .infinite (m != n)
  | .finite m _, .infinite n => .finite (m != n) ⟨0, by decide⟩
  | _, _ => .nan

example : ofInt 1 = .finite false ⟨1023 * 2 ^ (52 : Nat), by decide⟩ := by decide +kernel
example : ofInt (2 ^ (53 : Nat) + 1) = ofInt (2 ^ (53 : Nat)) := by decide +kernel
example : zero.agrees zero.neg ∧ zero ≠ zero.neg := by decide

end Binary64
end NodeSettings
