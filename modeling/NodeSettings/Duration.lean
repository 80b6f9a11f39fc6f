import NodeSettings.Text.Blank
import NodeSettings.Text.Numeral

/-!
Spans of time written as numbers with units, such as `1h2m3s`. Terms are added up; with `*` between
them they are multiplied as numbers of seconds. All that follows the first term is put together
first.
-/

namespace NodeSettings

open Text

-- A power is the built-in one, whatever theory of powers is at hand.
attribute [local instance (high)] instPowNat

/-- A span of time that 64 bits can count in nanoseconds. -/
structure Duration where
  nanoseconds : UInt64
deriving DecidableEq

namespace Duration

def second : Nat := 10 ^ (9 : Nat)

/-- The length of a unit in nanoseconds. -/
def unitLength? (name : String) : Option Nat :=
  if ["y", "year"].contains name then some (365 * 86400 * second)
  else if ["mon", "month"].contains name then some (30 * 86400 * second)
  else if ["w", "week"].contains name then some (7 * 86400 * second)
  else if ["d", "day"].contains name then some (86400 * second)
  else if ["h", "hr", "hour"].contains name then some (3600 * second)
  else if ["m", "min", "minute"].contains name then some (60 * second)
  else if ["s", "sec", "second"].contains name then some second
  else if ["ms", "msec", "millisecond"].contains name then some (10 ^ (6 : Nat))
  else if ["µs", "µsec", "µsecond", "us", "usec", "usecond", "microsecond"].contains name then
    some (10 ^ (3 : Nat))
  else if ["ns", "nsec", "nanosecond"].contains name then some 1
  else none

/-- The number, if 64 bits can hold it. -/
def within64? (n : Nat) : Option Nat := if n < 2 ^ (64 : Nat) then some n else none

private def isUnitLetter (c : Char) : Bool := c.isAlpha || c == 'µ'

/-- A number and its unit, which is seconds if absent. -/
def readTerm? (cs : List Char) : Option (Nat × List Char) :=
  let digits := cs.takeWhile Char.isDigit
  let rest := cs.drop digits.length
  let unit := rest.takeWhile isUnitLetter
  let length :=
    if unit.isEmpty then some second
    else unitLength? (String.ofList (unit.map Char.toLower))
  match (natOfDigits? 10 digits).bind within64?, length with
  | some n, some length => (within64? (n * length)).map fun n => (n, rest.drop unit.length)
  | _, _ => none

/-- How a term is joined to the ones before it. -/
inductive Join where
  | add | multiply
deriving DecidableEq

private def isGap (c : Char) : Bool := c == ' ' || c == '\t' || c == '\r' || c == '\n'

private def readJoin (cs : List Char) : Join × List Char :=
  match cs.dropWhile isGap with
  | '+' :: rest => (.add, rest.dropWhile isGap)
  | '*' :: rest => (.multiply, rest.dropWhile isGap)
  | rest => (.add, rest)

/-- The terms after the first, to the end of the text. -/
def readTail? (cs : List Char) : Option (List (Join × Nat)) :=
  if cs.isEmpty then some []
  else
    let (join, rest) := readJoin cs
    match readTerm? rest with
    | some (n, rest) =>
      if rest.length < cs.length then (readTail? rest).map ((join, n) :: ·) else none
    | none => none
termination_by cs.length

/-- Two lengths put together. -/
def Join.apply? (a b : Nat) : Join → Option Nat
  | add => within64? (a + b)
  | multiply => within64? (a * b / second)

/-- The lengths put together in order, from the one that changes nothing. -/
def Join.fold? (join : Join) (lengths : List Nat) : Option Nat :=
  lengths.foldlM (fun a b => join.apply? a b) (match join with
    | add => 0
    | multiply => second)

/-- The length of a first term and what follows it; joins must not be mixed. -/
def total? (head : Nat) (tail : List (Join × Nat)) : Option Nat :=
  match tail with
  | [] => some head
  | (join, _) :: _ =>
    if tail.all (·.1 = join) then
      (join.fold? (tail.map (·.2))).bind fun length => join.apply? head length
    else none

/-- The span that a text denotes; blanks around it are ignored. -/
def parse? (s : String) : Option Duration :=
  match readTerm? (trimChars s.toList) with
  | some (head, rest) =>
    ((readTail? rest).bind (total? head)).map fun n => ⟨.ofNat n⟩
  | none => none

def seconds (d : Duration) : Nat := d.nanoseconds.toNat / second

/-- The nanoseconds beyond whole seconds. -/
def subsecond (d : Duration) : Nat := d.nanoseconds.toNat % second

example : parse? " 1h2m3s " = some ⟨3723000000000⟩ := by decide +kernel
example : parse? "5 parsecs" = none := by decide +kernel
example : parse? "2*3*4" = some ⟨24000000000⟩ := by decide +kernel
example : parse? "1+2*3" = none := by decide +kernel

end Duration
end NodeSettings
