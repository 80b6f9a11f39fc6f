/-!
Numerals: digits in a radix, with or without a sign. `natOfDigits?_of_toDigits`: reading the decimal
digits of a number gives the number.
-/

namespace NodeSettings.Text

/-- The value of a digit: `0`–`9`, then letters of either case. -/
def digitValue? (c : Char) : Option Nat :=
  if c.isDigit then some (c.toNat - 48)
  else if c.isLower then some (c.toNat - 87)
  else if c.isUpper then some (c.toNat - 55)
  else none

/-- Reads digits onto the number that the digits before them denote. -/
def appendDigits? (radix : Nat) : Nat → List Char → Option Nat
  | n, [] => some n
  | n, c :: rest =>
    match digitValue? c with
    | some d => if d < radix then appendDigits? radix (radix * n + d) rest else none
    | none => none

/-- The number that one or more digits denote. -/
def natOfDigits? (radix : Nat) (digits : List Char) : Option Nat :=
  if digits.isEmpty then none else appendDigits? radix 0 digits

/-- A natural number in decimal, with an optional `+`. -/
def readNat? : List Char → Option Nat
  | '+' :: digits => natOfDigits? 10 digits
  | digits => natOfDigits? 10 digits

/-- An integer in decimal, with an optional sign. -/
def readInt? : List Char → Option Int
  | '-' :: digits => (natOfDigits? 10 digits).map fun n => -(n : Int)
  | cs => (readNat? cs).map fun n => (n : Int)

/-- The hexadecimal digits of `n`, padded with zeros to `width`. -/
def hexDigits (n width : Nat) : List Char :=
  let digits := Nat.toDigits 16 n
  List.replicate (width - digits.length) '0' ++ digits

theorem appendDigits?_of_isDigit {digits : List Char} (all : ∀ c ∈ digits, c.isDigit = true)
    (n : Nat) : appendDigits? 10 n digits = some (Nat.ofDigitChars 10 digits n) := by
  induction digits generalizing n with
  | nil => rfl
  | cons c rest ih =>
    obtain ⟨first, later⟩ := List.forall_mem_cons.1 all
    have small : c.toNat - 48 < 10 := by
      have : c.toNat ≤ 57 := (Char.isDigit_iff_toNat.1 first).2
      omega
    have value : digitValue? c = some (c.toNat - 48) := if_pos first
    simp only [appendDigits?, value, if_pos small]
    rw [ih later, Nat.ofDigitChars_cons]
    rfl

/-- The decimal digits of a number denote it. -/
theorem natOfDigits?_of_toDigits (n : Nat) : natOfDigits? 10 (Nat.toDigits 10 n) = some n := by
  have all : ∀ c ∈ Nat.toDigits 10 n, c.isDigit = true :=
    fun c hc => Nat.isDigit_of_mem_toDigits (by decide) (by decide) hc
  have some_ : (Nat.toDigits 10 n).isEmpty = false := by
    rw [List.isEmpty_eq_false_iff]
    exact Nat.toDigits_ne_nil
  rw [natOfDigits?, some_, if_neg Bool.false_ne_true, appendDigits?_of_isDigit all,
    Nat.ofDigitChars_ten_toDigits]

end NodeSettings.Text
