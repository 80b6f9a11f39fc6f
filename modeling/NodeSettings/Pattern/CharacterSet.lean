import NodeSettings.Text.Blank
import NodeSettings.Text.Case
import NodeSettings.Text.Category

/-!
Sets of characters, as patterns write them: ranges, classes, complements and combinations.
-/

namespace NodeSettings

open Text

inductive CharacterSet where
  | range (low high : Char)
  | digits
  | blanks
  | words
  | categories (members : List Category)
  | complement (s : CharacterSet)
  | union (s t : CharacterSet)
  | inter (s t : CharacterSet)
  | diff (s t : CharacterSet)
  /-- The characters that differ in case only from a member. -/
  | anyCase (s : CharacterSet)
deriving DecidableEq

namespace CharacterSet

/-- Letters, marks, digits, connectors and joiners. -/
def isWord (c : Char) : Bool :=
  let n := c.toNat
  if n < 0x80 then c.isAlphanum || c == '_'
  else
    let k := category c
    k.isLetter || k.isMark || k matches .decimalNumber | .letterNumber | .connectorPunctuation
      || n == 0x200C || n == 0x200D || (0x24B6 ≤ n && n ≤ 0x24E9)
      || (0x1F130 ≤ n && n ≤ 0x1F149) || (0x1F150 ≤ n && n ≤ 0x1F169)
      || (0x1F170 ≤ n && n ≤ 0x1F189)

def contains : CharacterSet → Char → Bool
  | range low high, c => low ≤ c && c ≤ high
  | digits, c => category c == .decimalNumber
  | blanks, c => isBlank c
  | words, c => isWord c
  | categories members, c => members.contains (category c)
  | complement s, c => !s.contains c
  | union s t, c => s.contains c || t.contains c
  | inter s t, c => s.contains c && t.contains c
  | diff s t, c => s.contains c && !t.contains c
  | anyCase s, c => (caseVariants c).any s.contains

def single (c : Char) : CharacterSet := range c c

/-- The set without members. -/
def none : CharacterSet := range '\x01' '\x00'

def any : CharacterSet := complement none

def ascii : CharacterSet := range '\x00' '\x7f'

def unionAll : List CharacterSet → CharacterSet
  | [] => none
  | [s] => s
  | s :: rest => union s (unionAll rest)

@[simp] theorem contains_single (c d : Char) : (single c).contains d = (d == c) := by
  rw [Bool.eq_iff_iff]
  simp only [single, contains, Bool.and_eq_true, decide_eq_true_eq, beq_iff_eq]
  exact ⟨fun ⟨h, k⟩ => Char.le_antisymm k h, fun h => h ▸ ⟨Char.le_refl _, Char.le_refl _⟩⟩

end CharacterSet
end NodeSettings
