import NodeSettings.Pattern.CharacterSet

/-!
Patterns over texts, and whether one occurs in a text. A set of places in a text of `n` characters
is a list of `n + 1` marks. `advance` carries the marked places over the pattern: it marks the ends
of all matches that begin at a marked place.
-/

namespace NodeSettings

/-- Conditions on the characters on either side of a place; at an end of the text there is none. -/
inductive Anchor where
  | textStart | textEnd | lineStart | lineEnd | carriageLineStart | carriageLineEnd
  | wordBoundary (unicode : Bool) | wordInside (unicode : Bool)
  | wordStart (unicode : Bool) | wordEnd (unicode : Bool)
  | wordStartHalf (unicode : Bool) | wordEndHalf (unicode : Bool)
deriving DecidableEq

namespace Anchor

private def isWordAt (unicode : Bool) (side : Option Char) : Bool :=
  side.any fun c => CharacterSet.isWord c && (unicode || c.toNat < 0x80)

def holds (before after : Option Char) : Anchor → Bool
  | textStart => before.isNone
  | textEnd => after.isNone
  | lineStart => before.all (· == '\n')
  | lineEnd => after.all (· == '\n')
  | carriageLineStart => before.all fun c => c == '\n' || (c == '\r' && after != some '\n')
  | carriageLineEnd => after.all fun c => c == '\r' || (c == '\n' && before != some '\r')
  | wordBoundary u => isWordAt u before != isWordAt u after
  | wordInside u => isWordAt u before == isWordAt u after
  | wordStart u => !isWordAt u before && isWordAt u after
  | wordEnd u => isWordAt u before && !isWordAt u after
  | wordStartHalf u => !isWordAt u before
  | wordEndHalf u => !isWordAt u after

end Anchor

inductive Pattern where
  | empty
  | chars (s : CharacterSet)
  | anchor (a : Anchor)
  | sequence (p q : Pattern)
  | either (p q : Pattern)
  /-- At least `least` times, and at most `most` times if there is a limit. -/
  | repeated (p : Pattern) (least : Nat) (most : Option Nat)
deriving DecidableEq

namespace Pattern

/-- Adds the marks of `new` to `marks`. -/
def join : List Bool → List Bool → List Bool
  | [], _ => []
  | marks, [] => marks
  | m :: marks, n :: new => (m || n) :: join marks new

theorem count_false_join_le (marks new : List Bool) :
    (join marks new).count false ≤ marks.count false := by
  induction marks generalizing new with
  | nil => simp [join]
  | cons m marks ih =>
    cases new with
    | nil => simp [join]
    | cons n new =>
      have := ih new
      cases m <;> cases n <;> simp [join] <;> omega

theorem count_false_join_lt {marks new : List Bool} (h : join marks new ≠ marks) :
    (join marks new).count false < marks.count false := by
  induction marks generalizing new with
  | nil => simp [join] at h
  | cons m marks ih =>
    cases new with
    | nil => simp [join] at h
    | cons n new =>
      have le := count_false_join_le marks new
      cases m with
      | true => simpa [join] using ih (by simpa [join] using h)
      | false =>
        cases n with
        | true =>
          simp only [join, Bool.or_true, List.count_cons_of_ne (by decide : true ≠ false)]
          simp only [List.count_cons_self]
          omega
        | false =>
          have := ih (by simpa [join] using h)
          simp only [join, Bool.or_false, List.count_cons_self]
          omega

/-- Marks every place that steps lead to from a marked one. -/
def closure (step : List Bool → List Bool) (marks : List Bool) : List Bool :=
  if join marks (step marks) = marks then marks else closure step (join marks (step marks))
termination_by marks.count false
decreasing_by exact count_false_join_lt (by assumption)

/-- Takes exactly `n` steps. -/
def stepTimes (step : List Bool → List Bool) : Nat → List Bool → List Bool
  | 0, marks => marks
  | n + 1, marks => if marks.contains true then stepTimes step n (step marks) else marks

/-- Marks every place that at most `n` steps lead to from a marked one. -/
def stepUpTo (step : List Bool → List Bool) : Nat → List Bool → List Bool
  | 0, marks => marks
  | n + 1, marks =>
    if join marks (step marks) = marks then marks else stepUpTo step n (join marks (step marks))

/-- Carries marks over one character of a set. -/
def stepOver (s : CharacterSet) (text : List Char) (marks : List Bool) : List Bool :=
  false :: List.zipWith (fun m c => m && s.contains c) marks text

/-- Keeps the marks where an anchor holds. -/
def keepAt (a : Anchor) (text : List Char) (marks : List Bool) : List Bool :=
  List.zipWith (fun m sides => m && a.holds sides.1 sides.2) marks
    (List.zip (none :: text.map some) (text.map some ++ [none]))

/-- The marks after a pattern: the ends of its matches that begin at a mark. -/
def advance (text : List Char) : Pattern → List Bool → List Bool
  | empty, marks => marks
  | chars s, marks => stepOver s text marks
  | anchor a, marks => keepAt a text marks
  | sequence p q, marks => q.advance text (p.advance text marks)
  | either p q, marks => join (p.advance text marks) (q.advance text marks)
  | repeated p least most, marks =>
    let after := stepTimes (p.advance text) least marks
    match most with
    | none => closure (p.advance text) after
    | some limit => stepUpTo (p.advance text) (limit - least) after

/-- Whether the pattern matches anywhere in a text. -/
def occursIn (p : Pattern) (s : String) : Bool :=
  let text := s.toList
  (p.advance text (List.replicate (text.length + 1) true)).contains true

end Pattern
end NodeSettings
