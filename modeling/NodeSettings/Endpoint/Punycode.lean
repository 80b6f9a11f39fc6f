/-!
Labels of host names in ASCII: the characters of ASCII first, then where to insert the others, as
gaps between their places in numbers of base 36 with digits that wear off.
-/

namespace NodeSettings.Endpoint.Punycode

/-- The character of a digit: letters, then decimal digits. -/
def digitChar (d : Nat) : Char := if d < 26 then .ofNat (97 + d) else .ofNat (22 + d)

/-- The digit of a character. -/
def digitValue? (c : Char) : Option Nat :=
  if c.isLower then some (c.toNat - 97)
  else if c.isUpper then some (c.toNat - 65)
  else if c.isDigit then some (c.toNat - 22)
  else none

/-- A digit below this is the last of its number. -/
def threshold (k bias : Nat) : Nat :=
  if k ≤ bias then 1 else if bias + 26 ≤ k then 26 else k - bias

private def wear (delta k : Nat) : Nat :=
  if 455 < delta then wear (delta / 35) (k + 36) else k + 36 * delta / (delta + 38)
termination_by delta
decreasing_by exact Nat.div_lt_self (by omega) (by omega)

/-- The bias after a gap, when `count` characters stand. -/
def adapt (delta count : Nat) (isFirst : Bool) : Nat :=
  let scaled := if isFirst then delta / 700 else delta / 2
  wear (scaled + scaled / count) 0

private def encodeGap (fuel bias k q : Nat) : List Char :=
  match fuel with
  | 0 => []
  | fuel + 1 =>
    let t := threshold k bias
    if q < t then [digitChar q]
    else
      digitChar (t + (q - t) % (36 - t)) :: encodeGap fuel bias (k + 36) ((q - t) / (36 - t))

/-- What the encoding of one character after another hands on. -/
private structure Encoding where
  code : Nat
  delta : Nat
  bias : Nat
  count : Nat
  output : List Char

/-- Encodes all places of the character `n`, which is the next larger one. -/
private def encodeCode (codes : List Nat) (basic : Nat) (st : Encoding) (n : Nat) : Encoding :=
  let start := { st with delta := st.delta + (n - st.code) * (st.count + 1), code := n }
  let done := codes.foldl
    (fun (st : Encoding) c =>
      if c < n then { st with delta := st.delta + 1 }
      else if c = n then
        { st with
          output := st.output ++ encodeGap 32 st.bias 36 st.delta
          bias := adapt st.delta (st.count + 1) (st.count = basic)
          delta := 0
          count := st.count + 1 }
      else st)
    start
  { done with delta := done.delta + 1, code := n + 1 }

/-- The label in ASCII. -/
def encode (label : List Char) : List Char :=
  let codes := label.map Char.toNat
  let basic := label.filter fun c => c.toNat < 0x80
  let others := ((codes.filter (0x80 ≤ ·)).eraseDups).mergeSort (· ≤ ·)
  let start : Encoding := ⟨0x80, 0, 72, basic.length, []⟩
  let output := (others.foldl (encodeCode codes basic.length) start).output
  (if basic.isEmpty then [] else basic ++ ['-']) ++ output

/-- Reads a gap: its size, and what follows it. -/
private def decodeGap? (bias : Nat) : Nat → Nat → Nat → List Char → Option (Nat × List Char)
  | _, _, _, [] => none
  | i, w, k, c :: rest =>
    match digitValue? c with
    | none => none
    | some d =>
      let t := threshold k bias
      let i := i + d * w
      if 2 ^ 32 ≤ i then none
      else if d < t then some (i, rest)
      else if 2 ^ 32 ≤ w * (36 - t) then none
      else decodeGap? bias i (w * (36 - t)) (k + 36) rest

/-- Inserts characters at their gaps until the text ends. -/
private def insertAll? (code i bias : Nat) (output : List Nat) (cs : List Char) :
    Option (List Nat) :=
  if cs.isEmpty then some output
  else
    match decodeGap? bias i 1 36 cs with
    | none => none
    | some (next, rest) =>
      let count := output.length + 1
      let code := code + next / count
      let place := next % count
      if !code.isValidChar then none
      else if rest.length < cs.length then
        insertAll? code (place + 1) (adapt (next - i) count (i = 0)) (output.insertIdx place code)
          rest
      else none
termination_by cs.length

/-- The label that a text in ASCII stands for. -/
def decode? (cs : List Char) : Option (List Char) :=
  let basic := ((cs.reverse.dropWhile (· != '-')).drop 1).reverse
  let rest := (cs.reverse.takeWhile (· != '-')).reverse
  (insertAll? 0x80 0 72 (basic.map Char.toNat) rest).map fun codes => codes.map Char.ofNat

example : encode "bücher".toList = "bcher-kva".toList := by decide +kernel
example : decode? "bcher-kva".toList = some "bücher".toList := by decide +kernel

end NodeSettings.Endpoint.Punycode
