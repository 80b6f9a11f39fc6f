import NodeSettings.Json.Number

/-!
The syntax of JSON texts. A syntax tree keeps numbers as they are written and strings as code
points, of which an escape may name one that is no character.
-/

namespace NodeSettings.Json

open Text

inductive Syntax where
  | null
  | bool (b : Bool)
  | number (l : Literal)
  | string (codes : List Nat)
  | array (items : List Syntax)
  | object (members : List (List Nat × Syntax))

namespace Syntax

def isGap (c : Char) : Bool := c == ' ' || c == '\t' || c == '\n' || c == '\r'

def skipGaps (cs : List Char) : List Char := cs.dropWhile isGap

/-- The code point of an escape that is one letter. -/
def escapeCode? (c : Char) : Option Nat :=
  match c with
  | '"' | '\\' | '/' => some c.toNat
  | 'b' => some 8
  | 'f' => some 12
  | 'n' => some 10
  | 'r' => some 13
  | 't' => some 9
  | _ => none

/-- The rest of a string after its opening quote, and what follows the closing one. -/
def readString : List Char → Option (List Nat × List Char)
  | [] => none
  | '"' :: rest => some ([], rest)
  | '\\' :: 'u' :: a :: b :: c :: d :: rest =>
    match natOfDigits? 16 [a, b, c, d] with
    | some n => (readString rest).map fun (codes, rest) => (n :: codes, rest)
    | none => none
  | '\\' :: c :: rest =>
    match escapeCode? c with
    | some n => (readString rest).map fun (codes, rest) => (n :: codes, rest)
    | none => none
  | c :: rest =>
    if c.toNat < 0x20 || c = '\\' then none
    else (readString rest).map fun (codes, rest) => (c.toNat :: codes, rest)

/-- The exponent of a number, if one is there. -/
def readExponent : List Char → Option (Option (Bool × List Char) × List Char)
  | [] => some (none, [])
  | c :: rest =>
    if c = 'e' || c = 'E' then
      let (down, rest) := match rest with
        | '-' :: more => (true, more)
        | '+' :: more => (false, more)
        | more => (false, more)
      let digits := rest.takeWhile Char.isDigit
      if digits.isEmpty then none else some (some (down, digits), rest.dropWhile Char.isDigit)
    else some (none, c :: rest)

/-- A number: no zero in front of other digits, and digits on either side of a point. -/
def readNumber (cs : List Char) : Option (Literal × List Char) :=
  let (negative, cs) := match cs with
    | '-' :: rest => (true, rest)
    | rest => (false, rest)
  let whole := cs.takeWhile Char.isDigit
  if whole.isEmpty || (whole.head? == some '0' && 1 < whole.length) then none
  else
    match cs.dropWhile Char.isDigit with
    | '.' :: rest =>
      let fraction := rest.takeWhile Char.isDigit
      if fraction.isEmpty then none
      else
        (readExponent (rest.dropWhile Char.isDigit)).map fun (exponent, rest) =>
          (⟨negative, whole, fraction, exponent⟩, rest)
    | rest =>
      (readExponent rest).map fun (exponent, rest) => (⟨negative, whole, [], exponent⟩, rest)

mutual

/-- A value and what follows it; `fuel` bounds the nesting. -/
def readValue (fuel : Nat) (cs : List Char) : Option (Syntax × List Char) :=
  match fuel with
  | 0 => none
  | fuel + 1 =>
    match skipGaps cs with
    | 'n' :: 'u' :: 'l' :: 'l' :: rest => some (null, rest)
    | 't' :: 'r' :: 'u' :: 'e' :: rest => some (bool true, rest)
    | 'f' :: 'a' :: 'l' :: 's' :: 'e' :: rest => some (bool false, rest)
    | '"' :: rest => (readString rest).map fun (codes, rest) => (string codes, rest)
    | '[' :: rest =>
      match skipGaps rest with
      | ']' :: rest => some (array [], rest)
      | rest => (readItems fuel rest).map fun (items, rest) => (array items, rest)
    | '\x7b' :: rest =>
      match skipGaps rest with
      | '\x7d' :: rest => some (object [], rest)
      | rest => (readMembers fuel rest).map fun (members, rest) => (object members, rest)
    | rest => (readNumber rest).map fun (l, rest) => (number l, rest)

/-- Values between commas, and what follows the closing bracket. -/
def readItems (fuel : Nat) (cs : List Char) : Option (List Syntax × List Char) :=
  match fuel with
  | 0 => none
  | fuel + 1 =>
    match readValue fuel cs with
    | none => none
    | some (v, rest) =>
      match skipGaps rest with
      | ',' :: rest => (readItems fuel rest).map fun (items, rest) => (v :: items, rest)
      | ']' :: rest => some ([v], rest)
      | _ => none

/-- Members between commas, and what follows the closing brace. -/
def readMembers (fuel : Nat) (cs : List Char) : Option (List (List Nat × Syntax) × List Char) :=
  match fuel with
  | 0 => none
  | fuel + 1 =>
    match skipGaps cs with
    | '"' :: rest =>
      match readString rest with
      | none => none
      | some (key, rest) =>
        match skipGaps rest with
        | ':' :: rest =>
          match readValue fuel rest with
          | none => none
          | some (v, rest) =>
            match skipGaps rest with
            | ',' :: rest =>
              (readMembers fuel rest).map fun (members, rest) => ((key, v) :: members, rest)
            | '\x7d' :: rest => some ([(key, v)], rest)
            | _ => none
        | _ => none
    | _ => none

end

/-- The syntax tree of a whole text. -/
def parse? (s : String) : Option Syntax :=
  match readValue (2 * s.length + 2) s.toList with
  | some (v, rest) => if (skipGaps rest).isEmpty then some v else none
  | none => none

end Syntax

/-- The characters of code points in which a pair of surrogates stands for one character. -/
def charsOfCodes? : List Nat → Option (List Char)
  | [] => some []
  | n :: rest =>
    if 0xDC00 ≤ n && n ≤ 0xDFFF then none
    else if 0xD800 ≤ n && n ≤ 0xDBFF then
      match rest with
      | m :: rest =>
        if 0xDC00 ≤ m && m ≤ 0xDFFF then
          (charsOfCodes? rest).map fun cs =>
            Char.ofNat (0x10000 + (n - 0xD800) * 0x400 + (m - 0xDC00)) :: cs
        else none
      | [] => none
    else (charsOfCodes? rest).map fun cs => Char.ofNat n :: cs

/-- The text of code points. -/
def textOfCodes? (codes : List Nat) : Option String := (charsOfCodes? codes).map String.ofList

end NodeSettings.Json
