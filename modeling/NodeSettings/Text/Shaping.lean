import NodeSettings.Text.Category
import NodeSettings.Text.Compatibility

/-!
Characters in a line: which way they run, and which of their neighbours they join. The tables are
texts of spans, each its first and last code point; marks and what has no glyph may lie within one.
-/

namespace NodeSettings.Text

/-- Characters from one code point to another, both included. -/
private structure Span where
  first : Nat
  last : Nat

private def spansOf (text : String) : List Span :=
  (tableRows text).filterMap fun row =>
    match row with
    | [first, last] => some ⟨first, last⟩
    | _ => none

private def Span.contains (span : Span) (n : Nat) : Bool := span.first ≤ n && n ≤ span.last

private def isInlineMark (c : Char) : Bool := category c matches .nonspacingMark | .enclosingMark

/-- The way a character runs. Marks run with the letter they stand on, neutral characters with
what is around them. -/
inductive Direction where
  | leftToRight | rightToLeft | europeanNumber | arabicNumber | mark | neutral
deriving DecidableEq, Repr

private def rightToLeftSpans : List Span :=
  spansOf "
  5be,5f4 608,608 60b,60b 60d,60d 61b,64a 66d,6d5 6e5,6e6 6ee,6ef 6fa,7f5 7fa,8c9 fb1d,fb28
  fb2a,fd3d fd50,fdc7 fdf0,fdfc fe70,fefc 10800,1091b 10920,10b35 10b40,10d23 10d40,10d65
  10d6f,10d8f 10e80,10ff6 1e800,1eebb"

private def arabicNumberSpans : List Span :=
  spansOf "
  660,669 66b,66c 10d30,10d39 10e60,10e7e"

private def europeanNumberSpans : List Span :=
  spansOf "
  30,39 b2,b3 b9,b9 6f0,6f9 2070,2070 2074,2079 2080,2089 2488,249b ff10,ff19 102e1,102fb
  1d7ce,1d7ff 1f100,1f10a 1fbf0,1fbf9"

private def neutralSpans : List Span :=
  spansOf "
  21,2f 3a,40 5b,60 7b,a9 ab,b1 b4,b4 b6,b8 bb,bf d7,d7 f7,f7 2b9,2ba 2c2,2cf 2d2,2df 2e5,2ed
  2ef,2ff 374,375 37e,37e 384,385 387,387 3f6,3f6 58a,58f 606,607 609,60a 60c,60c 60e,60f 66a,66a
  6de,6de 6e9,6e9 7f6,7f9 9f2,9f3 9fb,9fb af1,af1 bf3,bfa c78,c7e e3f,e3f f3a,f3d 1390,1399
  1400,1400 169b,169c 17db,17db 17f0,180a 1940,1945 19de,19ff 1fbd,1fbd 1fbf,1fc1 1fcd,1fcf
  1fdd,1fdf 1fed,1fef 1ffd,205e 207a,207e 208a,208e 20a0,2101 2103,2106 2108,2109 2114,2114
  2116,2118 211e,2123 2125,2125 2127,2127 2129,2129 212e,212e 213a,213b 2140,2144 214a,214d
  2150,215f 2189,2335 237b,2394 2396,2487 24ea,26ab 26ad,27ff 2900,2bff 2ce5,2cea 2cf9,2cff
  2e00,3004 3008,3020 3030,3030 3036,3037 303d,303f 309b,309c 30a0,30a0 30fb,30fb 31c0,31ef
  321d,321e 3250,325f 327c,327e 32b1,32bf 32cc,32cf 3377,337a 33de,33df 33ff,33ff 4dc0,4dff
  a490,a4c6 a60d,a60f a673,a67f a700,a721 a788,a788 a828,a82b a838,a839 a874,a877 ab6a,ab6b
  fb29,fb29 fd3e,fd4f fdcf,fdcf fdfd,fe6b ff01,ff0f ff1a,ff20 ff3b,ff40 ff5b,ff65 ffe0,fffd
  10101,10101 10140,1018c 10190,101a0 1091f,1091f 10b39,10b3f 10d6e,10d6e 11052,11065 11660,1166c
  11fd5,11ff1 16fe2,16fe2 1cc00,1ccd5 1cd00,1ceb3 1d1e9,1d245 1d300,1d356 1d6db,1d6db 1d715,1d715
  1d74f,1d74f 1d789,1d789 1d7c3,1d7c3 1e2ff,1e2ff 1eef0,1f0f5 1f10b,1f10f 1f12f,1f12f 1f16a,1f16f
  1f1ad,1f1ad 1f260,1fbef"

/-- Marks above or below a letter that run from left to right all the same. -/
private def runningMarks : List Nat := [0xCBF, 0xCC6, 0x11A07, 0x11A08, 0x11C3F]

def direction (c : Char) : Direction :=
  let n := c.toNat
  if isInlineMark c then
    if runningMarks.contains n then .leftToRight else .mark
  else if rightToLeftSpans.any (·.contains n) then .rightToLeft
  else if arabicNumberSpans.any (·.contains n) then .arabicNumber
  else if europeanNumberSpans.any (·.contains n) then .europeanNumber
  else if neutralSpans.any (·.contains n) then .neutral
  else .leftToRight

/-- The neighbours that a letter of a cursive script joins. Letters join across what is
transparent. -/
inductive Joining where
  | next | previous | both | transparent | neither
deriving DecidableEq, Repr

namespace Joining

def joinsNext (j : Joining) : Bool := j matches next | both

def joinsPrevious (j : Joining) : Bool := j matches previous | both

end Joining

private def nextSpans : List Span :=
  spansOf "
  a872,a872 10acd,10acd 10ad7,10ad7 10d00,10d00 10fcb,10fcb"

private def previousSpans : List Span :=
  spansOf "
  622,625 627,627 629,629 62f,632 648,648 671,673 675,677 688,699 6c0,6c0 6c3,6cb 6cd,6cd 6cf,6cf
  6d2,6d3 6d5,6d5 6ee,6ef 710,710 715,719 71e,71e 728,728 72a,72a 72c,72c 72f,74d 759,75b 76b,76c
  771,771 773,774 778,779 840,840 846,847 849,849 854,854 856,858 867,867 869,882 88e,88e 8aa,8ac
  8ae,8ae 8b1,8b2 8b9,8b9 10ac5,10ac5 10ac7,10ac7 10ac9,10aca 10ace,10ad2 10add,10add 10ae1,10ae1
  10ae4,10ae4 10aef,10aef 10b81,10b81 10b83,10b85 10b89,10b89 10b8c,10b8c 10b8e,10b8f 10b91,10b91
  10ba9,10bac 10d22,10d22 10ec2,10ec2 10f33,10f33 10f54,10f54 10f74,10f75 10fb4,10fb6 10fb9,10fba
  10fbd,10fbd 10fc2,10fc3 10fc9,10fc9"

private def bothSpans : List Span :=
  spansOf "
  620,620 626,626 628,628 62a,62e 633,63f 641,647 649,64a 66e,66f 678,687 69a,6bf 6c1,6c2 6cc,6cc
  6ce,6ce 6d0,6d1 6fa,6fc 6ff,6ff 712,714 71a,71d 71f,727 729,729 72b,72b 72d,72e 74e,758 75c,76a
  76d,770 772,772 775,777 77a,77f 7ca,7ea 841,845 848,848 84a,853 855,855 860,860 862,865 868,868
  886,886 889,88d 8a0,8a9 8af,8b0 8b3,8b8 8ba,8c8 1807,1807 1820,1878 1887,18aa a840,a871
  10ac0,10ac4 10ad3,10ad6 10ad8,10adc 10ade,10ae0 10aeb,10aee 10b80,10b80 10b82,10b82 10b86,10b88
  10b8a,10b8b 10b8d,10b8d 10b90,10b90 10bad,10bae 10d01,10d21 10d23,10d23 10ec3,10ec4 10f30,10f32
  10f34,10f44 10f51,10f53 10f70,10f73 10f76,10f81 10fb0,10fb0 10fb2,10fb3 10fb8,10fb8 10fbb,10fbc
  10fbe,10fbf 10fc1,10fc1 10fc4,10fc4 10fca,10fca 1e900,1e943"

def joining (c : Char) : Joining :=
  let n := c.toNat
  if isInlineMark c || n == 0x1E94B then .transparent
  else if bothSpans.any (·.contains n) then .both
  else if previousSpans.any (·.contains n) then .previous
  else if nextSpans.any (·.contains n) then .next
  else .neither

end NodeSettings.Text
