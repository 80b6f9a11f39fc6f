import NodeSettings.Pattern.Basic

/-!
The small parts of a pattern's text: flags, escapes and the names of classes.
-/

namespace NodeSettings.Pattern

open Text

/-- What governs the reading of a pattern's text from some place on. -/
structure Flags where
  ignoreCase : Bool := false
  multiLine : Bool := false
  dotMatchesNewline : Bool := false
  carriageReturns : Bool := false
  unicode : Bool := true
  /-- Blanks and comments between the parts are ignored. -/
  verbose : Bool := false

/-- One part of a pattern's text that stands for a character, a set or a condition. -/
inductive Primitive where
  | literal (c : Char)
  | set (s : CharacterSet)
  | anchor (a : Anchor)

/-- Skips blanks and comments, which run from `#` to the end of their line. -/
def skipBlanks (inComment : Bool) : List Char → List Char
  | [] => []
  | c :: rest =>
    if inComment then skipBlanks (c != '\n') rest
    else if isBlank c then skipBlanks false rest
    else if c = '#' then skipBlanks true rest
    else c :: rest

/-- Skips what the flags say is not part of the pattern. -/
def Flags.skip (flags : Flags) (cs : List Char) : List Char :=
  if flags.verbose then skipBlanks false cs else cs

def Flags.set (flags : Flags) (value : Bool) : Char → Flags
  | 'i' => { flags with ignoreCase := value }
  | 'm' => { flags with multiLine := value }
  | 's' => { flags with dotMatchesNewline := value }
  | 'R' => { flags with carriageReturns := value }
  | 'u' => { flags with unicode := value }
  | 'x' => { flags with verbose := value }
  | _ => flags

/-- Applies flag letters; those after a `-` are switched off. -/
def Flags.apply (flags : Flags) (letters : List Char) : Flags :=
  let on := letters.takeWhile (· != '-')
  let off := letters.dropWhile (· != '-')
  off.foldl (fun f c => f.set false c) (on.foldl (fun f c => f.set true c) flags)

/-- Flag letters up to `:` or `)`, with that mark and what follows it. -/
def readFlagLetters? (cs : List Char) : Option (List Char × Char × List Char) :=
  let letters := cs.takeWhile fun c => c != ':' && c != ')'
  match cs.drop letters.length with
  | [] => none
  | mark :: rest =>
    if letters.all ("imsUuRx-".toList.contains ·) && letters.eraseDups.length = letters.length
        && letters.getLast? != some '-' && !(letters.isEmpty && mark = ')')
    then some (letters, mark, rest) else none

/-- A set as the flags on case have it read. -/
def Flags.leaf (flags : Flags) (s : CharacterSet) : CharacterSet :=
  if flags.ignoreCase then
    if flags.unicode then .anyCase s else .inter (.anyCase s) .ascii
  else s

/-- The complement of a set; without Unicode it would hold parts of characters. -/
def Flags.complement? (flags : Flags) (s : CharacterSet) : Option CharacterSet :=
  if flags.unicode then some (.complement s) else none

private def asciiBlanks : CharacterSet := .union (.range '\t' '\r') (.single ' ')

private def asciiWords : CharacterSet :=
  .unionAll [.range '0' '9', .range 'A' 'Z', .single '_', .range 'a' 'z']

/-- The set of a class letter in either of its cases. -/
def classLetter? (flags : Flags) (c : Char) : Option CharacterSet :=
  let pick (unicode ascii : CharacterSet) := if flags.unicode then unicode else ascii
  match c with
  | 'd' => some (pick .digits (.range '0' '9'))
  | 's' => some (pick .blanks asciiBlanks)
  | 'w' => some (pick .words asciiWords)
  | 'D' => flags.complement? .digits
  | 'S' => flags.complement? .blanks
  | 'W' => flags.complement? .words
  | _ => none

/-- The set of a bracketed class name. -/
def asciiClass? : String → Option CharacterSet
  | "alnum" => some (.unionAll [.range '0' '9', .range 'A' 'Z', .range 'a' 'z'])
  | "alpha" => some (.union (.range 'A' 'Z') (.range 'a' 'z'))
  | "ascii" => some .ascii
  | "blank" => some (.union (.single '\t') (.single ' '))
  | "cntrl" => some (.union (.range '\x00' '\x1f') (.single '\x7f'))
  | "digit" => some (.range '0' '9')
  | "graph" => some (.range '!' '~')
  | "lower" => some (.range 'a' 'z')
  | "print" => some (.range ' ' '~')
  | "punct" =>
    some (.unionAll [.range '!' '/', .range ':' '@', .range '[' '\x60', .range '\x7b' '~'])
  | "space" => some asciiBlanks
  | "upper" => some (.range 'A' 'Z')
  | "word" => some asciiWords
  | "xdigit" => some (.unionAll [.range '0' '9', .range 'A' 'F', .range 'a' 'f'])
  | _ => none

/-- Names of groups of general categories, without case, blanks, `_` and `-`. -/
private def categoryNames : List (List String × List Category) :=
  [(["lu", "uppercaseletter"], [.uppercaseLetter]),
    (["ll", "lowercaseletter"], [.lowercaseLetter]),
    (["lt", "titlecaseletter"], [.titlecaseLetter]),
    (["lc", "casedletter"], [.uppercaseLetter, .lowercaseLetter, .titlecaseLetter]),
    (["lm", "modifierletter"], [.modifierLetter]),
    (["lo", "otherletter"], [.otherLetter]),
    (["l", "letter"],
      [.uppercaseLetter, .lowercaseLetter, .titlecaseLetter, .modifierLetter, .otherLetter]),
    (["mn", "nonspacingmark"], [.nonspacingMark]),
    (["mc", "spacingmark"], [.spacingMark]),
    (["me", "enclosingmark"], [.enclosingMark]),
    (["m", "mark", "combiningmark"], [.nonspacingMark, .spacingMark, .enclosingMark]),
    (["nd", "decimalnumber", "digit"], [.decimalNumber]),
    (["nl", "letternumber"], [.letterNumber]),
    (["no", "othernumber"], [.otherNumber]),
    (["n", "number"], [.decimalNumber, .letterNumber, .otherNumber]),
    (["pc", "connectorpunctuation"], [.connectorPunctuation]),
    (["pd", "dashpunctuation"], [.dashPunctuation]),
    (["ps", "openpunctuation"], [.openPunctuation]),
    (["pe", "closepunctuation"], [.closePunctuation]),
    (["pi", "initialpunctuation"], [.initialPunctuation]),
    (["pf", "finalpunctuation"], [.finalPunctuation]),
    (["po", "otherpunctuation"], [.otherPunctuation]),
    (["p", "punctuation", "punct"],
      [.connectorPunctuation, .dashPunctuation, .openPunctuation, .closePunctuation,
        .initialPunctuation, .finalPunctuation, .otherPunctuation]),
    (["sm", "mathsymbol"], [.mathSymbol]),
    (["sc", "currencysymbol"], [.currencySymbol]),
    (["sk", "modifiersymbol"], [.modifierSymbol]),
    (["so", "othersymbol"], [.otherSymbol]),
    (["s", "symbol"], [.mathSymbol, .currencySymbol, .modifierSymbol, .otherSymbol]),
    (["zs", "spaceseparator"], [.spaceSeparator]),
    (["zl", "lineseparator"], [.lineSeparator]),
    (["zp", "paragraphseparator"], [.paragraphSeparator]),
    (["z", "separator"], [.spaceSeparator, .lineSeparator, .paragraphSeparator]),
    (["cc", "control", "cntrl"], [.control]),
    (["cf", "format"], [.format]),
    (["cs", "surrogate"], [.surrogate]),
    (["co", "privateuse"], [.privateUse]),
    (["cn", "unassigned"], [.unassigned]),
    (["c", "other"], [.control, .format, .surrogate, .privateUse, .unassigned])]

/-- The set that a property name stands for. -/
def property? (name : String) : Option CharacterSet :=
  let plain := String.ofList ((name.toList.filter fun c =>
    c != ' ' && c != '_' && c != '-').map Char.toLower)
  let value := match plain.splitOn "=" with
    | [property, value] =>
      if property == "gc" || property == "generalcategory" then value else ""
    | _ => plain
  if value == "any" then some .any
  else if value == "assigned" then some (.complement (.categories [.unassigned]))
  else if value == "ascii" then some .ascii
  else if value == "whitespace" then some .blanks
  else
    (categoryNames.find? fun entry => entry.1.contains value).map fun entry =>
      .categories entry.2

/-- A property after its letter: one letter, or a name in braces. -/
def readProperty? (negated : Bool) : List Char → Option (CharacterSet × List Char)
  | [] => none
  | c :: rest =>
    let (negated, name, after) :=
      if c = '\x7b' then
        let inside := rest.takeWhile (· != '\x7d')
        match inside with
        | '^' :: name => (!negated, name, rest.dropWhile (· != '\x7d'))
        | name => (negated, name, rest.dropWhile (· != '\x7d'))
      else (negated, [c], '\x7d' :: rest)
    match property? (String.ofList (name.map fun c => if c = ':' then '=' else c)), after with
    | some s, _ :: rest => some (if negated then .complement s else s, rest)
    | _, _ => none

/-- Digits of a hexadecimal escape, each with what is skipped after it. -/
private def readHexDigits? (flags : Flags) : Nat → Nat → List Char → Option (Nat × List Char)
  | 0, n, cs => some (n, cs)
  | count + 1, n, c :: cs =>
    match digitValue? c with
    | some d => if d < 16 then readHexDigits? flags count (16 * n + d) (flags.skip cs) else none
    | none => none
  | _ + 1, _, [] => none

/-- Digits of a hexadecimal escape up to the closing brace. -/
private def readHexBraces? (flags : Flags) (cs : List Char) : Option (Nat × List Char) :=
  let digits := cs.takeWhile (· != '\x7d')
  let kept := if flags.verbose then digits.filter (!isBlank ·) else digits
  match cs.drop digits.length, natOfDigits? 16 kept with
  | _ :: rest, some n => some (n, flags.skip rest)
  | _, _ => none

private def charOfCode? (n : Nat) : Option Char :=
  if n.isValidChar then some (.ofNat n) else none

/-- The escape that begins with `x`, `u` or `U`, which stand for this many digits. -/
private def readHex? (flags : Flags) (count : Nat) (cs : List Char) :
    Option (Primitive × List Char) :=
  let found := match flags.skip cs with
    | '\x7b' :: rest => readHexBraces? flags rest
    | rest => readHexDigits? flags count 0 rest
  match found with
  | some (n, rest) =>
    if !flags.unicode && count = 2 && 0x7F < n then none
    else (charOfCode? n).map fun c => (.literal c, rest)
  | none => none

private def boundaryNames (unicode : Bool) : List (String × Anchor) :=
  [("start", .wordStart unicode), ("end", .wordEnd unicode),
    ("start-half", .wordStartHalf unicode), ("end-half", .wordEndHalf unicode)]

/-- A word boundary after its letter; a name in braces may choose its side. -/
private def readBoundary? (flags : Flags) (cs : List Char) : Option (Primitive × List Char) :=
  let plain : Option (Primitive × List Char) :=
    some (.anchor (.wordBoundary flags.unicode), cs)
  let isNameChar (c : Char) : Bool := c.isAlpha || c == '-'
  match cs with
  | '\x7b' :: rest =>
    let rest := flags.skip rest
    match rest with
    | [] => none
    | c :: _ =>
      if isNameChar c then
        let name := rest.takeWhile isNameChar
        match (boundaryNames flags.unicode).lookup (String.ofList name), rest.drop name.length with
        | some a, '\x7d' :: after => some (.anchor a, after)
        | _, _ => none
      else plain
  | _ => plain

/-- The escape after a backslash. Other than letters and digits, every ASCII character but `<` and
`>` may be escaped to stand for itself. -/
def readEscape? (flags : Flags) : List Char → Option (Primitive × List Char)
  | [] => none
  | c :: rest =>
    match c with
    | 'x' => readHex? flags 2 rest
    | 'u' => readHex? flags 4 rest
    | 'U' => readHex? flags 8 rest
    | 'p' | 'P' =>
      if flags.unicode then
        (readProperty? (c == 'P') rest).map fun (s, rest) => (.set (flags.leaf s), rest)
      else none
    | 'a' => some (.literal '\x07', rest)
    | 'f' => some (.literal '\x0c', rest)
    | 't' => some (.literal '\t', rest)
    | 'n' => some (.literal '\n', rest)
    | 'r' => some (.literal '\r', rest)
    | 'v' => some (.literal '\x0b', rest)
    | 'A' => some (.anchor .textStart, rest)
    | 'z' => some (.anchor .textEnd, rest)
    | 'b' => readBoundary? flags rest
    | 'B' => some (.anchor (.wordInside flags.unicode), rest)
    | '<' => some (.anchor (.wordStart flags.unicode), rest)
    | '>' => some (.anchor (.wordEnd flags.unicode), rest)
    | _ =>
      match classLetter? flags c with
      | some s => some (.set s, rest)
      | none => if c.toNat < 0x80 && !c.isAlphanum then some (.literal c, rest) else none

end NodeSettings.Pattern
