import NodeSettings.Endpoint.Address
import NodeSettings.Endpoint.Domain

/-!
The host of an address that names a service, such as `http://localhost:8545`.
-/

namespace NodeSettings.Endpoint

open Text

attribute [local instance (high)] instPowNat

/-- How an address with a scheme is read on. -/
inductive SchemeKind where
  /-- A host is required, and `\` counts as `/`. -/
  | web
  | file
  | other
deriving DecidableEq

def SchemeKind.ofName (name : String) : SchemeKind :=
  if ["http", "https", "ws", "wss", "ftp"].contains name then .web
  else if name = "file" then .file
  else .other

/-- Removes control characters and spaces at both ends, and tabs and line breaks everywhere. -/
def clean (cs : List Char) : List Char :=
  let isEdge (c : Char) : Bool := c.toNat ≤ 0x20
  let trimmed := ((cs.dropWhile isEdge).reverse.dropWhile isEdge).reverse
  trimmed.filter fun c => c != '\t' && c != '\n' && c != '\r'

/-- The scheme in front of a colon, in small letters, and what follows. -/
def splitScheme? (cs : List Char) : Option (String × List Char) :=
  match cs with
  | c :: _ =>
    if c.isAlpha then
      let scheme := cs.takeWhile fun c => c.isAlphanum || c == '+' || c == '-' || c == '.'
      match cs.drop scheme.length with
      | ':' :: rest => some (String.ofList (scheme.map Char.toLower), rest)
      | _ => none
    else none
  | [] => none

/-- Whether a character ends the part that names the host. -/
def SchemeKind.endsAuthority (kind : SchemeKind) (c : Char) : Bool :=
  c == '/' || c == '?' || c == '#' || (kind != .other && c == '\\')

/-- Bytes with `%` and two digits read as the byte that they name. -/
def percentDecode : List UInt8 → List UInt8
  | [] => []
  | b :: rest =>
    let digit? (x : UInt8) : Option Nat :=
      (digitValue? (Char.ofNat x.toNat)).bind fun d => if d < 16 then some d else none
    match b == 37, rest with
    | true, x :: y :: more =>
      match digit? x, digit? y with
      | some h, some l => .ofNat (16 * h + l) :: percentDecode more
      | _, _ => b :: percentDecode (x :: y :: more)
    | _, rest => b :: percentDecode rest
termination_by bytes => bytes.length

/-- Bytes below the space, above `~` or beyond ASCII as `%` and two digits. -/
private def percentEncode (b : UInt8) : List Char :=
  if b < 0x20 || 0x7E < b then '%' :: (hexDigits b.toNat 2).map Char.toUpper
  else [Char.ofNat b.toNat]

private def textOfBytes? (bytes : List UInt8) : Option (List Char) :=
  (String.fromUTF8? (.mk bytes.toArray)).map String.toList

private def bytesOf (cs : List Char) : List UInt8 := (String.ofList cs).toUTF8.toList

/-- What stands between square brackets, if that is the whole text. -/
private def bracketed? (cs : List Char) : Option (List Char) :=
  if cs.getLast? == some ']' then some (cs.drop 1).dropLast else none

/-- A host that is a name or an address. -/
def readHost? (cs : List Char) : Option String :=
  if cs.head? == some '[' then
    ((bracketed? cs).bind readAddress6?).map fun pieces => "[" ++ address6Text pieces ++ "]"
  else
    match (textOfBytes? (percentDecode (bytesOf cs))).bind domainToAscii? with
    | none => none
    | some name =>
      if name.isEmpty then none
      else if endsInNumber name then (readAddress4? name).map address4Text
      else some (String.ofList name)

/-- A host that means something to its scheme alone: kept as it is but for percent-encoding. -/
def readPlainHost? (cs : List Char) : Option String :=
  if cs.head? == some '[' then
    ((bracketed? cs).bind readAddress6?).map fun pieces => "[" ++ address6Text pieces ++ "]"
  else if cs.any fun c => c == '\x00' || " #/:<>?@[\\]^|".toList.contains c then none
  else some (String.ofList ((bytesOf cs).flatMap percentEncode))

/-- Whether a port is one: at most five significant digits, and a number that 16 bits can hold. -/
def isPort (digits : List Char) : Bool :=
  digits.all Char.isDigit && ((natOfDigits? 10 digits).getD 0) < 2 ^ (16 : Nat)

/-- What stands before the host: nothing, or all up to the last `@`. The flag says whether that
is more than the mark itself. -/
def splitUser? (kind : SchemeKind) (cs : List Char) : Option (Bool × List Char) :=
  let part := cs.takeWhile fun c => !kind.endsAuthority c
  let after := cs.drop part.length
  if part.contains '@' then
    let host := (part.reverse.takeWhile (· != '@')).reverse
    let user := part.take (part.length - host.length - 1)
    if user.isEmpty && host.isEmpty && !after.isEmpty then none
    else
      let isNamed := user.any (· != ':') || 2 ≤ user.length
      some (isNamed, host ++ after)
  else some (false, cs)

/-- The host before a colon outside brackets, and what follows it. -/
def spanHost (kind : SchemeKind) : Bool → List Char → List Char × List Char
  | _, [] => ([], [])
  | inBrackets, c :: rest =>
    if (c == ':' && !inBrackets) || kind.endsAuthority c then ([], c :: rest)
    else
      let inBrackets := if c == '[' then true else if c == ']' then false else inBrackets
      let (host, after) := spanHost kind inBrackets rest
      (c :: host, after)

/-- The host after two slashes, if the address is well formed and names one. -/
def authorityHost? (kind : SchemeKind) (cs : List Char) : Option String :=
  match splitUser? kind cs with
  | none => none
  | some (hasUser, rest) =>
    let (host, after) := spanHost kind false rest
    let port := match after with
      | ':' :: more => some (more.takeWhile fun c => !(kind.endsAuthority c || c == '\\'))
      | _ => none
    let read := if kind = .other then readPlainHost? host else readHost? host
    match read with
    | none => none
    | some name =>
      if name.isEmpty && (port.isSome || hasUser || kind = .web) then none
      else if !port.all isPort then none
      else if name.isEmpty then none
      else some name

/-- Whether a part is a drive's letter with a colon or a bar. -/
private def isDrive (part : List Char) : Bool :=
  match part with
  | [c, mark] => c.isAlpha && (mark == ':' || mark == '|')
  | _ => false

/-- The host of a file's address; the local one does not count. -/
def fileHost? (cs : List Char) : Option String :=
  let isSlash (c : Char) : Bool := c == '/' || c == '\\'
  match cs with
  | a :: b :: rest =>
    if isSlash a && isSlash b then
      let host := rest.takeWhile fun c => !SchemeKind.file.endsAuthority c
      let path := (rest.drop host.length).dropWhile isSlash
      let first := path.takeWhile fun c => !SchemeKind.file.endsAuthority c
      if host.isEmpty || isDrive host || isDrive first then none
      else (readHost? host).bind fun name => if name = "localhost" then none else some name
    else none
  | _ => none

/-- The host that an address names; brackets around it are left out. -/
def host? (address : String) : Option String :=
  let found := match splitScheme? (clean address.toList) with
    | none => none
    | some (scheme, rest) =>
      match SchemeKind.ofName scheme with
      | .web =>
        authorityHost? .web (rest.dropWhile fun c => c == '/' || c == '\\')
      | .file => fileHost? rest
      | .other =>
        match rest with
        | '/' :: '/' :: rest => authorityHost? .other rest
        | _ => none
  found.map fun host =>
    String.ofList (((host.toList.dropWhile (· == '[')).reverse.dropWhile (· == ']')).reverse)

end NodeSettings.Endpoint
