import NodeSettings.Json.Syntax
import NodeSettings.Table

/-!
JSON values and their texts. An object's members stand in the order of their keys, of which each
occurs once.
-/

namespace NodeSettings

inductive Json where
  | null
  | bool (b : Bool)
  | number (n : Json.Number)
  | string (s : String)
  | array (items : List Json)
  | object (members : List (String × Json))

namespace Json

/-- Members as an object keeps them; the last under a key counts. -/
def sortMembers (members : List (String × Json)) : List (String × Json) :=
  members.foldl (fun sorted m => Table.insertEntry m.1 m.2 sorted) []

mutual

/-- The value of a syntax tree. It may nest `depth` containers. -/
def ofSyntax? (depth : Nat) : Syntax → Option Json
  | .null => some .null
  | .bool b => some (.bool b)
  | .number l => l.number?.map .number
  | .string codes => (textOfCodes? codes).map .string
  | .array items =>
    match depth with
    | 0 => none
    | depth + 1 => (itemsOfSyntax? depth items).map .array
  | .object members =>
    match depth with
    | 0 => none
    | depth + 1 => (membersOfSyntax? depth members).map fun ms => .object (sortMembers ms)

def itemsOfSyntax? (depth : Nat) : List Syntax → Option (List Json)
  | [] => some []
  | v :: rest =>
    match ofSyntax? depth v, itemsOfSyntax? depth rest with
    | some j, some js => some (j :: js)
    | _, _ => none

def membersOfSyntax? (depth : Nat) : List (List Nat × Syntax) → Option (List (String × Json))
  | [] => some []
  | (key, v) :: rest =>
    match textOfCodes? key, ofSyntax? depth v, membersOfSyntax? depth rest with
    | some key, some j, some js => some ((key, j) :: js)
    | _, _, _ => none

end

/-- How deep containers may be nested. -/
def depthLimit : Nat := 127

/-- The value of a text. -/
def parse? (s : String) : Option Json := (Syntax.parse? s).bind (ofSyntax? depthLimit)

/-- How one character is written in a string. -/
def escapeChar (c : Char) : List Char :=
  if c = '"' then ['\\', '"']
  else if c = '\\' then ['\\', '\\']
  else if c = '\x08' then ['\\', 'b']
  else if c = '\x0c' then ['\\', 'f']
  else if c = '\n' then ['\\', 'n']
  else if c = '\r' then ['\\', 'r']
  else if c = '\t' then ['\\', 't']
  else if c.toNat < 0x20 then '\\' :: 'u' :: Text.hexDigits c.toNat 4
  else [c]

/-- A text as a string in quotes. -/
def quote (s : String) : String :=
  String.ofList (['"'] ++ s.toList.flatMap escapeChar ++ ['"'])

mutual

/-- The text of a value on one line without blanks. -/
def compact : Json → String
  | null => "null"
  | bool b => if b then "true" else "false"
  | number n => n.text
  | string s => quote s
  | array items => "[" ++ ",".intercalate (compactItems items) ++ "]"
  | object members => "\x7b" ++ ",".intercalate (compactMembers members) ++ "\x7d"

def compactItems : List Json → List String
  | [] => []
  | j :: rest => compact j :: compactItems rest

def compactMembers : List (String × Json) → List String
  | [] => []
  | (key, j) :: rest => (quote key ++ ":" ++ compact j) :: compactMembers rest

end

end Json
end NodeSettings
