import NodeSettings.Text.Fields

/-!
Paths of files, as texts with `/` between their parts. Empty parts and parts `.` do not count, save
a `.` at the very front.
-/

namespace NodeSettings.Path

/-- A path below another; an absolute one stands for itself. -/
def join (base path : String) : String :=
  if path.startsWith "/" || base.isEmpty then path
  else if base.endsWith "/" then base ++ path
  else base ++ "/" ++ path

/-- What stands between the slashes. -/
def parts (path : String) : List String :=
  (Text.fields '/' path.toList).map String.ofList

/-- Whether a part leads nowhere. -/
def isIdle (part : String) : Bool := part == "" || part == "."

/-- Drops the parts at the end that do not count; the front part may be the root or a `.`. -/
def dropIdle : List String → List String
  | [] => []
  | front :: rest =>
    let kept := (rest.reverse.dropWhile isIdle).reverse
    front :: kept

/-- The parts that count, with the front one, which is empty for an absolute path. -/
def trimmedParts (path : String) : List String :=
  if path.isEmpty then [] else dropIdle (parts path)

/-- The path with given parts; the root has an empty one. -/
def ofParts : List String → String
  | [""] => "/"
  | ps => "/".intercalate ps

/-- The path without its last part that counts; the root and the empty path have none. -/
def parent? (path : String) : Option String :=
  match trimmedParts path with
  | [] => none
  | [""] => none
  | ps => some (ofParts (dropIdle ps.dropLast))

/-- The last part, unless it leads upwards. -/
def fileName? (path : String) : Option String :=
  match (trimmedParts path).getLast? with
  | none => none
  | some part => if isIdle part || part == ".." then none else some part

/-- What follows the last point of the file's name; a point at its front does not count. -/
def extension? (path : String) : Option String :=
  (fileName? path).bind fun name =>
    match (Text.fields '.' name.toList).reverse with
    | [] => none
    | [_] => none
    | [_, []] => none
    | last :: _ => some (String.ofList last)

/-- The parts of a path from the working directory on. -/
def components (path : String) : List String := (parts path).filter fun part => !isIdle part

example : parent? "a//c/./b/" = some "a//c" := by decide +kernel
example : parent? "/a" = some "/" := by decide +kernel
example : parent? "a" = some "" := by decide +kernel
example : extension? ".json" = none ∧ extension? "x/.a.json/" = some "json" := by decide +kernel

end NodeSettings.Path
