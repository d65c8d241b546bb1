/-!
# File paths

A file path is a text: names with slashes between them. It is absolute if it starts with a slash.
Empty names and single points say nothing, apart from a point at the start.
-/

namespace TypeSchema.FilePath

/-- Does the path start at the root? -/
def isAbsolute (path : String) : Bool := path.toList.head? == some '/'

/-- A path as it is seen from a directory: an absolute path is itself. -/
def join (base path : String) : String :=
  if isAbsolute path || base.isEmpty then path
  else if base.toList.getLast? == some '/' then base ++ path
  else base ++ "/" ++ path

/-- The names between the slashes of a path, those that say nothing included. -/
def names (path : String) : List String := (path.toList.splitOn '/').map String.ofList

/-- Does the name of a step say nothing? -/
def isFiller (name : String) : Bool := name.isEmpty || name == "."

/-- The names without those at the end that say nothing. -/
def trimEnd (names : List String) : List String := (names.reverse.dropWhile isFiller).reverse

/-- The names of a path that say something, after those at its start: an empty name stands for the
root, and a point for the directory where the path is used. -/
def splitStart (path : String) : List String × List String :=
  match names path with
  | first :: rest => if isFiller first && !path.isEmpty then ([first], rest) else ([], first :: rest)
  | [] => ([], [])

/-- The directory of a path: the path without its last name, if it has one. -/
def parent? (path : String) : Option String :=
  let (start, body) := splitStart path
  let body := trimEnd body
  if body.isEmpty then
    if start = ["."] then some "" else none
  else
    let body := trimEnd body.dropLast
    if start = [""] && body.isEmpty then some "/" else some (String.intercalate "/" (start ++ body))

end TypeSchema.FilePath
