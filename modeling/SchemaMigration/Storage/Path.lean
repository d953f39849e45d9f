/-!
# `SchemaMigration.Storage.Path`: paths of files

Paths are texts with slashes. The parts between slashes are names. An empty part
names nothing, and so does a `.` that is not the first part of the path.
-/

set_option autoImplicit false

namespace SchemaMigration.Path

/-- The parts of a text between slashes, with `part` read so far, last character first. -/
def splitSlashes (part : List Char) : List Char → List String
  | [] => [String.ofList part.reverse]
  | '/' :: rest => String.ofList part.reverse :: splitSlashes [] rest
  | c :: rest => splitSlashes (c :: part) rest

/-- The names on a path, with `.` and `..` as they stand. -/
def parts (path : String) : List String :=
  (splitSlashes [] path.toList).filter (· != "")

/-- Whether a path starts at the root. -/
def isAbsolute (path : String) : Bool :=
  path.toList.head? == some '/'

/-- Whether a path ends with a slash. -/
def hasTrailingSlash (path : String) : Bool :=
  path.toList.getLast? == some '/'

/-- A name inside a directory. -/
def join (directory name : String) : String :=
  if isAbsolute name then name
  else if directory = "" || hasTrailingSlash directory then directory ++ name
  else directory ++ "/" ++ name

/-- The parts that name something, each with the text of the path that ends with it. `front`
is the text before the parts, with the slash that ends it. -/
def stepsFrom (front : String) : List String → List (String × String)
  | [] => []
  | part :: rest =>
    let here := front ++ part
    if part = "" || (part = "." && front != "") then stepsFrom (here ++ "/") rest
    else (part, here) :: stepsFrom (here ++ "/") rest

/-- The parts of a path that name something, each with the text of the path that ends with
it. -/
def steps (path : String) : List (String × String) :=
  stepsFrom "" (splitSlashes [] path.toList)

/-- The directories that a path leads through, the innermost first. -/
def above (path : String) : List String :=
  ((steps path).dropLast.map Prod.snd).reverse

/-- The directory that holds the file of a path. -/
def parent (path : String) : String :=
  match above path with
  | directory :: _ => directory
  | [] => if isAbsolute path && !(steps path).isEmpty then "/" else "."

/-- The last name of a path, or the whole path where that is no name. -/
def finalName (path : String) : String :=
  match (steps path).getLast? with
  | some (name, _) => if name = "." || name = ".." then path else name
  | none => path

end SchemaMigration.Path
