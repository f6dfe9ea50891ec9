set_option autoImplicit false

namespace ClassTable.Path

def isAbsolute (path : String) : Bool := path.startsWith "/"

def absolute (names : List String) : String := "/" ++ String.intercalate "/" names

/-- A path below a directory; an absolute one stays as it is, and nothing is normalised. -/
def join (dir path : String) : String :=
  if isAbsolute path || dir.isEmpty then path
  else if dir.endsWith "/" then dir ++ path
  else dir ++ "/" ++ path

/-- Splits at slashes; one piece more than there are slashes. -/
def pieces : List Char → List (List Char)
  | [] => [[]]
  | c :: cs =>
    match pieces cs with
    | [] => [[c]]
    | piece :: rest => if c = '/' then [] :: piece :: rest else (c :: piece) :: rest

def components (path : String) : List String :=
  ((pieces path.toList).filter (!·.isEmpty)).map String.ofList

def endsInSlash (path : String) : Bool := path.endsWith "/"

/-- The last component, unless it is `.` or `..`; a `.` after another component does not count. -/
def fileName? (path : String) : Option String :=
  match (components path).reverse.dropWhile (· == ".") with
  | [] => none
  | last :: _ => if last = ".." then none else some last

/-- What follows the last dot of a file name; a dot in front is no such dot. -/
def extension? (path : String) : Option String := do
  let name ← fileName? path
  let reversed := name.toList.reverse
  match reversed.dropWhile (· != '.') with
  | [] => none
  | [_] => none
  | _ :: _ => some (String.ofList (reversed.takeWhile (· != '.')).reverse)

end ClassTable.Path
