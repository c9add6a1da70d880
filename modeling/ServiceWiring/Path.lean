import ServiceWiring.Text.Pieces

/-! Paths: names between slashes. -/
namespace ServiceWiring.Path
open ServiceWiring.Text

def isAbsolute (path : String) : Bool := path.toList.head? == some '/'

/-- What stands between the slashes, empty pieces left out. -/
def names (path : String) : List String :=
  ((pieces '/' path.toList).filter fun piece => !piece.isEmpty).map String.ofList

def endsInSlash (path : String) : Bool := path.toList.getLast? == some '/'

def hasNul (path : String) : Bool := path.toList.contains '\x00'

/-- How many bytes a name may have. -/
def nameLimit : Nat := 255

/-- How many bytes a path may have. -/
def pathLimit : Nat := 4095

/-- The steps that a path takes. A slash at its end asks for a directory, like a dot. -/
def steps (path : String) : List String :=
  names path ++ (if endsInSlash path && !(names path).isEmpty then ["."] else [])

/-- The parts that tell paths apart. A dot only counts at the beginning of a relative path. -/
def parts (path : String) : List String :=
  match names path with
  | [] => []
  | first :: rest =>
    (if first == "." && isAbsolute path then [] else [first]) ++ rest.filter (· != ".")

/-- The last part of a path, if it is a name. -/
def fileName? (path : String) : Option String :=
  (parts path).getLast?.filter fun name => name != "." && name != ".."

/-- A file name cut at its last dot, unless that is its first character or there is none. -/
def cutAtDot (name : String) : String × Option String :=
  let ending := (name.toList.reverse.takeWhile (· ≠ '.')).reverse
  let stem := name.toList.take (name.length - ending.length - 1)
  if ending.length == name.length || stem.isEmpty then (name, none)
  else (String.ofList stem, some (String.ofList ending))

def stem? (path : String) : Option String := (fileName? path).map fun name => (cutAtDot name).1

def extension? (path : String) : Option String := (fileName? path).bind fun name => (cutAtDot name).2

/-- The path without its last part. -/
def parent? (path : String) : Option String :=
  match parts path with
  | [] => none
  | part :: rest =>
    some ((if isAbsolute path then "/" else "") ++ joined "/" (part :: rest).dropLast)

/-- The path of something inside a directory. -/
def join (directory inside : String) : String :=
  if isAbsolute inside then inside
  else if directory == "" || endsInSlash directory then directory ++ inside
  else directory ++ "/" ++ inside

end ServiceWiring.Path
