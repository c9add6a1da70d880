import ServiceWiring.Error
import ServiceWiring.Path

/-! Trees of files and directories without links. A root is always there, and in it a home from which
relative paths start. -/
namespace ServiceWiring

/-- The names on the way from the root. -/
abbrev Location := List String

inductive Entry where
  | file (content : ByteArray)
  | directory

structure FileTree where
  entries : List (Location × Entry)

namespace FileTree

def empty : FileTree := ⟨[]⟩

/-- Where relative paths start. No path spells its name, so none that has led out of it leads back. -/
def home : Location := ["\x00"]

/-- Where a path starts. -/
def start (path : String) : Location := if Path.isAbsolute path then [] else home

def get? (t : FileTree) (loc : Location) : Option Entry :=
  if loc = [] ∨ loc = home then some .directory else t.entries.lookup loc

def put (t : FileTree) (loc : Location) (e : Entry) : FileTree :=
  ⟨(loc, e) :: t.entries.filter fun entry => entry.1 != loc⟩

def isTooLong (name : String) : Bool := Path.nameLimit < name.utf8ByteSize

/-- Why no tree can have anything at a path, whatever is in it. -/
def pathFault? (path : String) : Option FileFault :=
  if Path.hasNul path then some .nulInName
  else if Path.pathLimit < path.utf8ByteSize then some .nameTooLong
  else none

/-- The files at home and below, with their paths. -/
def files (t : FileTree) : List (String × ByteArray) :=
  t.entries.filterMap fun entry =>
    match entry.2 with
    | .file content =>
      if home.isPrefixOf entry.1 then some (Text.joined "/" (entry.1.drop home.length), content) else none
    | .directory => none

/-- Where the steps lead from a location. Every step starts from a directory. -/
def follow (t : FileTree) (loc : Location) : List String → Except FileFault Location
  | [] => .ok loc
  | step :: steps =>
    match t.get? loc with
    | none => .error .notFound
    | some (.file _) => .error .notDirectory
    | some .directory =>
      if step = "." then t.follow loc steps
      else if step = ".." then t.follow loc.dropLast steps
      else if isTooLong step then .error .nameTooLong
      else t.follow (loc ++ [step]) steps

/-- The location of the directory that the steps lead to. -/
def enter (t : FileTree) (origin : Location) (steps : List String) : Except FileFault Location :=
  t.follow origin (steps ++ ["."])

/-- What a path leads to. -/
def entry (t : FileTree) (path : String) : Except FileFault Entry :=
  match pathFault? path with
  | some fault => .error fault
  | none =>
    if path = "" then .error .notFound
    else match t.follow (start path) (Path.steps path) with
      | .ok loc =>
        match t.get? loc with
        | some e => .ok e
        | none => .error .notFound
      | .error fault => .error fault

def contains (t : FileTree) (path : String) : Bool := (t.entry path).toOption.isSome

def readText (t : FileTree) (path : String) : Except FileFault String :=
  match t.entry path with
  | .ok (.file content) =>
    match String.fromUTF8? content with
    | some s => .ok s
    | none => .error .notUnicode
  | .ok .directory => .error .isDirectory
  | .error fault => .error fault

/-- What an attempt to change a tree leaves behind, and whether it succeeded. -/
structure Attempt where
  tree : FileTree
  result : Except FileFault Unit

/-- Makes one directory, in a directory that is there. -/
def makeDirectory (t : FileTree) (origin : Location) (before : List String) (name : String) : Attempt :=
  match t.enter origin before with
  | .error fault => ⟨t, .error fault⟩
  | .ok loc =>
    if name = "." ∨ name = ".." ∨ (t.get? (loc ++ [name])).isSome then ⟨t, .error .alreadyExists⟩
    else if isTooLong name then ⟨t, .error .nameTooLong⟩
    else ⟨t.put (loc ++ [name]) .directory, .ok ()⟩

/-- It does not matter that a directory could not be made where there is one already. -/
def Attempt.unlessThere (a : Attempt) (origin : Location) (steps : List String) : Attempt :=
  if (a.tree.enter origin steps).toOption.isSome then { a with result := .ok () } else a

/-- Makes one directory, after what is above it if that is missing. -/
def makeBelow (t : FileTree) (makeAbove : FileTree → Attempt) (origin : Location)
    (before : List String) (name : String) : Attempt :=
  let steps := before ++ [name]
  let first := t.makeDirectory origin before name
  match first.result with
  | .ok () => first
  | .error .notFound =>
    let above := makeAbove t
    match above.result with
    | .ok () => (above.tree.makeDirectory origin before name).unlessThere origin steps
    | .error _ => above
  | .error _ => first.unlessThere origin steps

/-- Makes all directories on the way that are missing. The steps are given from the last on. -/
def makeDirectories (origin : Location) : List String → FileTree → Attempt
  | [], t => ⟨t, .ok ()⟩
  | name :: above, t => t.makeBelow (makeDirectories origin above) origin above.reverse name

/-- Makes all directories on a path that are missing. A dot at its end is not the name of one, and
what is above the path is told without dots. -/
def createDirectories (t : FileTree) (path : String) : Attempt :=
  match pathFault? path with
  | some fault => ⟨t, .error fault⟩
  | none =>
    match (Path.names path).reverse with
    | [] => ⟨t, .ok ()⟩
    | name :: before =>
      let above := (((Path.names path).filter (· != ".")).reverse).tail
      t.makeBelow (makeDirectories (start path) above) (start path) before.reverse name

/-- Changes the content of a file, which is made if its directory is there. -/
def changeFile (t : FileTree) (path : String) (f : ByteArray → ByteArray) : Attempt :=
  match pathFault? path, (Path.names path).reverse with
  | some fault, _ => ⟨t, .error fault⟩
  | none, [] => ⟨t, .error (if Path.isAbsolute path then .isDirectory else .notFound)⟩
  | none, name :: before =>
    match t.enter (start path) before.reverse with
    | .error fault => ⟨t, .error fault⟩
    | .ok loc =>
      if name = "." ∨ name = ".." ∨ Path.endsInSlash path then ⟨t, .error .isDirectory⟩
      else if isTooLong name then ⟨t, .error .nameTooLong⟩
      else match t.get? (loc ++ [name]) with
        | some .directory => ⟨t, .error .isDirectory⟩
        | some (.file content) => ⟨t.put (loc ++ [name]) (.file (f content)), .ok ()⟩
        | none => ⟨t.put (loc ++ [name]) (.file (f .empty)), .ok ()⟩

def writeText (t : FileTree) (path : String) (text : String) : Attempt :=
  t.changeFile path fun _ => text.toUTF8

/-- Opens a file for text to be put behind what it holds. -/
def openToAppend (t : FileTree) (path : String) : Attempt := t.changeFile path id

end FileTree

end ServiceWiring
