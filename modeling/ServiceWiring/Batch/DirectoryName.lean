import ServiceWiring.Path
import ServiceWiring.Text.Blank

/-! Names of directories for the documents of several units. -/
namespace ServiceWiring.Batch
open ServiceWiring.Text

/-- The name of the unit, or of its manifest where the unit has none, made into one name of a
directory. -/
def directoryName (unit manifest : String) : String :=
  let name := if isBlankText unit then (Path.stem? manifest).getD "" else trim unit
  let name := replaceChar '\\' "_" (replaceChar '/' "_" name)
  if name = "" ∨ name = "." ∨ name = ".." then "unit" else name

def numbered (base : String) (k : Nat) : String := base ++ "-" ++ toString k

/-- The names to try in turn. There is one more of them than there are names taken. -/
def candidates (base : String) (taken : List String) : List String :=
  base :: (List.range taken.length).map fun i => numbered base (i + 2)

/-- The first candidate that is not taken. There always is one, because there are more candidates
than names taken, so the name behind `getD` is never given. -/
def freeName (base : String) (taken : List String) : String :=
  ((candidates base taken).find? fun name => !taken.contains name).getD base

end ServiceWiring.Batch
