/-! Indented lines of generated text. -/
namespace ServiceWiring.Text

/-- A line of text at a nesting depth. -/
structure Line where
  depth : Nat
  text : String
  deriving DecidableEq, Repr

namespace Line

/-- A line without text is not indented. -/
def blank : Line := ⟨0, ""⟩

/-- The line with one unit of indentation for each level, and its line feed. -/
def render (unit : String) (line : Line) : String :=
  String.join (List.replicate line.depth unit) ++ line.text ++ "\n"

def renderAll (unit : String) (lines : List Line) : String :=
  String.join (lines.map (render unit))

end Line

end ServiceWiring.Text
