import ServiceWiring.Dialect
import ServiceWiring.Dialect.ExtensionTrait
import ServiceWiring.Dialect.PartialClass

/-! The text of a document in a dialect. -/
namespace ServiceWiring.Dialect
open ServiceWiring.Text

/-- Four spaces for each level of nesting. -/
def indentation : String := "    "

def lines (dialect : Dialect) (d : Document) (s : Scaffold) : List Line :=
  match dialect with
  | .partialClass => PartialClass.lines d s
  | .extensionTrait => ExtensionTrait.lines d s

def render (dialect : Dialect) (d : Document) (s : Scaffold) : String :=
  Line.renderAll indentation (dialect.lines d s)

end ServiceWiring.Dialect
