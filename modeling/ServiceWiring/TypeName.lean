import ServiceWiring.Text.Blank
import ServiceWiring.Text.Pieces
import ServiceWiring.Value

/-! Names of types: a simple name in a namespace. -/
namespace ServiceWiring
open ServiceWiring.Text

/-- The dotted namespace of a type, empty for the global one, and its simple name with all its
generic arguments. -/
structure TypeName where
  space : String
  simple : String
  deriving DecidableEq, Repr, Inhabited

namespace TypeName

def isGlobal (t : TypeName) : Bool := t.space == ""

def qualified (t : TypeName) : String :=
  if t.isGlobal then t.simple else t.space ++ "." ++ t.simple

/-- The namespace ends at the last dot before the first angle bracket. Dots further on belong to the
generic arguments. -/
def parse? (s : String) : Option TypeName :=
  let cs := trimChars s.toList
  let head := cs.take (cs.findIdx (· == '<'))
  let (space, simple, isBadSpace) := match lastIndex? '.' head with
    | some dot => (cs.take dot, cs.drop (dot + 1), (pieces '.' (cs.take dot)).any List.isEmpty)
    | none => ([], cs, false)
  if simple.isEmpty || simple.head? == some '<' || isBadSpace then none
  else some { space := String.ofList space, simple := String.ofList simple }

instance : Ord TypeName where
  compare a b := (compare a.space b.space).then (compare a.simple b.simple)

def toValue (t : TypeName) : Value := .text t.qualified

def ofValue? (v : Value) : Option TypeName := v.string?.bind parse?

end TypeName

end ServiceWiring
