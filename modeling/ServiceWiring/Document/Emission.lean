import ServiceWiring.Dialect.Render
import ServiceWiring.Document.DisplayNames
import ServiceWiring.Sorted

/-! From registrations to the document that binds them. -/
namespace ServiceWiring

/-- The namespaces that a document uses, in target spelling, sorted and each once. -/
def importsOf (dialect : Dialect) (s : Scaffold) (rs : List Registration) : List String :=
  let container := s.container.getD dialect.container
  let spaces := ((rs.flatMap Registration.types).filter fun t => !t.isGlobal).map TypeName.space
  Sorted.ofList (spaces.map dialect.namespacePath ++
    (if container == "" then [] else [dialect.containerPath container]))

/-- Puts a binding behind those of the same label. The first binding without label opens the first
block, and a new label the last. -/
def addToBlocks (label : Option String) (b : Binding) (blocks : List Block) : List Block :=
  if blocks.any fun block => block.label == label then
    blocks.map fun block =>
      if block.label = label then { block with bindings := block.bindings ++ [b] } else block
  else
    match label with
    | none => ⟨none, [b]⟩ :: blocks
    | some label => blocks ++ [⟨some label, [b]⟩]

def addToGroups (name : String) (label : Option String) (b : Binding) (groups : List Group) :
    List Group :=
  if groups.any fun group => group.name == name then
    groups.map fun group =>
      if group.name = name then { group with blocks := addToBlocks label b group.blocks } else group
  else groups ++ [⟨name, addToBlocks label b []⟩]

def bindingOf (names : DisplayNames) (r : Registration) : Binding :=
  ⟨r.lifetime, names.get r.service, names.get r.implementation⟩

def groupsOf (names : DisplayNames) (rs : List Registration) : List Group :=
  rs.foldl (fun groups r => addToGroups r.group r.label (bindingOf names r) groups) []

/-- Everything of a document but its text. -/
def outlineOf (dialect : Dialect) (s : Scaffold) (rs : List Registration) : Document :=
  { hintName := dialect.hintName
    space := s.space
    imports := importsOf dialect s rs
    groups := groupsOf (.ofTypes dialect (rs.flatMap Registration.types)) rs
    text := "" }

/-- The document that binds the registrations, if there are any. -/
def emit (dialect : Dialect) (s : Scaffold) (rs : List Registration) : Option Document :=
  match rs with
  | [] => none
  | r :: rest =>
    let outline := outlineOf dialect s (r :: rest)
    some { outline with text := dialect.render outline s }

end ServiceWiring
