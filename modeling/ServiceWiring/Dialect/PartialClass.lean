import ServiceWiring.Document
import ServiceWiring.Document.Scaffold
import ServiceWiring.Text.Line

/-! A document as a static partial class. Groups are regions and labels are conditions of the
preprocessor. -/
namespace ServiceWiring.PartialClass
open ServiceWiring.Text

def binding (b : Binding) : Line :=
  ⟨2, "services.Add" ++ b.lifetime.name ++ "<" ++ b.service ++ ", " ++ b.implementation ++ ">();"⟩

def block (b : Block) : List Line :=
  match b.label with
  | none => b.bindings.map binding
  | some label => ⟨1, "#if " ++ label⟩ :: b.bindings.map binding ++ [⟨1, "#endif"⟩, .blank]

def group (g : Group) : List Line :=
  ⟨1, "#region " ++ g.name⟩ :: g.blocks.flatMap block ++ [⟨1, "#endregion"⟩, .blank]

def opening (d : Document) (s : Scaffold) : List Line :=
  ⟨0, "// <auto-generated />"⟩ :: d.imports.map (fun path => ⟨0, "using " ++ path ++ ";"⟩) ++
    [.blank,
     ⟨0, "namespace " ++ d.space ++ ";"⟩,
     .blank,
     ⟨0, "public static partial class " ++ s.className⟩,
     ⟨0, "\x7b"⟩,
     ⟨1, "static partial void " ++ s.hook ++ "(IServiceCollection services);"⟩,
     .blank,
     ⟨1, "public static void " ++ s.entryPoint ++ "(this IServiceCollection services)"⟩,
     ⟨1, "\x7b"⟩]

def closing (s : Scaffold) : List Line :=
  [.blank, ⟨2, s.hook ++ "(services);"⟩, ⟨1, "\x7d"⟩, ⟨0, "\x7d"⟩]

def lines (d : Document) (s : Scaffold) : List Line :=
  opening d s ++ d.groups.flatMap group ++ closing s

end ServiceWiring.PartialClass
