import ServiceWiring.Document
import ServiceWiring.Document.Scaffold
import ServiceWiring.Text.Line
import ServiceWiring.Text.Quoted
import ServiceWiring.Text.SnakeCase

/-! A document as an extension trait of the container, in a module of its own. Groups are marked by
comments and labels are features that a block is compiled under. -/
namespace ServiceWiring.ExtensionTrait
open ServiceWiring.Text

/-- The type that the trait is implemented for. -/
def containerType : String := "ServiceCollection"

def binding (depth : Nat) (b : Binding) : Line :=
  ⟨depth, "services.add_" ++ SnakeCase.convert b.lifetime.name ++ "::<" ++ b.service ++ ", " ++
    b.implementation ++ ">();"⟩

def block (b : Block) : List Line :=
  match b.label with
  | none => b.bindings.map (binding 3)
  | some label =>
    [⟨3, "#[cfg(feature = " ++ Quoted.encode label ++ ")]"⟩, ⟨3, "\x7b"⟩] ++
      b.bindings.map (binding 4) ++ [⟨3, "\x7d"⟩]

def group (g : Group) : List Line :=
  ⟨3, "// region: " ++ g.name⟩ :: g.blocks.flatMap block ++ [⟨3, "// endregion"⟩]

def opening (d : Document) (s : Scaffold) : List Line :=
  [⟨0, "// @generated by skanr. Do not edit."⟩,
   ⟨0, "pub mod " ++ SnakeCase.convert d.space ++ " \x7b"⟩] ++
    d.imports.map (fun path => ⟨1, "use " ++ path ++ "::*;"⟩) ++
    [.blank,
     ⟨1, "pub trait " ++ s.className ++ " \x7b"⟩,
     ⟨2, "fn " ++ SnakeCase.convert s.entryPoint ++ "(&mut self);"⟩,
     ⟨1, "\x7d"⟩,
     .blank,
     ⟨1, "impl " ++ s.className ++ " for " ++ containerType ++ " \x7b"⟩,
     ⟨2, "fn " ++ SnakeCase.convert s.entryPoint ++ "(&mut self) \x7b"⟩,
     ⟨3, "let services = self;"⟩]

def closing (s : Scaffold) : List Line :=
  [.blank, ⟨3, "super::" ++ SnakeCase.convert s.hook ++ "(services);"⟩,
   ⟨2, "\x7d"⟩, ⟨1, "\x7d"⟩, ⟨0, "\x7d"⟩]

def lines (d : Document) (s : Scaffold) : List Line :=
  opening d s ++ d.groups.flatMap group ++ closing s

end ServiceWiring.ExtensionTrait
