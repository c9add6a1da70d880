import ServiceWiring.Error
import ServiceWiring.Text.Blank
import ServiceWiring.Text.Pieces
import ServiceWiring.TypeName

/-! Dialects: the forms that registration source is written in, and how each spells names. -/
namespace ServiceWiring
open ServiceWiring.Text

/-- A static partial class that extends the container, or an extension trait for it. -/
inductive Dialect where
  | partialClass
  | extensionTrait
  deriving DecidableEq, Repr

namespace Dialect

/-- All dialects, in the order of their names. -/
def all : List Dialect := [.partialClass, .extensionTrait]

def name : Dialect → String
  | .partialClass => "csharp"
  | .extensionTrait => "rust"

def aliases : Dialect → List String
  | .partialClass => ["cs", "c#"]
  | .extensionTrait => ["rs"]

def description : Dialect → String
  | .partialClass => "C# static partial class for Microsoft.Extensions.DependencyInjection"
  | .extensionTrait => "Rust extension trait with cfg(feature) variant blocks"

def hintName : Dialect → String
  | .partialClass => "SkanrRegistrations.g.cs"
  | .extensionTrait => "skanr_registrations.rs"

/-- The namespace of the container where none is configured. -/
def container : Dialect → String
  | .partialClass => "Microsoft.Extensions.DependencyInjection"
  | .extensionTrait => "skanr_runtime"

def separator : Dialect → String
  | .partialClass => "."
  | .extensionTrait => "::"

/-- What stands before every name of the host. -/
def root : Dialect → String
  | .partialClass => ""
  | .extensionTrait => "crate::"

def containerPath (d : Dialect) (space : String) : String := replaceChar '.' d.separator space

def namespacePath (d : Dialect) (space : String) : String :=
  d.root ++ replaceChar '.' d.separator space

def shortName (d : Dialect) (t : TypeName) : String := replaceChar '.' d.separator t.simple

def qualify (d : Dialect) (t : TypeName) : String :=
  d.root ++ replaceChar '.' d.separator t.qualified

/-- Equality of texts up to the case of ASCII letters. -/
def sameUpToCase (a b : String) : Bool := a.toList.map Char.toLower == b.toList.map Char.toLower

def answersTo (d : Dialect) (name : String) : Bool := (d.name :: d.aliases).any (sameUpToCase · name)

def find (name : String) : Except Error Dialect :=
  match all.find? (·.answersTo (trim name)) with
  | some d => .ok d
  | none => .error (.unknownDialect (trim name) (joined ", " (all.map Dialect.name)))

end Dialect

end ServiceWiring
