import ServiceWiring.Dialect
import ServiceWiring.Registration

/-! The names by which a document shows types. -/
namespace ServiceWiring

/-- Types with the names they are shown by. -/
structure DisplayNames where
  entries : List (TypeName × String)

namespace DisplayNames

/-- Another of the types has the same simple name in another namespace. -/
def isAmbiguous (types : List TypeName) (t : TypeName) : Bool :=
  types.any fun u => u.simple == t.simple && u.space != t.space

/-- A type goes by its short name unless that is ambiguous. -/
def shown (dialect : Dialect) (types : List TypeName) (t : TypeName) : String :=
  if isAmbiguous types t then dialect.qualify t else dialect.shortName t

def ofTypes (dialect : Dialect) (types : List TypeName) : DisplayNames :=
  ⟨types.eraseDups.map fun t => (t, shown dialect types t)⟩

def get? (names : DisplayNames) (t : TypeName) : Option String := names.entries.lookup t

/-- A type without a name of its own is shown as its host calls it. -/
def get (names : DisplayNames) (t : TypeName) : String := (names.get? t).getD t.qualified

end DisplayNames

end ServiceWiring
