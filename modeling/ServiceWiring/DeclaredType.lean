import ServiceWiring.Mark

/-! Types declared by a host, with the contracts they implement and their annotations. -/
namespace ServiceWiring

structure DeclaredType where
  name : TypeName
  contracts : List TypeName
  marks : List Mark
  deriving DecidableEq, Repr

namespace DeclaredType

/-- The registrations of a type are grouped under its qualified name. -/
def groupName (t : DeclaredType) : String := t.name.qualified

def toValue (t : DeclaredType) : Value :=
  .record [("name", t.name.toValue),
    ("implements", .list (t.contracts.map TypeName.toValue)),
    ("annotations", .list (t.marks.map Mark.toValue))]

def ofValue? (form : Value.ListedFields) (v : Value) : Option DeclaredType :=
  match v.fields? form ["name", "implements", "annotations"] with
  | some [name, contracts, marks] => do
    return {
      name := ← name.required TypeName.ofValue?
      contracts := ← contracts.withDefault [] (Value.listOf? TypeName.ofValue?)
      marks := ← marks.withDefault [] (Value.listOf? (Mark.ofValue? form)) }
  | _ => none

end DeclaredType

end ServiceWiring
