import ServiceWiring.Lifetime
import ServiceWiring.TypeName

/-! Registrations: one binding of a service to its implementation each. -/
namespace ServiceWiring
open ServiceWiring.Text

/-- The group only says where the binding is written, and the label under which condition. -/
structure Registration where
  group : String
  label : Option String
  service : TypeName
  implementation : TypeName
  lifetime : Lifetime
  deriving DecidableEq, Repr

/-- A blank label is no label. -/
def normalLabel (label : Option String) : Option String := label.filter fun s => !isBlankText s

namespace Registration

def isSelfBinding (r : Registration) : Bool := r.service == r.implementation

/-- The types a registration refers to. -/
def types (r : Registration) : List TypeName := [r.service, r.implementation]

def toValue (r : Registration) : Value :=
  .record ([("group_name", .text r.group)] ++
    r.label.toList.map (fun label => ("label", .text label)) ++
    [("service_type", r.service.toValue),
     ("implementation_type", r.implementation.toValue),
     ("lifetime", r.lifetime.toValue)])

def ofValue? (form : Value.ListedFields) (v : Value) : Option Registration :=
  match v.fields? form
    ["group_name", "label", "service_type", "implementation_type", "lifetime"] with
  | some [group, label, service, implementation, lifetime] => do
    return {
      group := ← group.required Value.string?
      label := ← label.withDefault none (Value.orNull? Value.string?)
      service := ← service.required TypeName.ofValue?
      implementation := ← implementation.required TypeName.ofValue?
      lifetime := ← lifetime.required Lifetime.ofValue? }
  | _ => none

end Registration

end ServiceWiring
