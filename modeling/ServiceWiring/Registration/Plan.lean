import ServiceWiring.Mark.Directive
import ServiceWiring.DeclaredType

/-! From a directive to the registrations of the type that carries it. -/
namespace ServiceWiring

/-- Whether listed contracts are taken as they are, or only those that the type implements. -/
inductive ListedPolicy where
  | unchecked
  | implementedOnly
  deriving DecidableEq, Repr, Inhabited

namespace ListedPolicy

def all : List ListedPolicy := [.unchecked, .implementedOnly]

def name : ListedPolicy → String
  | .unchecked => "unchecked"
  | .implementedOnly => "implemented_only"

def toValue (p : ListedPolicy) : Value := .text p.name

def ofValue? (v : Value) : Option ListedPolicy := v.oneOf? all name

/-- The listed contracts that the policy lets through. -/
def select (p : ListedPolicy) (t : DeclaredType) (listed : List TypeName) : List TypeName :=
  match p with
  | .unchecked => listed
  | .implementedOnly => listed.filter fun c => t.contracts.contains c

end ListedPolicy

namespace DeclaredType

/-- The services that a directive binds a type to. Where there is nothing to choose from, the type
is bound to itself. -/
def services (t : DeclaredType) (policy : ListedPolicy) (d : Directive) : List TypeName :=
  match d.mode, t.contracts, d.listed with
  | .allContracts, c :: cs, _ => c :: cs
  | .firstContract, c :: _, _ => [c]
  | .auto, c :: _, _ => [c]
  | .listed, _, l :: ls => policy.select t (l :: ls)
  | _, _, _ => [t.name]

def registrations (t : DeclaredType) (policy : ListedPolicy) (d : Directive) : List Registration :=
  (t.services policy d).map fun service =>
    { group := t.groupName
      label := d.label
      service := service
      implementation := t.name
      lifetime := d.lifetime }

end DeclaredType

end ServiceWiring
