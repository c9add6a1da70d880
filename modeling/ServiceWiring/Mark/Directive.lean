import ServiceWiring.Lifetime
import ServiceWiring.Mode
import ServiceWiring.Registration

/-! Directives: what an annotation asks for once its arguments are read. -/
namespace ServiceWiring

structure Directive where
  lifetime : Lifetime
  mode : Mode
  listed : List TypeName
  label : Option String
  deriving DecidableEq, Repr

namespace Directive

def toValue (d : Directive) : Value :=
  .record [("lifetime", d.lifetime.toValue), ("mode", d.mode.toValue),
    ("manual_interfaces", .list (d.listed.map TypeName.toValue)),
    ("label", Value.ofOption .text d.label)]

def ofValue? (form : Value.ListedFields) (v : Value) : Option Directive :=
  match v.fields? form ["lifetime", "mode", "manual_interfaces", "label"] with
  | some [lifetime, mode, listed, label] => do
    return {
      lifetime := ← lifetime.required Lifetime.ofValue?
      mode := ← mode.required Mode.ofValue?
      listed := ← listed.required (Value.listOf? TypeName.ofValue?)
      label := ← label.nullable (Value.orNull? Value.string?) }
  | _ => none

end Directive

end ServiceWiring
