import ServiceWiring.Mode
import ServiceWiring.TypeName
import ServiceWiring.Value.Plain

/-! Marks: the registration annotations of a declared type, as hosts write them. -/
namespace ServiceWiring

/-- A value handed to a mark. Lifetimes and modes come as codes. -/
inductive Argument where
  | absent
  | code (n : Int)
  | types (ts : List TypeName)
  | text (s : String)
  deriving DecidableEq, Repr

structure NamedArgument where
  name : String
  value : Argument
  deriving DecidableEq, Repr

structure Mark where
  tag : String
  positional : List Argument
  named : List NamedArgument
  deriving DecidableEq, Repr

namespace Argument

def code? : Argument → Option Int
  | .code n => some n
  | _ => none

def text? : Argument → Option String
  | .text s => some s
  | _ => none

def toValue : Argument → Value
  | .absent => .null
  | .code n => .integer n
  | .types ts => .list (ts.map TypeName.toValue)
  | .text s => .text s

def typeName? (v : Value) : Option TypeName :=
  match v.settled with
  | .text s => TypeName.parse? s
  | _ => none

def ofValue? (v : Value) : Option Argument :=
  match v.settled with
  | .null => some .absent
  | .integer n => (Value.integer n).int64?.map .code
  | .list items => (items.mapM typeName?).map .types
  | .text s => some (.text s)
  | _ => none

end Argument

def NamedArgument.toValue (a : NamedArgument) : Value :=
  .record [("name", .text a.name), ("value", a.value.toValue)]

def NamedArgument.ofValue? (form : Value.ListedFields) (v : Value) : Option NamedArgument :=
  match v.fields? form ["name", "value"] with
  | some [name, value] => do
    return {
      name := ← name.required Value.string?
      value := ← value.required Argument.ofValue? }
  | _ => none

namespace Mark

def toValue (a : Mark) : Value :=
  .record [("kind", .text a.tag),
    ("positional", .list (a.positional.map Argument.toValue)),
    ("named", .list (a.named.map NamedArgument.toValue))]

def ofValue? (form : Value.ListedFields) (v : Value) : Option Mark :=
  match v.fields? form ["kind", "positional", "named"] with
  | some [tag, positional, named] => do
    return {
      tag := ← tag.required Value.string?
      positional := ← positional.withDefault [] (Value.listOf? Argument.ofValue?)
      named := ← named.withDefault [] (Value.listOf? (NamedArgument.ofValue? form)) }
  | _ => none

end Mark

end ServiceWiring
