import ServiceWiring.Lifetime

/-! Registration source: bindings under their conditions, grouped by declared type, and the text
written from them. -/
namespace ServiceWiring

/-- A binding, its types by the names that the document shows. -/
structure Binding where
  lifetime : Lifetime
  service : String
  implementation : String
  deriving DecidableEq, Repr

/-- Bindings under one label, or under none. -/
structure Block where
  label : Option String
  bindings : List Binding
  deriving DecidableEq, Repr

structure Group where
  name : String
  blocks : List Block
  deriving DecidableEq, Repr

structure Document where
  hintName : String
  space : String
  imports : List String
  groups : List Group
  text : String
  deriving DecidableEq, Repr

/-- All bindings of a group, block after block. -/
def Group.bindings (g : Group) : List Binding := g.blocks.flatMap Block.bindings

def Group.bindingCount (g : Group) : Nat := g.bindings.length

/-- All bindings of a document, group after group. -/
def Document.bindings (d : Document) : List Binding := d.groups.flatMap Group.bindings

def Document.bindingCount (d : Document) : Nat := d.bindings.length

def Binding.toValue (b : Binding) : Value :=
  .record [("lifetime", b.lifetime.toValue), ("service", .text b.service),
    ("implementation", .text b.implementation)]

def Binding.ofValue? (form : Value.ListedFields) (v : Value) : Option Binding :=
  match v.fields? form ["lifetime", "service", "implementation"] with
  | some [lifetime, service, implementation] => do
    return {
      lifetime := ← lifetime.required Lifetime.ofValue?
      service := ← service.required Value.string?
      implementation := ← implementation.required Value.string? }
  | _ => none

def Block.toValue (b : Block) : Value :=
  .record [("label", Value.ofOption .text b.label),
    ("bindings", .list (b.bindings.map Binding.toValue))]

def Block.ofValue? (form : Value.ListedFields) (v : Value) : Option Block :=
  match v.fields? form ["label", "bindings"] with
  | some [label, bindings] => do
    return {
      label := ← label.nullable (Value.orNull? Value.string?)
      bindings := ← bindings.required (Value.listOf? (Binding.ofValue? form)) }
  | _ => none

def Group.toValue (g : Group) : Value :=
  .record [("name", .text g.name), ("blocks", .list (g.blocks.map Block.toValue))]

def Group.ofValue? (form : Value.ListedFields) (v : Value) : Option Group :=
  match v.fields? form ["name", "blocks"] with
  | some [name, blocks] => do
    return {
      name := ← name.required Value.string?
      blocks := ← blocks.required (Value.listOf? (Block.ofValue? form)) }
  | _ => none

def Document.toValue (d : Document) : Value :=
  .record [("hint_name", .text d.hintName), ("namespace", .text d.space),
    ("imports", .list (d.imports.map .text)), ("groups", .list (d.groups.map Group.toValue)),
    ("text", .text d.text)]

def Document.ofValue? (form : Value.ListedFields) (v : Value) : Option Document :=
  match v.fields? form ["hint_name", "namespace", "imports", "groups", "text"] with
  | some [hintName, space, imports, groups, text] => do
    return {
      hintName := ← hintName.required Value.string?
      space := ← space.required Value.string?
      imports := ← imports.required (Value.listOf? Value.string?)
      groups := ← groups.required (Value.listOf? (Group.ofValue? form))
      text := ← text.required Value.string? }
  | _ => none

end ServiceWiring
