import ServiceWiring.DeclaredType
import ServiceWiring.Json.Reader
import ServiceWiring.Kind.Registry
import ServiceWiring.Pass
import ServiceWiring.Path
import ServiceWiring.Toml.Reader
import ServiceWiring.Yaml.Reader

/-! Manifests: what a host tells about one build unit. -/
namespace ServiceWiring

/-- The name of the unit, the tags of the annotation family that it can see, the tags of the family
that have no meaning of their own, and the declared types. -/
structure Manifest where
  unit : String
  visible : List String
  derived : List String
  types : List DeclaredType
  deriving DecidableEq, Repr

namespace Manifest

def initial : Manifest :=
  { unit := "", visible := Kind.all.map Kind.tag, derived := [], types := [] }

def toValue (m : Manifest) : Value :=
  .record [("unit", .text m.unit),
    ("annotation_kinds", .list (m.visible.map .text)),
    ("derived_kinds", .list (m.derived.map .text)),
    ("types", .list (m.types.map DeclaredType.toValue))]

def ofValue? (form : Value.ListedFields) (v : Value) : Option Manifest :=
  match v.fields? form ["unit", "annotation_kinds", "derived_kinds", "types"] with
  | some [unit, visible, derived, types] => do
    return {
      unit := ← unit.withDefault initial.unit Value.string?
      visible := ← visible.withDefault initial.visible (Value.listOf? Value.string?)
      derived := ← derived.withDefault initial.derived (Value.listOf? Value.string?)
      types := ← types.withDefault initial.types (Value.listOf? (DeclaredType.ofValue? form)) }
  | _ => none

def kinds (m : Manifest) : Option KindRegistry := KindRegistry.ofVisible? m.visible m.derived

def buildUnit (m : Manifest) : BuildUnit := ⟨m.unit, m.types, m.kinds⟩

inductive Format where
  | json
  | yaml
  | toml
  deriving DecidableEq, Repr

namespace Format

def all : List Format := [.json, .yaml, .toml]

def name : Format → String
  | .json => "JSON"
  | .yaml => "YAML"
  | .toml => "TOML"

def extensions : Format → List String
  | .json => ["json"]
  | .yaml => ["yaml", "yml"]
  | .toml => ["toml"]

/-- The format of a file by the end of its name, in whatever case. -/
def ofPath (path : String) : Except Error Format :=
  let ending := String.ofList (((Path.extension? path).getD "").toList.map Char.toLower)
  match all.find? fun format => format.extensions.contains ending with
  | some format => .ok format
  | none => .error (.manifest (.unsupported path))

/-- How a list may stand for a record. -/
def listedFields : Format → Value.ListedFields
  | .json => .exactly
  | .yaml => .never
  | .toml => .leading

/-- The value that a text in this format spells, or what is wrong with the text. -/
def read (format : Format) (s : String) : Except String Value :=
  match format with
  | .json => (Json.read s).mapError (·.describe s)
  | .yaml => (Yaml.read? s).elim (.error "unexpected text") .ok
  | .toml => (Toml.read? .revised s).elim (.error "unexpected text") .ok

end Format

/-- The manifest that a text spells. -/
def ofText (format : Format) (s : String) : Except Error Manifest :=
  let doing := "Invalid " ++ format.name ++ " manifest"
  match format.read s with
  | .error cause => .error (.manifest (.unreadable doing cause))
  | .ok v =>
    match ofValue? format.listedFields v with
    | some m => .ok m
    | none => .error (.manifest (.unreadable doing "unexpected value"))

/-- The manifest in the file at a path, whose content has been looked up. -/
def ofFile (path : String) (content : Except FileFault String) : Except Error Manifest :=
  match Format.ofPath path with
  | .error e => .error e
  | .ok format =>
    match content with
    | .error fault => .error (.file ("Failed to read manifest " ++ path) fault)
    | .ok s => ofText format s

end Manifest

end ServiceWiring
