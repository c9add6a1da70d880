import ServiceWiring.Lifetime
import ServiceWiring.Text.Blank
import ServiceWiring.Text.Pieces

/-! The kinds of registration annotations, and the tags by which hosts call them. -/
namespace ServiceWiring
open ServiceWiring.Text

inductive Kind where
  | injectable
  | transientService
  | scopedService
  | singletonService
  deriving DecidableEq, Repr

/-- What is customarily put behind the name of an annotation. -/
def tagSuffix : String := "Attribute"

/-- The last segment of a tag, without the customary suffix unless that is all of it. -/
def normalTag (tag : String) : String :=
  let simple := (pieces '.' (trimChars tag.toList)).getLastD []
  let ending := tagSuffix.toList
  if ending.isSuffixOf simple ∧ ending.length < simple.length then
    String.ofList (simple.take (simple.length - ending.length))
  else String.ofList simple

namespace Kind

def all : List Kind := [.injectable, .transientService, .scopedService, .singletonService]

def tag : Kind → String
  | .injectable => "Injectable"
  | .transientService => "TransientService"
  | .scopedService => "ScopedService"
  | .singletonService => "SingletonService"

def ofTag? (tag : String) : Option Kind := all.find? fun kind => kind.tag == normalTag tag

def impliedLifetime? : Kind → Option Lifetime
  | .injectable => none
  | .transientService => some .transient
  | .scopedService => some .scoped
  | .singletonService => some .singleton

def toValue (kind : Kind) : Value := .text kind.tag

def ofValue? (v : Value) : Option Kind := v.oneOf? all tag

end Kind

end ServiceWiring
