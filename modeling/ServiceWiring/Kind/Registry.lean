import ServiceWiring.Kind

/-! The annotation kinds that a build unit can see: a finite map from normal tags to kinds. -/
namespace ServiceWiring

/-- A tag of the annotation family, which has no kind when it has no meaning of its own. -/
structure KindEntry where
  tag : String
  kind : Option Kind
  deriving DecidableEq, Repr

structure KindRegistry where
  entries : List KindEntry
  deriving DecidableEq, Repr

namespace KindRegistry

def empty : KindRegistry := ⟨[]⟩

def lookup? (r : KindRegistry) (tag : String) : Option KindEntry :=
  r.entries.find? fun e => e.tag == normalTag tag

def recognizes (r : KindRegistry) (tag : String) : Bool := (r.lookup? tag).isSome

/-- A tag that is there keeps its place and gets the new kind; any other goes to the end. -/
def register (r : KindRegistry) (tag : String) (kind : Option Kind) : KindRegistry :=
  if r.recognizes tag then
    ⟨r.entries.map fun e => if e.tag = normalTag tag then { e with kind := kind } else e⟩
  else ⟨r.entries ++ [⟨normalTag tag, kind⟩]⟩

def builtin : KindRegistry :=
  Kind.all.foldl (fun r kind => r.register kind.tag (some kind)) empty

def addVisible (r : KindRegistry) (tag : String) : KindRegistry := r.register tag (Kind.ofTag? tag)

/-- Adds a member of the family that has no meaning, unless its tag is taken. -/
def addDerived (r : KindRegistry) (tag : String) : KindRegistry :=
  if r.recognizes tag then r else r.register tag none

/-- The registry of the visible tags and then the derived ones. There is none unless the base kind
is visible. -/
def ofVisible? (visible derived : List String) : Option KindRegistry :=
  let r := visible.foldl addVisible empty
  if r.recognizes Kind.injectable.tag then some (derived.foldl addDerived r) else none

end KindRegistry

end ServiceWiring
