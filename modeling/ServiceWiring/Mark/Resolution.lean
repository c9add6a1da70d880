import ServiceWiring.Mark
import ServiceWiring.Mark.Directive
import ServiceWiring.Error
import ServiceWiring.Kind.Registry
import ServiceWiring.Text.Case

/-! Resolution of annotations into directives. Every argument feeds a slot, named arguments after
positional ones, and the last feed of a slot counts. -/
namespace ServiceWiring
open ServiceWiring.Text

inductive Slot where
  | lifetime
  | mode
  | contracts
  | label
  deriving DecidableEq, Repr

namespace Slot

/-- The slots that positional arguments feed, in order. -/
def ofKind : Kind → List Slot
  | .injectable => [.lifetime, .mode, .contracts, .label]
  | .transientService => [.mode, .contracts, .label]
  | .scopedService => [.mode, .contracts, .label]
  | .singletonService => [.mode, .contracts, .label]

/-- The slot a named argument feeds. Underscores, hyphens and case do not matter. -/
def ofName? (name : String) : Option Slot :=
  let key := lowerChars (name.toList.filter fun c => c ≠ '_' ∧ c ≠ '-')
  if key = "lifetime".toList then some .lifetime
  else if key = "mode".toList then some .mode
  else if key = "interfaces".toList then some .contracts
  else if key = "label".toList ∨ key = "preprocessorlabel".toList then some .label
  else none

end Slot

namespace Mark

/-- The arguments that count, each with its slot. -/
def feeds (kind : Kind) (a : Mark) : List (Slot × Argument) :=
  (Slot.ofKind kind).zip a.positional ++
    a.named.filterMap fun arg => (Slot.ofName? arg.name).map (·, arg.value)

end Mark

namespace Argument

def lifetime (a : Argument) : Lifetime := (a.code?.map Lifetime.ofCode).getD .transient

def mode (a : Argument) : Mode := (a.code?.map Mode.ofCode).getD .auto

/-- A list of contracts may also be given as one name. -/
def contracts : Argument → Except MarkFault (List TypeName)
  | .types ts => .ok ts
  | .text s =>
    match TypeName.parse? s with
    | some t => .ok [t]
    | none => .error (.badContract s)
  | .absent => .ok []
  | .code _ => .ok []

end Argument

namespace Directive

/-- What an annotation without arguments asks for. -/
def initial (kind : Kind) : Directive :=
  { lifetime := kind.impliedLifetime?.getD .transient, mode := .auto, listed := [], label := none }

def feed (d : Directive) : Slot × Argument → Except MarkFault Directive
  | (.lifetime, a) => .ok { d with lifetime := a.lifetime }
  | (.mode, a) => .ok { d with mode := a.mode }
  | (.contracts, a) =>
    match a.contracts with
    | .ok ts => .ok { d with listed := ts }
    | .error fault => .error fault
  | (.label, a) => .ok { d with label := a.text? }

/-- Takes the feeds one after another; the first fault ends it. -/
def feedAll (d : Directive) : List (Slot × Argument) → Except MarkFault Directive
  | [] => .ok d
  | f :: rest =>
    match d.feed f with
    | .ok d => d.feedAll rest
    | .error fault => .error fault

def normalized (d : Directive) : Directive := { d with label := normalLabel d.label }

end Directive

namespace KindRegistry

def kindOf (r : KindRegistry) (tag : String) : Except MarkFault Kind :=
  match r.lookup? tag with
  | some entry =>
    match entry.kind with
    | some kind => .ok kind
    | none => .error .withoutMeaning
  | none => .error .unrecognized

/-- The directive of an annotation, or the fault in it. -/
def directive (r : KindRegistry) (a : Mark) : Except MarkFault Directive :=
  match r.kindOf a.tag with
  | .ok kind =>
    match (Directive.initial kind).feedAll (a.feeds kind) with
    | .ok d => .ok d.normalized
    | .error fault => .error fault
  | .error fault => .error fault

/-- Resolves an annotation of the type of that name. -/
def resolve (r : KindRegistry) (typeName : String) (a : Mark) :
    Except MarkError Directive :=
  match r.directive a with
  | .ok d => .ok d
  | .error fault => .error ⟨typeName, a.tag, fault⟩

end KindRegistry

end ServiceWiring
