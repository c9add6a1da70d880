import ServiceWiring.Mark.Resolution
import ServiceWiring.Diagnostic
import ServiceWiring.Document.Emission
import ServiceWiring.Registration.Plan

/-! Registration passes over a build unit. A pass reads the annotations of every declared type in
order, collects the registrations they ask for, and writes one document. -/
namespace ServiceWiring

/-- What to do about an annotation that cannot be resolved. -/
inductive InvalidPolicy where
  | abort
  | skip
  deriving DecidableEq, Repr, Inhabited

namespace InvalidPolicy

def all : List InvalidPolicy := [.abort, .skip]

def name : InvalidPolicy → String
  | .abort => "abort"
  | .skip => "skip"

def toValue (p : InvalidPolicy) : Value := .text p.name

def ofValue? (v : Value) : Option InvalidPolicy := v.oneOf? all name

end InvalidPolicy

structure PassOptions where
  listed : ListedPolicy
  invalid : InvalidPolicy
  deriving DecidableEq, Repr

/-- The declared types of a unit and the annotation kinds it can see, if the base kind is among
them. -/
structure BuildUnit where
  name : String
  types : List DeclaredType
  kinds : Option KindRegistry
  deriving DecidableEq, Repr

/-- What a pass comes to, and the diagnostics on the way. -/
structure Traced (α : Type) where
  diagnostics : List Diagnostic
  result : Except Error α

namespace Pass

/-- The registrations that one type's annotations ask for. A fatal error is never skipped. -/
def planMarks (kinds : KindRegistry) (options : PassOptions) (t : DeclaredType) :
    List Mark → Traced (List Registration)
  | [] => ⟨[], .ok []⟩
  | a :: rest =>
    match kinds.resolve t.name.qualified a with
    | .ok d =>
      let later := planMarks kinds options t rest
      ⟨later.diagnostics, later.result.map (t.registrations options.listed d ++ ·)⟩
    | .error e =>
      let report := Diagnostic.invalidMark t.name.qualified a.tag e.fault.message
      let error := Error.unresolved e
      match options.invalid, error.isFatal with
      | .skip, false =>
        let later := planMarks kinds options t rest
        ⟨report :: later.diagnostics, later.result⟩
      | _, _ => ⟨[report], .error error⟩

/-- The annotations of a type that belong to the registration family. -/
def recognized (kinds : KindRegistry) (t : DeclaredType) : List Mark :=
  t.marks.filter fun a => kinds.recognizes a.tag

/-- A type without recognized annotations leaves no trace. -/
def planType (kinds : KindRegistry) (options : PassOptions) (t : DeclaredType) :
    Traced (List Registration) :=
  match recognized kinds t with
  | [] => ⟨[], .ok []⟩
  | a :: rest =>
    let planned := planMarks kinds options t (a :: rest)
    let tags := Text.joined ", " ((a :: rest).map Mark.tag)
    ⟨.found t.name.qualified tags :: planned.diagnostics, planned.result⟩

def planTypes (kinds : KindRegistry) (options : PassOptions) :
    List DeclaredType → Traced (List Registration)
  | [] => ⟨[], .ok []⟩
  | t :: rest =>
    let planned := planType kinds options t
    match planned.result with
    | .error e => ⟨planned.diagnostics, .error e⟩
    | .ok rs =>
      let later := planTypes kinds options rest
      ⟨planned.diagnostics ++ later.diagnostics, later.result.map (rs ++ ·)⟩

/-- All registrations of a unit, with nothing written. -/
def plan (options : PassOptions) (u : BuildUnit) : Traced (List Registration) :=
  match u.kinds with
  | none =>
    let base := Kind.injectable.tag
    ⟨[.started u.name, .missingBaseKind base], .error (.missingBaseKind base)⟩
  | some kinds =>
    let planned := planTypes kinds options u.types
    ⟨.started u.name :: planned.diagnostics, planned.result⟩

/-- The registrations of a pass and the document that binds them, if there are any. -/
structure Outcome where
  registrations : List Registration
  document : Option Document
  deriving DecidableEq, Repr

/-- The last word of a pass. -/
def conclusion (u : BuildUnit) (o : Outcome) : Diagnostic :=
  match o.document with
  | none => .emptyResult u.name
  | some d => .generated d.hintName o.registrations.length d.groups.length

/-- A whole pass. That nothing is registered is no error. -/
def run (dialect : Dialect) (s : Scaffold) (options : PassOptions) (u : BuildUnit) :
    Traced Outcome :=
  let planned := plan options u
  match planned.result with
  | .error e => ⟨planned.diagnostics, .error e⟩
  | .ok rs =>
    let outcome : Outcome := ⟨rs, emit dialect s rs⟩
    ⟨planned.diagnostics ++ [conclusion u outcome], .ok outcome⟩

/-- A pass that reports behind what its sink holds already. -/
def runInto (sink : List Diagnostic) (dialect : Dialect) (s : Scaffold) (options : PassOptions)
    (u : BuildUnit) : Traced Outcome :=
  let ran := run dialect s options u
  ⟨sink ++ ran.diagnostics, ran.result⟩

end Pass

end ServiceWiring
