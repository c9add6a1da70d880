import ServiceWiring.Value

/-! Diagnostics: what a registration pass reports to its host. -/
namespace ServiceWiring

inductive Severity where
  | info
  | warning
  | error
  | fatal
  deriving DecidableEq, Repr

namespace Severity

def all : List Severity := [.info, .warning, .error, .fatal]

def rank : Severity → Nat
  | .info => 0
  | .warning => 1
  | .error => 2
  | .fatal => 3

instance : Ord Severity where
  compare a b := compare a.rank b.rank

def isFailure : Severity → Bool
  | .error => true
  | .fatal => true
  | _ => false

def name : Severity → String
  | .info => "Info"
  | .warning => "Warning"
  | .error => "Error"
  | .fatal => "Fatal"

/-- The severity as people read it. -/
def heading : Severity → String
  | .info => "INFO"
  | .warning => "WARNING"
  | .error => "ERROR"
  | .fatal => "FATAL"

def max (a b : Severity) : Severity := if a.rank < b.rank then b else a

def toValue (s : Severity) : Value := .text s.name

def ofValue? (v : Value) : Option Severity := v.oneOf? all name

end Severity

inductive Diagnostic where
  | started (unit : String)
  | found (typeName : String) (tags : String)
  | missingBaseKind (tag : String)
  | invalidMark (typeName : String) (tag : String) (reason : String)
  | emptyResult (unit : String)
  | generated (hintName : String) (registrations : Nat) (groups : Nat)
  deriving DecidableEq, Repr

/-- A diagnostic laid out for reports. -/
structure DiagnosticRecord where
  code : String
  severity : Severity
  subject : Option String
  message : String
  deriving DecidableEq, Repr

namespace Diagnostic

def code : Diagnostic → String
  | .started _ => "START"
  | .found _ _ => "FOUND"
  | .missingBaseKind _ => "MISSING_BASE_KIND"
  | .invalidMark _ _ _ => "INVALID_ANNOTATION"
  | .emptyResult _ => "EMPTY_RESULT"
  | .generated _ _ _ => "GENERATED"

def severity : Diagnostic → Severity
  | .started _ => .info
  | .found _ _ => .info
  | .missingBaseKind _ => .fatal
  | .invalidMark _ _ _ => .error
  | .emptyResult _ => .warning
  | .generated _ _ _ => .info

/-- The declared type that a diagnostic is about. -/
def subject? : Diagnostic → Option String
  | .found typeName _ => some typeName
  | .invalidMark typeName _ _ => some typeName
  | _ => none

def message : Diagnostic → String
  | .started unit => "Starting registration pass for " ++ unit
  | .found typeName tags => "Found " ++ tags ++ " on " ++ typeName
  | .missingBaseKind tag => "Annotation kind '" ++ tag ++ "' not found; no registrations generated"
  | .invalidMark typeName tag reason =>
    "Invalid annotation [" ++ tag ++ "] on " ++ typeName ++ ": " ++ reason
  | .emptyResult unit => "No registrations produced for " ++ unit
  | .generated hintName registrations groups =>
    "Generated " ++ hintName ++ ": " ++ toString registrations ++ " registrations in " ++
      toString groups ++ " groups"

def record (d : Diagnostic) : DiagnosticRecord := ⟨d.code, d.severity, d.subject?, d.message⟩

def maxSeverity? (ds : List Diagnostic) : Option Severity :=
  match ds.map severity with
  | [] => none
  | s :: rest => some (rest.foldl Severity.max s)

def anyFailure (ds : List Diagnostic) : Bool := ds.any (·.severity.isFailure)

end Diagnostic

namespace DiagnosticRecord

def toValue (d : DiagnosticRecord) : Value :=
  .record ([("code", .text d.code), ("severity", d.severity.toValue)] ++
    d.subject.toList.map (fun subject => ("subject", .text subject)) ++
    [("message", .text d.message)])

def ofValue? (form : Value.ListedFields) (v : Value) : Option DiagnosticRecord :=
  match v.fields? form ["code", "severity", "subject", "message"] with
  | some [code, severity, subject, message] => do
    return {
      code := ← code.required Value.string?
      severity := ← severity.required Severity.ofValue?
      subject := ← subject.withDefault none (Value.orNull? Value.string?)
      message := ← message.required Value.string? }
  | _ => none

end DiagnosticRecord

end ServiceWiring
