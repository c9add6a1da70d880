import ServiceWiring.Diagnostic
import ServiceWiring.Json.Writer
import ServiceWiring.Registration
import ServiceWiring.Sorted
import ServiceWiring.Text.Pieces

/-! Reports on planned passes, for people and for tools. -/
namespace ServiceWiring

structure PlanSummary where
  registrationCount : Nat
  groupCount : Nat
  labelCount : Nat
  passed : Bool
  deriving DecidableEq, Repr

structure PlanReport where
  unit : String
  summary : PlanSummary
  registrations : List Registration
  diagnostics : List DiagnosticRecord
  deriving DecidableEq, Repr

namespace PlanSummary

/-- Groups and labels count once each, and a pass passes when no diagnostic is a failure. -/
def ofPlan (rs : List Registration) (ds : List DiagnosticRecord) : PlanSummary :=
  { registrationCount := rs.length
    groupCount := (Sorted.ofList (rs.map Registration.group)).length
    labelCount := (Sorted.ofList (rs.filterMap Registration.label)).length
    passed := !ds.any (·.severity.isFailure) }

def toValue (s : PlanSummary) : Value :=
  .record [("registration_count", .integer s.registrationCount),
    ("group_count", .integer s.groupCount),
    ("label_count", .integer s.labelCount),
    ("passed", .bool s.passed)]

def ofValue? (form : Value.ListedFields) (v : Value) : Option PlanSummary :=
  match v.fields? form ["registration_count", "group_count", "label_count", "passed"] with
  | some [registrationCount, groupCount, labelCount, passed] => do
    return {
      registrationCount := ← registrationCount.required Value.count?
      groupCount := ← groupCount.required Value.count?
      labelCount := ← labelCount.required Value.count?
      passed := ← passed.required Value.bool? }
  | _ => none

end PlanSummary

namespace PlanReport

def ofPlan (unit : String) (rs : List Registration) (ds : List DiagnosticRecord) : PlanReport :=
  ⟨unit, .ofPlan rs ds, rs, ds⟩

def toValue (r : PlanReport) : Value :=
  .record [("unit", .text r.unit), ("summary", r.summary.toValue),
    ("registrations", .list (r.registrations.map Registration.toValue)),
    ("diagnostics", .list (r.diagnostics.map DiagnosticRecord.toValue))]

def ofValue? (form : Value.ListedFields) (v : Value) : Option PlanReport :=
  match v.fields? form ["unit", "summary", "registrations", "diagnostics"] with
  | some [unit, summary, registrations, diagnostics] => do
    return {
      unit := ← unit.required Value.string?
      summary := ← summary.required (PlanSummary.ofValue? form)
      registrations := ← registrations.required (Value.listOf? (Registration.ofValue? form))
      diagnostics := ← diagnostics.required (Value.listOf? (DiagnosticRecord.ofValue? form)) }
  | _ => none

def toJson (r : PlanReport) : String := Json.pretty r.toValue

def registrationLine (r : Registration) : String :=
  "    [" ++ r.lifetime.name ++ "] " ++ r.service.qualified ++ " -> " ++
    r.implementation.qualified ++ ((r.label.map (" #" ++ ·)).getD "") ++ "\n"

/-- The registrations, with a heading wherever the group is not that of the line before. -/
def registrationLines (current : Option String) : List Registration → String
  | [] => ""
  | r :: rest =>
    (if current = some r.group then "" else "  " ++ r.group ++ "\n") ++ registrationLine r ++
      registrationLines (some r.group) rest

def diagnosticLine (d : DiagnosticRecord) : String :=
  "  [" ++ d.severity.heading ++ "] " ++ d.code ++ ": " ++ d.message ++ "\n"

/-- A part of the report under its title, left out when it would be empty. -/
def part (title body : String) : String :=
  if body == "" then "" else "--- " ++ title ++ " ---\n" ++ body ++ "\n"

def toText (r : PlanReport) : String :=
  "=== Registration Plan ===\n\n" ++
  "Unit: " ++ r.unit ++ "\n\n" ++
  "--- Summary ---\n" ++
  "Registrations: " ++ toString r.summary.registrationCount ++ "\n" ++
  "  Groups:      " ++ toString r.summary.groupCount ++ "\n" ++
  "  Labels:      " ++ toString r.summary.labelCount ++ "\n" ++
  "\n" ++
  "Status: " ++ (if r.summary.passed then "PASSED" else "FAILED") ++ "\n\n" ++
  part "Registrations" (registrationLines none r.registrations) ++
  part "Diagnostics" (String.join (r.diagnostics.map diagnosticLine))

end PlanReport

end ServiceWiring
