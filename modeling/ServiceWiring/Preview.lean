import ServiceWiring.Batch
import ServiceWiring.Report

/-! Previews: what a pass over one manifest would register, without any source. -/
namespace ServiceWiring

inductive ReportFormat where
  | text
  | json
  deriving DecidableEq, Repr

namespace ReportFormat

def all : List ReportFormat := [.text, .json]

def name : ReportFormat → String
  | .text => "text"
  | .json => "json"

def render (format : ReportFormat) (report : PlanReport) : String :=
  match format with
  | .text => report.toText
  | .json => report.toJson ++ "\n"

end ReportFormat

structure PreviewRequest where
  manifest : String
  format : ReportFormat
  deriving DecidableEq, Repr

namespace Preview

/-- What a preview prints, and what it comes to. -/
structure Outcome where
  output : String
  result : Except Failure PlanReport

/-- The report on a unit and the error of its pass, if there was one. Of a pass that failed no
registrations are reported, only the diagnostics. -/
def report (options : PassOptions) (u : BuildUnit) : PlanReport × Option Error :=
  let planned := Pass.plan options u
  let records := planned.diagnostics.map Diagnostic.record
  match planned.result with
  | .ok rs => (.ofPlan u.name rs records, none)
  | .error e => (.ofPlan u.name [] records, some e)

/-- Plans the pass over a manifest. The report is printed even if the pass fails. -/
def run (look : String → Except FileFault String) (r : PreviewRequest) (g : GeneratorSettings) :
    Outcome :=
  match Manifest.ofFile r.manifest (look r.manifest) with
  | .error e => ⟨"", .error (Batch.loadFailure r.manifest e)⟩
  | .ok m =>
    match Dialect.find g.dialect with
    | .error e => ⟨"", .error (.ofError e)⟩
    | .ok _ =>
      let (report, failure) := report g.passOptions m.buildUnit
      { output := r.format.render report
        result := match failure with
          | none => .ok report
          | some e => .error (Batch.passFailure r.manifest e) }

end Preview

end ServiceWiring
