import ServiceWiring.Preview
import ServiceWiring.Proofs.Highest
import ServiceWiring.Proofs.Planning
import ServiceWiring.Proofs.Rendering
import ServiceWiring.Proofs.ReportLayout
import ServiceWiring.Proofs.Summation

/-! Previews against batches. A preview fails where a batch of the same manifest fails, and counts the
bindings that the batch writes; and what it prints says if anything was wrong. -/
namespace ServiceWiring

section Loaded

theorem Argument.parsed_of_lists {arg : Argument} {t : TypeName} (harg : arg.WellFormed)
    (h : arg.Lists t) : t.Parsed := by
  cases arg with
  | absent => cases h
  | code n => cases h
  | types ts => exact harg t h
  | text s => exact ⟨s, h⟩

theorem Mark.parsed_of_lists {a : Mark} {t : TypeName} (ha : a.WellFormed) (h : a.Lists t) :
    t.Parsed := by
  obtain ⟨arg, harg, hlists⟩ := h
  refine Argument.parsed_of_lists ?_ hlists
  rcases List.mem_append.mp harg with hpositional | hnamed
  · exact ha.1 arg hpositional
  · obtain ⟨named, hmem, rfl⟩ := List.mem_map.mp hnamed
    exact ha.2 named hmem

/-- Out of a well-formed manifest come well-formed registrations. -/
theorem Manifest.wellFormed_of_plan {m : Manifest} (hm : m.WellFormed) {options : PassOptions}
    {rs : List Registration} (h : (Pass.plan options m.buildUnit).result = .ok rs) :
    ∀ r ∈ rs, r.WellFormed := by
  obtain ⟨kinds, -, -, rfl⟩ := Pass.plan_eq_ok_iff.mp h
  rw [flatMap_contribution]
  intro r hr
  obtain ⟨x, hx, hr⟩ := List.mem_flatMap.mp hr
  have howns := Accepted.owns hx hr
  obtain ⟨htype, hmark, -, -⟩ := mem_accepted.mp hx
  obtain ⟨hname, hcontracts, hmarks⟩ := hm x.type htype
  refine ⟨?_, howns.implementation ▸ hname⟩
  rcases howns.service with hself | hcontract | hlists
  · exact hself ▸ hname
  · exact hcontracts r.service hcontract
  · exact Mark.parsed_of_lists (hmarks x.mark hmark) hlists

end Loaded

namespace Preview
open Batch

section Report
variable {options : PassOptions} {u : BuildUnit}

theorem report_of_ok {rs : List Registration} (h : (Pass.plan options u).result = .ok rs) :
    report options u =
      (.ofPlan u.name rs ((Pass.plan options u).diagnostics.map Diagnostic.record), none) := by
  simp only [report, h]

theorem report_of_error {e : Error} (h : (Pass.plan options u).result = .error e) :
    report options u =
      (.ofPlan u.name [] ((Pass.plan options u).diagnostics.map Diagnostic.record), some e) := by
  simp only [report, h]

theorem passed_ofPlan (unit : String) (rs : List Registration) (ds : List Diagnostic) :
    (PlanReport.ofPlan unit rs (ds.map Diagnostic.record)).summary.passed =
      !Diagnostic.anyFailure ds := by
  simp [PlanReport.ofPlan, PlanSummary.ofPlan, Diagnostic.anyFailure, Diagnostic.record,
    List.any_map, Function.comp_def]

theorem unit_report : (report options u).1.unit = u.name := by
  cases h : (Pass.plan options u).result with
  | error e => rw [report_of_error h, PlanReport.ofPlan]
  | ok rs => rw [report_of_ok h, PlanReport.ofPlan]

/-- The report on a loaded manifest can be read back from its JSON. -/
theorem wellFormed_report (options : PassOptions) {m : Manifest} (hm : m.WellFormed)
    (hlength : (report options m.buildUnit).1.registrations.length < 0x10000000000000000) :
    (report options m.buildUnit).1.WellFormed := by
  cases h : (Pass.plan options m.buildUnit).result with
  | error e =>
    rw [report_of_error h] at hlength ⊢
    exact ⟨PlanSummary.wellFormed_ofPlan _ hlength, List.forall_mem_nil _⟩
  | ok rs =>
    rw [report_of_ok h] at hlength ⊢
    exact ⟨PlanSummary.wellFormed_ofPlan _ hlength, Manifest.wellFormed_of_plan hm h⟩

/-- The status of a report is that of the diagnostics. -/
theorem passed_report :
    (report options u).1.summary.passed =
      !Diagnostic.anyFailure (Pass.plan options u).diagnostics := by
  cases h : (Pass.plan options u).result with
  | error e => rw [report_of_error h, passed_ofPlan]
  | ok rs => rw [report_of_ok h, passed_ofPlan]

end Report

/-- What is to come of a batch of one manifest whose document is printed, by the preview of that
manifest. Where no line feed breaks its lines, what is printed is read as the registrations that the
preview reports. -/
inductive Foretold (look : String → Except FileFault String) (dialect : Dialect)
    (g : GeneratorSettings) (manifest : String) :
    Except Failure PlanReport → Batch.Outcome → Prop
  | failed {failure foretold : Failure}
    (h : failure.summary = "1 of 1 manifests failed: " ++ foretold.summary) :
    Foretold look dialect g manifest (.error foretold) ⟨"", .error failure⟩
  | nothing {report : PlanReport} (hcount : report.summary.registrationCount = 0) :
    Foretold look dialect g manifest (.ok report) ⟨"", .ok ⟨[], 0, 1⟩⟩
  | printed {report : PlanReport} {unit : String} {d : Document}
    (hrun : Batch.run look dialect g manifest = .ok ⟨manifest, unit, some d⟩)
    (hcount : d.bindingCount = report.summary.registrationCount)
    (hpos : 0 < report.summary.registrationCount) (htext : d.text ≠ "")
    (hscan : (g.scaffold unit).SingleLines → d.SingleLines → ∃ statements,
      dialect.scan (g.scaffold unit) d.text = some statements ∧
        statements = (regrouped report.registrations).map
          (statementOf dialect report.registrations) ∧
        statements.length = report.summary.registrationCount) :
    Foretold look dialect g manifest (.ok report) ⟨d.text, .ok ⟨[], 1, 0⟩⟩

/-- What a preview of a manifest that could be loaded tells, whether it fails or not: its output is
read as the report that it is of. -/
structure Announced (g : GeneratorSettings) (m : Manifest) (format : ReportFormat)
    (report : PlanReport) (o : Outcome) : Prop where
  output : o.output = format.render report
  shown : format.Shows m.unit report o.output
  wellFormed : report.registrations.length < 0x10000000000000000 → report.WellFormed
  failed_iff : report.digest.summary.passed = false ↔ o.result.isOk = false ∨
    g.invalid = .skip ∧ ∃ kinds, m.kinds = some kinds ∧
      ∃ t ∈ m.types, ∃ a ∈ t.marks, Pass.rejects kinds t a = true
  of_error : o.result.isOk = false → report.digest.lists = false ∧
    report.registrations = [] ∧ report.summary.registrationCount = 0
  of_ok : ∀ returned, o.result = .ok returned → returned = report

variable {look : String → Except FileFault String} {g : GeneratorSettings} {dialect : Dialect}

theorem run_of_load_error {r : PreviewRequest} {e : Error}
    (hm : Manifest.ofFile r.manifest (look r.manifest) = .error e) :
    run look r g = ⟨"", .error (loadFailure r.manifest e)⟩ := by
  unfold run
  rw [hm]

theorem run_of_find_error (r : PreviewRequest) {e : Error}
    (hdialect : Dialect.find g.dialect = .error e) :
    (run look r g).output = "" ∧ (run look r g).result.isOk = false := by
  unfold run
  split
  · exact ⟨rfl, rfl⟩
  · rw [hdialect]
    exact ⟨rfl, rfl⟩

section Loaded
variable {r : PreviewRequest} {m : Manifest}
  (hm : Manifest.ofFile r.manifest (look r.manifest) = .ok m)
  (hdialect : Dialect.find g.dialect = .ok dialect)
include hm hdialect

theorem run_of_ok {rs : List Registration}
    (h : (Pass.plan g.passOptions m.buildUnit).result = .ok rs) :
    run look r g = ⟨r.format.render (report g.passOptions m.buildUnit).1,
      .ok (report g.passOptions m.buildUnit).1⟩ := by
  unfold run
  rw [hm]
  dsimp only
  rw [hdialect]
  dsimp only
  rw [report_of_ok h]

theorem run_of_error {e : Error}
    (h : (Pass.plan g.passOptions m.buildUnit).result = .error e) :
    run look r g = ⟨r.format.render (report g.passOptions m.buildUnit).1,
      .error (passFailure r.manifest e)⟩ := by
  unfold run
  rw [hm]
  dsimp only
  rw [hdialect]
  dsimp only
  rw [report_of_error h]

theorem output_run :
    (run look r g).output = r.format.render (report g.passOptions m.buildUnit).1 := by
  cases hplan : (Pass.plan g.passOptions m.buildUnit).result with
  | error e => rw [run_of_error hm hdialect hplan]
  | ok rs => rw [run_of_ok hm hdialect hplan]

/-- What a preview prints of a manifest that could be loaded, and whether it fails. -/
theorem announced_run :
    Announced g m r.format (report g.passOptions m.buildUnit).1 (run look r g) := by
  have hstatus := Pass.anyFailure_plan g.passOptions m.buildUnit
  rw [← Bool.not_eq_false', ← passed_report] at hstatus
  have hunit : (report g.passOptions m.buildUnit).1.unit = m.unit := unit_report
  have houtput := output_run hm hdialect
  have hshown : r.format.Shows m.unit (report g.passOptions m.buildUnit).1
      (run look r g).output := by
    rw [houtput, ← hunit]
    exact r.format.shows_render (report g.passOptions m.buildUnit).1
  have hwellFormed := wellFormed_report g.passOptions (Manifest.wellFormed_of_ofFile hm)
  cases hplan : (Pass.plan g.passOptions m.buildUnit).result with
  | error e =>
    have hrun := run_of_error hm hdialect hplan
    rw [hplan] at hstatus
    refine ⟨houtput, hshown, hwellFormed, ?_, fun _ => ?_, ?_⟩
    · rw [hrun]
      exact hstatus
    · rw [report_of_error hplan]
      exact ⟨rfl, rfl, rfl⟩
    · rw [hrun]
      nofun
  | ok rs =>
    have hrun := run_of_ok hm hdialect hplan
    rw [hplan] at hstatus
    refine ⟨houtput, hshown, hwellFormed, ?_, ?_, ?_⟩
    · rw [hrun]
      exact hstatus
    · rw [hrun]
      nofun
    · rw [hrun]
      exact fun returned hok => (Except.ok.inj hok).symm

end Loaded

/-- The run of a manifest, told by its preview. -/
theorem foretold_run (r : PreviewRequest) (hdialect : Dialect.find g.dialect = .ok dialect) :
    Foretold look dialect g r.manifest (run look r g).result
      (printOutcome (Batch.run look dialect g r.manifest)) := by
  have hrun := run_eq look dialect g r.manifest
  cases hm : Manifest.ofFile r.manifest (look r.manifest) with
  | error e =>
    rw [hm] at hrun
    rw [hrun, run_of_load_error hm]
    exact .failed rfl
  | ok m =>
    rw [hm] at hrun
    dsimp only at hrun
    cases hplan : (Pass.plan g.passOptions m.buildUnit).result with
    | error e =>
      rw [hplan] at hrun
      rw [hrun, run_of_error hm hdialect hplan]
      exact .failed rfl
    | ok rs =>
      have hcount : (report g.passOptions m.buildUnit).1.summary.registrationCount = rs.length := by
        rw [report_of_ok hplan]
        rfl
      have hregistrations : (report g.passOptions m.buildUnit).1.registrations = rs := by
        rw [report_of_ok hplan]
        rfl
      rw [hplan] at hrun
      dsimp only at hrun
      rw [run_of_ok hm hdialect hplan]
      cases hd : emit dialect (g.scaffold m.unit) rs with
      | none =>
        have hnil := emit_eq_none_iff.mp hd
        rw [hd] at hrun
        rw [hrun]
        exact .nothing (by rw [hcount, hnil, List.length_nil])
      | some d =>
        have hne : rs ≠ [] := fun hnil => by simp [emit_eq_none_iff.mpr hnil] at hd
        rw [hd] at hrun
        rw [hrun]
        refine .printed hrun (hcount ▸ bindingCount_of_emit hd) ?_ (text_ne_empty_of_emit hd) ?_
        · rw [hcount]
          exact List.length_pos_of_ne_nil hne
        · intro hs hsingle
          obtain ⟨hscan, hstatements⟩ := scan_of_emit hd hs hsingle
          refine ⟨d.statements dialect, hscan, by rw [hregistrations, hstatements], ?_⟩
          rw [hstatements, List.length_map, hcount]
          exact (regrouped_perm rs).length_eq

/-- A preview of a manifest tells what a batch of it comes to, whatever is in its file: it fails for
the same reason or counts the bindings to be printed. And what it prints shows a failure wherever it
has one itself, or has skipped something. -/
theorem run_foretells (t : FileTree) (g : GeneratorSettings) (manifest : String)
    (format : ReportFormat) :
    let previewed := run t.readText ⟨manifest, format⟩ g
    let generated := (generate t ⟨[manifest], none, none, none⟩ g).2
    match Dialect.find g.dialect with
    | .error e =>
      previewed.output = "" ∧ previewed.result.isOk = false ∧
        generated = ⟨"", .error (.ofError e)⟩
    | .ok dialect =>
      Foretold t.readText dialect g manifest previewed.result generated ∧
      match Manifest.ofFile manifest (t.readText manifest) with
      | .error e =>
        previewed.output = "" ∧ previewed.result = .error (loadFailure manifest e)
      | .ok m => Announced g m format (report g.passOptions m.buildUnit).1 previewed := by
  intro previewed generated
  cases hdialect : Dialect.find g.dialect with
  | error e =>
    have hgenerated : generated = ⟨"", .error (.ofError e)⟩ := by
      have hfailed := generate_of_find_error (t := t) (r := ⟨[manifest], none, none, none⟩) hdialect
      simp only [generated, hfailed]
    have hpreview : previewed.output = "" ∧ previewed.result.isOk = false :=
      run_of_find_error ⟨manifest, format⟩ hdialect
    exact ⟨hpreview.1, hpreview.2, hgenerated⟩
  | ok dialect =>
    have hsettings : BatchRequest.settings ⟨[manifest], none, none, none⟩ g = g := rfl
    have hrequest : BatchRequest.alone ⟨[manifest], none, none, none⟩ manifest =
        ⟨[manifest], none, none, none⟩ := rfl
    have halone := generate_alone (r := ⟨[manifest], none, none, none⟩) t hdialect manifest
    rw [hsettings, hrequest] at halone
    have hgenerated : generated = printOutcome (Batch.run t.readText dialect g manifest) := by
      simp only [generated, halone]
    have hforetold : Foretold t.readText dialect g manifest previewed.result generated :=
      hgenerated ▸ foretold_run ⟨manifest, format⟩ hdialect
    refine ⟨hforetold, ?_⟩
    cases hm : Manifest.ofFile manifest (t.readText manifest) with
    | error e =>
      have hpreview : previewed = ⟨"", .error (loadFailure manifest e)⟩ :=
        run_of_load_error (r := ⟨manifest, format⟩) hm
      rw [hpreview]
      exact ⟨rfl, rfl⟩
    | ok m => exact announced_run (r := ⟨manifest, format⟩) hm hdialect

end Preview

end ServiceWiring
