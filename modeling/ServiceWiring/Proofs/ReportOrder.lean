import Mathlib.Data.List.Perm.Subperm
import ServiceWiring.Proofs.EmissionOrder
import ServiceWiring.Proofs.ReportLayout
import ServiceWiring.Proofs.Skipping
import ServiceWiring.Proofs.Sorted

/-! The order in which a pass reports its registrations, against that of its document. The text of a
report shows a heading wherever another group begins, so that a group that is taken up again has more
than one. -/
namespace ServiceWiring

namespace PlanReport

theorem headings_cons_cons (r s : Registration) (rest : List Registration) :
    headings (r :: s :: rest) =
      if r.group = s.group then headings (s :: rest) else r.group :: headings (s :: rest) := by
  by_cases h : r.group = s.group <;> simp [headings, reportLines, List.filterMap_cons, h]

theorem mem_headings {g : String} {rs : List Registration} :
    g ∈ headings rs ↔ ∃ r ∈ rs, r.group = g := by
  induction rs with
  | nil => simp [headings, reportLines]
  | cons r rest ih =>
    cases rest with
    | nil => simp [headings, reportLines, List.filterMap_cons, eq_comm]
    | cons s rest =>
      rw [headings_cons_cons]
      split
      · next h => simp [ih, h]
      · simp [ih, eq_comm]

/-- No heading is there twice exactly when the registrations of a group stand side by side. -/
theorem nodup_headings_iff (rs : List Registration) :
    (headings rs).Nodup ↔ Contiguous Registration.group rs := by
  induction rs with
  | nil => simp [headings, reportLines, Contiguous]
  | cons r rest ih =>
    cases rest with
    | nil => simp [headings, reportLines, List.filterMap_cons, Contiguous]
    | cons s rest =>
      rw [headings_cons_cons]
      split
      · next h => rw [ih, contiguous_cons_cons_of_eq rest h]
      · next h =>
        rw [List.nodup_cons, ih, contiguous_cons_cons_of_ne rest h, mem_headings]
        simp

/-- There are as many headings as the summary counts groups exactly when none is there twice. -/
theorem length_headings_iff (rs : List Registration) (ds : List DiagnosticRecord) :
    (headings rs).length = (PlanSummary.ofPlan rs ds).groupCount ↔ (headings rs).Nodup := by
  have hmem : ∀ g, g ∈ Sorted.ofList (rs.map Registration.group) ↔ g ∈ headings rs := by
    intro g
    rw [Sorted.mem_ofList, mem_headings, List.mem_map]
  have hnodup := Sorted.nodup_ofList (rs.map Registration.group)
  have hsub : (Sorted.ofList (rs.map Registration.group)).Subperm (headings rs) :=
    List.subperm_of_subset hnodup fun g hg => (hmem g).mp hg
  constructor
  · intro h
    exact (hsub.perm_of_length_le (Nat.le_of_eq h)).nodup hnodup
  · intro h
    exact ((List.perm_ext_iff_of_nodup h hnodup).mpr fun g => (hmem g).symm).length_eq

end PlanReport

/-- The document of a pass shows its registrations regrouped. It lines up with them only where they
come in emission order already, and a report has one heading for each group only where no group is
taken up again: always, when the declared types have groups of their own. -/
theorem runInto_order (sink : List Diagnostic) (dialect : Dialect) (s : Scaffold)
    (options : PassOptions) (u : BuildUnit) (rs : List Registration) (d : Document)
    (ds : List DiagnosticRecord)
    (h : (Pass.runInto sink dialect s options u).result = .ok ⟨rs, some d⟩) :
    let placed := placedOf (.ofTypes dialect (rs.flatMap Registration.types))
    (d.placed = (regrouped rs).map placed ∧ (regrouped rs).Perm rs ∧
        ∀ g l, registrationsAt g l (regrouped rs) = registrationsAt g l rs) ∧
      (d.placed = rs.map placed ↔ InEmissionOrder rs) ∧
      (PlanReport.registrationLines none rs =
          String.join ((PlanReport.reportLines none rs).map ReportLine.text) ∧
        ((∀ r ∈ rs, r.Legible) → ReportDigest.headingsOf? u.name (PlanReport.ofPlan u.name rs ds).toText =
          some (PlanReport.headings rs)) ∧
        ((PlanReport.headings rs).length = (PlanSummary.ofPlan rs ds).groupCount ↔
          Contiguous Registration.group rs)) ∧
      ((u.types.map DeclaredType.groupName).Nodup → Contiguous Registration.group rs) := by
  intro placed
  obtain ⟨hplan, hdocument⟩ := Pass.runInto_eq_ok_iff.mp h
  obtain ⟨-, -, -, hgroups⟩ := outline_of_emit hdocument.symm
  have hplaced : d.placed = (regrouped rs).map placed := by
    rw [Document.placed, hgroups, flatMap_placed_groupsIn]
  refine ⟨⟨hplaced, regrouped_perm rs, fun g l => registrationsAt_regrouped g l rs⟩, ?_,
    ⟨PlanReport.registrationLines_eq none rs, fun hlegible => ?_, ?_⟩, fun hdistinct => ?_⟩
  · rw [hplaced]
    exact map_placedOf_regrouped_eq_iff _ rs
  · exact ReportDigest.headingsOf?_toText (PlanReport.ofPlan u.name rs ds) hlegible
  · rw [PlanReport.length_headings_iff, PlanReport.nodup_headings_iff]
  · obtain ⟨kinds, -, -, rfl⟩ := Pass.plan_eq_ok_iff.mp hplan
    exact contiguous_flatMap (fun t _ r hr => (Pass.owner_of_mem_contribution hr).2) hdistinct

/-- A store that is declared again behind a clock. -/
def resumedUnit : BuildUnit :=
  { name := "App"
    types :=
      [⟨⟨"App", "Store"⟩, [], [⟨"ScopedService", [], []⟩]⟩,
       ⟨⟨"App", "Clock"⟩, [], [⟨"SingletonService", [], []⟩]⟩,
       ⟨⟨"App", "Store"⟩, [⟨"App", "IStore"⟩], [⟨"ScopedService", [], []⟩]⟩]
    kinds := some .builtin }

theorem resumedUnit_headings : ∃ rs d,
    (Pass.runInto [] .partialClass .initial ⟨.unchecked, .abort⟩ resumedUnit).result =
        .ok ⟨rs, some d⟩ ∧
      ¬Contiguous Registration.group rs ∧
      PlanReport.headings rs = ["App.Store", "App.Clock", "App.Store"] ∧
      ReportDigest.headingsOf? "App" (PlanReport.ofPlan "App" rs []).toText =
        some (PlanReport.headings rs) := by
  refine ⟨_, _, rfl, ?_⟩
  obtain ⟨-, -, ⟨-, hread, hheadings⟩, -⟩ :=
    runInto_order [] .partialClass .initial ⟨.unchecked, .abort⟩ resumedUnit _ _ [] rfl
  refine ⟨?_, by rfl, hread (by decide)⟩
  rw [← hheadings]
  decide

/-- A store whose label comes before what it registers without one. -/
def deferredUnit : BuildUnit :=
  { name := "App"
    types :=
      [⟨⟨"App", "Store"⟩, [⟨"App", "IStore"⟩],
        [⟨"TransientService", [], [⟨"Label", .text "DEBUG"⟩]⟩, ⟨"SingletonService", [], []⟩]⟩]
    kinds := some .builtin }

theorem deferredUnit_misaligned : ∃ rs d,
    (Pass.runInto [] .partialClass .initial ⟨.unchecked, .abort⟩ deferredUnit).result =
        .ok ⟨rs, some d⟩ ∧
      rs.map Registration.label = [some "DEBUG", none] ∧
      d.placed.map Placed.label = [none, some "DEBUG"] ∧
      d.placed ≠ rs.map (placedOf (.ofTypes .partialClass (rs.flatMap Registration.types))) := by
  have hdocument : ∃ rs d,
      (Pass.runInto [] .partialClass .initial ⟨.unchecked, .abort⟩ deferredUnit).result =
          .ok ⟨rs, some d⟩ ∧
        rs.map Registration.label = [some "DEBUG", none] ∧
        d.placed.map Placed.label = [none, some "DEBUG"] := ⟨_, _, rfl, by rfl, by rfl⟩
  obtain ⟨rs, d, hrun, hlabels, hplaced⟩ := hdocument
  refine ⟨rs, d, hrun, hlabels, hplaced, fun h => ?_⟩
  have hsame := congrArg (List.map Placed.label) h
  rw [hplaced, List.map_map] at hsame
  have hlabel : rs.map Registration.label = [none, some "DEBUG"] := hsame.symm
  simp [hlabels] at hlabel

end ServiceWiring
