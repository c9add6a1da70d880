import ServiceWiring.Report
import ServiceWiring.Proofs.DataForms
import ServiceWiring.Proofs.Json.RoundTrip
import ServiceWiring.Proofs.Sorted

/-! Reports as JSON text. The text spells one value, and that value is the report. -/
namespace ServiceWiring
open Json Value

theorem Json.Notated.ofTexts {fields : List (String × Value)}
    (h : ∀ field ∈ fields, ∃ s, field.2 = .text s) : Notated (.record fields) := by
  refine .record fun field hfield => ?_
  obtain ⟨s, hs⟩ := h field hfield
  exact hs ▸ .text s

theorem Registration.notated (r : Registration) : Notated r.toValue := by
  refine .ofTexts ?_
  cases r.label <;> simp [TypeName.toValue, Lifetime.toValue]

theorem DiagnosticRecord.notated (d : DiagnosticRecord) : Notated d.toValue := by
  refine .ofTexts ?_
  cases d.subject <;> simp [Severity.toValue]

namespace PlanSummary

/-- The counts fit into words of 64 bits. -/
def WellFormed (s : PlanSummary) : Prop :=
  s.registrationCount < 0x10000000000000000 ∧ s.groupCount < 0x10000000000000000 ∧
    s.labelCount < 0x10000000000000000

theorem notated (s : PlanSummary) : Notated s.toValue := by
  refine .record fun field hfield => ?_
  simp only [List.mem_cons, List.not_mem_nil, or_false] at hfield
  rcases hfield with rfl | rfl | rfl | rfl
  · exact .integer _
  · exact .integer _
  · exact .integer _
  · exact .bool _

/-- A plan has no more groups and labels than registrations. -/
theorem wellFormed_ofPlan {rs : List Registration} (ds : List DiagnosticRecord)
    (h : rs.length < 0x10000000000000000) : (ofPlan rs ds).WellFormed := by
  have hgroups := Sorted.length_ofList_le (rs.map Registration.group)
  have hlabels := Sorted.length_ofList_le (rs.filterMap Registration.label)
  have hlabeled := List.length_filterMap_le Registration.label rs
  rw [List.length_map] at hgroups
  exact ⟨h, hgroups.trans_lt h, (hlabels.trans hlabeled).trans_lt h⟩

theorem faithful (form : ListedFields) : Faithful WellFormed toValue (ofValue? form) := by
  refine .intro (fun s ⟨hregistrations, hgroups, hlabels⟩ => ?_) fun v s h => ?_
  · have hfields :
        s.toValue.fields? form ["registration_count", "group_count", "label_count", "passed"] =
          some [.given (.integer s.registrationCount), .given (.integer s.groupCount),
            .given (.integer s.labelCount), .given (.bool s.passed)] :=
      fields?_namedFields form [some _, some _, some _, some _] (by decide) rfl
    -- unfolding the reader of counts would compare with the bound, so only its lemma is used
    simp only [ofValue?, hfields, Faithful.count.required_given hregistrations,
      Faithful.count.required_given hgroups, Faithful.count.required_given hlabels,
      Option.bind_eq_bind, Option.bind_some]
    rfl
  · unfold ofValue? at h
    split at h
    · simp only [Option.bind_eq_bind, Option.bind_eq_some_iff, Option.pure_def,
        Option.some.injEq] at h
      obtain ⟨registrations, hr, groups, hg, labels, hl, passed, -, rfl⟩ := h
      exact ⟨Faithful.count.inOrder_of_required hr, Faithful.count.inOrder_of_required hg,
        Faithful.count.inOrder_of_required hl⟩
    · cases h

theorem toValue_injective {s t : PlanSummary} (h : s.toValue = t.toValue) : s = t := by
  obtain ⟨registrations, groups, labels, passed⟩ := s
  obtain ⟨registrations', groups', labels', passed'⟩ := t
  simpa only [toValue, Value.record.injEq, List.cons.injEq, Prod.mk.injEq, Value.integer.injEq,
    Value.bool.injEq, Int.natCast_inj, true_and, and_true, mk.injEq] using h

end PlanSummary

namespace PlanReport

theorem notated (r : PlanReport) : Notated r.toValue := by
  refine .record fun field hfield => ?_
  simp only [List.mem_cons, List.not_mem_nil, or_false] at hfield
  rcases hfield with rfl | rfl | rfl | rfl
  · exact .text _
  · exact r.summary.notated
  · exact .list (by simp [Registration.notated])
  · exact .list (by simp [DiagnosticRecord.notated])

theorem read_toJson (r : PlanReport) : Json.read r.toJson = .ok r.toValue := read_pretty r.notated

/-- A report with counts that fit into words, on registrations such as a plan can have. -/
def WellFormed (r : PlanReport) : Prop :=
  r.summary.WellFormed ∧ ∀ x ∈ r.registrations, x.WellFormed

theorem faithful (form : ListedFields) : Faithful WellFormed toValue (ofValue? form) := by
  have hsummary := PlanSummary.faithful form
  have hregistrations := (Registration.faithful form).listOf
  have hdiagnostics := (DiagnosticRecord.faithful form).listOf
  refine .intro (fun r ⟨hs, hr⟩ => ?_) fun v r h => ?_
  · have hfields : r.toValue.fields? form ["unit", "summary", "registrations", "diagnostics"] =
        some [.given (.text r.unit), .given r.summary.toValue,
          .given (.list (r.registrations.map Registration.toValue)),
          .given (.list (r.diagnostics.map DiagnosticRecord.toValue))] :=
      fields?_namedFields form [some _, some _, some _, some _] (by decide) rfl
    simp only [ofValue?, hfields, Faithful.string.required_given trivial,
      hsummary.required_given hs, hregistrations.required_given hr,
      hdiagnostics.required_given fun _ _ => trivial, Option.bind_eq_bind, Option.bind_some]
    rfl
  · unfold ofValue? at h
    split at h
    · simp only [Option.bind_eq_bind, Option.bind_eq_some_iff, Option.pure_def,
        Option.some.injEq] at h
      obtain ⟨unit, -, summary, hs, registrations, hr, diagnostics, -, rfl⟩ := h
      exact ⟨hsummary.inOrder_of_required hs, hregistrations.inOrder_of_required hr⟩
    · cases h

/-- Reports that are written alike are the same, however many registrations they count. -/
theorem toValue_injective {r other : PlanReport} (hr : ∀ x ∈ r.registrations, x.WellFormed)
    (hother : ∀ x ∈ other.registrations, x.WellFormed) (h : r.toValue = other.toValue) :
    r = other := by
  obtain ⟨unit, summary, registrations, diagnostics⟩ := r
  obtain ⟨unit', summary', registrations', diagnostics'⟩ := other
  simp only [toValue, Value.record.injEq, List.cons.injEq, Prod.mk.injEq, Value.text.injEq,
    true_and, and_true] at h
  obtain ⟨rfl, hsummary, hregistrations, hdiagnostics⟩ := h
  obtain rfl := PlanSummary.toValue_injective hsummary
  obtain rfl := (Registration.faithful .exactly).listOf.write_injective hr hother hregistrations
  obtain rfl := (DiagnosticRecord.faithful .exactly).listOf.write_injective (by simp) (by simp)
    hdiagnostics
  rfl

/-- The text of a report is JSON and tells all of the report: it is read back as the report that was
written, as long as its registrations can be counted in a word of 64 bits, as those in memory can, and is
the text of no other report. -/
theorem toJson_lossless (unit : String) {rs : List Registration} (ds : List DiagnosticRecord)
    (hrs : ∀ r ∈ rs, r.WellFormed) :
    Json.read (ofPlan unit rs ds).toJson = .ok (ofPlan unit rs ds).toValue ∧
      (rs.length < 0x10000000000000000 → ∀ form,
        (Json.read? (ofPlan unit rs ds).toJson).bind (ofValue? form) =
          some (ofPlan unit rs ds)) ∧
      ∀ other : PlanReport, (∀ r ∈ other.registrations, r.WellFormed) →
        other.toJson = (ofPlan unit rs ds).toJson → other = ofPlan unit rs ds := by
  refine ⟨read_toJson _, fun hlength form => ?_, fun other hother htext => ?_⟩
  · rw [Json.read?, read_toJson, Except.toOption, Option.bind_some]
    exact (faithful form).read_write _ ⟨PlanSummary.wellFormed_ofPlan ds hlength, hrs⟩
  · have hread : Json.read other.toJson = Json.read (ofPlan unit rs ds).toJson := by rw [htext]
    rw [read_toJson, read_toJson] at hread
    exact toValue_injective hother hrs (Except.ok.inj hread)

/-- A store under a label with quotes, in a group of two lines. -/
def quotedRegistrations : List Registration :=
  [⟨"App\n\tStore", some "\"fast\" \\ slow", ⟨"App", "IRepo<App.Item>"⟩, ⟨"App", "Store"⟩, .scoped⟩,
   ⟨"", none, ⟨"", "Clock"⟩, ⟨"", "Clock"⟩, .singleton⟩]

def quotedDiagnostics : List DiagnosticRecord :=
  [⟨"FOUND", .info, none, "line\r\nline\x07\u2028"⟩, ⟨"", .fatal, some "\x00", "\", \""⟩]

theorem quotedReport_reread :
    (∀ r ∈ quotedRegistrations, r.WellFormed) ∧
      quotedRegistrations.length < 0x10000000000000000 ∧
      (Json.read? (ofPlan "a \"b\"\n" quotedRegistrations quotedDiagnostics).toJson).bind
          (ofValue? .exactly) =
        some (ofPlan "a \"b\"\n" quotedRegistrations quotedDiagnostics) := by
  have hrepo : TypeName.Parsed ⟨"App", "IRepo<App.Item>"⟩ :=
    ⟨"App.IRepo<App.Item>", by decide +kernel⟩
  have hstore : TypeName.Parsed ⟨"App", "Store"⟩ := ⟨"App.Store", by decide +kernel⟩
  have hclock : TypeName.Parsed ⟨"", "Clock"⟩ := ⟨" Clock ", by decide +kernel⟩
  have hquoted : ∀ r ∈ quotedRegistrations, r.WellFormed := by
    simp [quotedRegistrations, Registration.WellFormed, hrepo, hstore, hclock]
  have hlength : quotedRegistrations.length < 0x10000000000000000 := by decide
  obtain ⟨-, hreread, -⟩ := toJson_lossless "a \"b\"\n" quotedDiagnostics hquoted
  exact ⟨hquoted, hlength, hreread hlength .exactly⟩

end PlanReport

end ServiceWiring
