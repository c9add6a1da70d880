import ServiceWiring.Preview
import ServiceWiring.Proofs.ReportText
import ServiceWiring.Proofs.Scanning

/-! Printed reports, read back. A reader of the text follows its layout from the title on, and a reader
of JSON looks the fields up; both find the summary, and see whether registrations are listed. -/
namespace ServiceWiring
open ServiceWiring.Text

/-- What a report tells in either format. -/
structure ReportDigest where
  summary : PlanSummary
  lists : Bool
  deriving DecidableEq, Repr

def PlanReport.digest (r : PlanReport) : ReportDigest := ⟨r.summary, !r.registrations.isEmpty⟩

namespace ReportDigest

section Summary

/-- What stands before the numbers of a report. -/
def opening (unit : String) : String :=
  "=== Registration Plan ===\n\n" ++ "Unit: " ++ unit ++ "\n\n" ++ "--- Summary ---\n"

/-- The number behind a title, and the text after its line. -/
def readCount? (title : String) (cs : List Char) : Option (Nat × List Char) :=
  (behind? title.toList cs).bind fun cs =>
    match cs.takeWhile Char.isDigit, cs.dropWhile Char.isDigit with
    | d :: ds, '\n' :: rest => some (Json.digitsValue (d :: ds), rest)
    | _, _ => none

def countLine (title : String) (n : Nat) : String := title ++ toString n ++ "\n"

theorem readCount?_append (title : String) (n : Nat) (rest : List Char) :
    readCount? title ((countLine title n).toList ++ rest) = some (n, rest) := by
  have hline : (countLine title n).toList ++ rest =
      title.toList ++ (Nat.toDigits 10 n ++ '\n' :: rest) := by simp [countLine]
  have hends : Json.Ends ('\n' :: rest) := Json.ends_newLine 0 rest
  obtain ⟨htake, hdrop⟩ := Json.digits_apart n hends
  obtain ⟨d, ds, hdigits, -⟩ := Json.exists_toDigits n
  have hvalue : Json.digitsValue (d :: ds) = n := by rw [← hdigits, Json.digitsValue_toDigits]
  rw [hline, readCount?, behind?_append, Option.bind_some, htake, hdrop, hdigits]
  exact congrArg (fun m => some (m, rest)) hvalue

def statusLine (passed : Bool) : String :=
  "\n" ++ "Status: " ++ (if passed then "PASSED" else "FAILED") ++ "\n\n"

def readStatus? (cs : List Char) : Option (Bool × List Char) :=
  [true, false].findSome? fun passed => (behind? (statusLine passed).toList cs).map (passed, ·)

theorem readStatus?_append (passed : Bool) (rest : List Char) :
    readStatus? ((statusLine passed).toList ++ rest) = some (passed, rest) := by
  have hother := behind?_of_apart
    (by decide : apart (statusLine true).toList (statusLine false).toList = true) rest
  cases passed with
  | true => simp [readStatus?, behind?_append]
  | false => simp [readStatus?, behind?_append, hother]

example : readStatus? "\nStatus: FAILED\n\n---".toList = some (false, ['-', '-', '-']) := by decide

/-- The summary of a report on the unit, and what stands behind it. -/
def readSummary? (unit : String) (cs : List Char) : Option (PlanSummary × List Char) := do
  let cs ← behind? (opening unit).toList cs
  let (registrationCount, cs) ← readCount? "Registrations: " cs
  let (groupCount, cs) ← readCount? "  Groups:      " cs
  let (labelCount, cs) ← readCount? "  Labels:      " cs
  let (passed, rest) ← readStatus? cs
  return (⟨registrationCount, groupCount, labelCount, passed⟩, rest)

def diagnosticPart (r : PlanReport) : String :=
  PlanReport.part "Diagnostics" (String.join (r.diagnostics.map PlanReport.diagnosticLine))

/-- What stands behind the summary of a report. -/
def details (r : PlanReport) : String :=
  PlanReport.part "Registrations" (PlanReport.registrationLines none r.registrations) ++
    diagnosticPart r

theorem toText_eq (r : PlanReport) :
    r.toText = opening r.unit ++ (countLine "Registrations: " r.summary.registrationCount ++
      (countLine "  Groups:      " r.summary.groupCount ++
        (countLine "  Labels:      " r.summary.labelCount ++
          (statusLine r.summary.passed ++ details r)))) := by
  unfold PlanReport.toText opening countLine statusLine details diagnosticPart
  simp only [String.append_assoc]

/-- Whatever the unit is called, the summary of its report is read as it was printed. -/
theorem readSummary?_toText (r : PlanReport) :
    readSummary? r.unit r.toText.toList = some (r.summary, (details r).toList) := by
  rw [toText_eq]
  simp only [String.toList_append, readSummary?, behind?_append, readCount?_append,
    readStatus?_append, Option.bind_eq_bind, Option.bind_some, Option.pure_def]

end Summary

section Parts

def partLine (title : String) : String := "--- " ++ title ++ " ---\n"

/-- The lines of the part under a title, up to the blank one behind it. -/
def readPart? (title : String) (cs : List Char) : Option (List (List Char)) :=
  (behind? (partLine title).toList cs).map fun rest => (pieces '\n' rest).takeWhile (· ≠ [])

theorem part_empty (title : String) : PlanReport.part title "" = "" := if_pos (beq_self_eq_true "")

theorem part_of_ne {title body : String} (h : body ≠ "") :
    PlanReport.part title body = partLine title ++ (body ++ "\n") := by
  rw [PlanReport.part, beq_false_of_ne h, String.append_assoc]
  rfl

theorem registrationLines_ne_empty (r : Registration) (rs : List Registration) :
    PlanReport.registrationLines none (r :: rs) ≠ "" := by
  intro h
  have hlist := congrArg String.toList h
  simp [PlanReport.registrationLines, PlanReport.registrationLine] at hlist

theorem readPart?_of_nil {r : PlanReport} (h : r.registrations = []) :
    readPart? "Registrations" (details r).toList = none := by
  have hapart : apart (partLine "Registrations").toList (partLine "Diagnostics").toList = true := by
    decide
  have hnone : behind? (partLine "Registrations").toList (diagnosticPart r).toList = none := by
    rw [diagnosticPart]
    by_cases hbody : String.join (r.diagnostics.map PlanReport.diagnosticLine) = ""
    · rw [hbody, part_empty]
      rfl
    · rw [part_of_ne hbody, String.toList_append]
      exact behind?_of_apart hapart _
  rw [readPart?, details, h, PlanReport.registrationLines, part_empty, String.empty_append, hnone]
  rfl

/-- Registrations stand under their title, in lines that end before whatever else there is. -/
theorem readPart?_of_ne {r : PlanReport} (h : r.registrations ≠ []) :
    readPart? "Registrations" (details r).toList =
      some ((pieces '\n' ((PlanReport.registrationLines none r.registrations).toList ++
        '\n' :: (diagnosticPart r).toList)).takeWhile (· ≠ [])) := by
  obtain ⟨x, xs, hcons⟩ := List.exists_cons_of_ne_nil h
  have hbody := registrationLines_ne_empty x xs
  rw [← hcons] at hbody
  have hdetails : (details r).toList = (partLine "Registrations").toList ++
      ((PlanReport.registrationLines none r.registrations).toList ++
        '\n' :: (diagnosticPart r).toList) := by
    rw [details, part_of_ne hbody]
    simp only [String.toList_append, List.append_assoc]
    rfl
  rw [readPart?, hdetails, behind?_append, Option.map_some]

/-- Registrations are listed where there are any. -/
theorem isSome_readPart?_details (r : PlanReport) :
    (readPart? "Registrations" (details r).toList).isSome = !r.registrations.isEmpty := by
  by_cases h : r.registrations = []
  · rw [readPart?_of_nil h, h]
    rfl
  · rw [readPart?_of_ne h, List.isEmpty_eq_false_iff.mpr h]
    rfl

end Parts

/-- What is read from the text of a report on the unit. -/
def ofText? (unit text : String) : Option ReportDigest :=
  (readSummary? unit text.toList).map fun read => ⟨read.1, (readPart? "Registrations" read.2).isSome⟩

theorem ofText?_toText (r : PlanReport) : ofText? r.unit r.toText = some r.digest := by
  rw [ofText?, readSummary?_toText, Option.map_some, isSome_readPart?_details]
  rfl

/-- What is read from a report as data. -/
def ofValue? (v : Value) : Option ReportDigest :=
  match v.fields? .never ["summary", "registrations"] with
  | some [.given summary, .given (.list registrations)] =>
    match summary.fields? .never
      ["registration_count", "group_count", "label_count", "passed"] with
    | some [.given (.integer registrationCount), .given (.integer groupCount),
        .given (.integer labelCount), .given (.bool passed)] =>
      some ⟨⟨registrationCount.toNat, groupCount.toNat, labelCount.toNat, passed⟩,
        !registrations.isEmpty⟩
    | _ => none
  | _ => none

theorem ofValue?_toValue (r : PlanReport) : ofValue? r.toValue = some r.digest := by
  have hfields : r.toValue.fields? .never ["summary", "registrations"] =
      some [.given r.summary.toValue, .given (.list (r.registrations.map Registration.toValue))] := by
    rfl
  have hsummary : r.summary.toValue.fields? .never
      ["registration_count", "group_count", "label_count", "passed"] =
      some [.given (.integer r.summary.registrationCount), .given (.integer r.summary.groupCount),
        .given (.integer r.summary.labelCount), .given (.bool r.summary.passed)] := by
    rfl
  simp [ofValue?, hfields, hsummary, PlanReport.digest]

end ReportDigest

/-- What is read from the output of a preview of the unit. -/
def ReportFormat.digest? (format : ReportFormat) (unit output : String) : Option ReportDigest :=
  match format with
  | .text => ReportDigest.ofText? unit output
  | .json => (Json.read? output).bind ReportDigest.ofValue?

/-- What is printed as JSON is read as the value that the report is written as. -/
theorem PlanReport.read?_render_json (r : PlanReport) :
    Json.read? (ReportFormat.json.render r) = some r.toValue := by
  rw [ReportFormat.render, Json.read?, toJson, Json.read_pretty_newline r.notated]
  rfl

/-- Every report tells what it says, in either format and whatever its texts are. -/
theorem ReportFormat.digest?_render (format : ReportFormat) (r : PlanReport) :
    format.digest? r.unit (format.render r) = some r.digest := by
  cases format with
  | text => exact ReportDigest.ofText?_toText r
  | json =>
    rw [digest?, r.read?_render_json]
    exact ReportDigest.ofValue?_toValue r

/-- A line about registrations: the heading of a group, or a registration under it. -/
inductive ReportLine where
  | heading (group : String)
  | registration (r : Registration)

namespace ReportLine

def text : ReportLine → String
  | .heading g => "  " ++ g ++ "\n"
  | .registration r => PlanReport.registrationLine r

def heading? : ReportLine → Option String
  | .heading g => some g
  | .registration _ => none

@[simp] theorem heading?_heading (g : String) : (heading g).heading? = some g := rfl

@[simp] theorem heading?_registration (r : Registration) : (registration r).heading? = none := rfl

/-- What stands in the line. -/
def body : ReportLine → String
  | .heading g => "  " ++ g
  | .registration r =>
    "    [" ++ r.lifetime.name ++ "] " ++ r.service.qualified ++ " -> " ++
      r.implementation.qualified ++ ((r.label.map (" #" ++ ·)).getD "")

theorem text_eq (line : ReportLine) : line.text = line.body ++ "\n" := by cases line <;> rfl

theorem body_ne_nil (line : ReportLine) : line.body.toList ≠ [] := by
  cases line <;> simp [body]

/-- The group in a line that is indented by two blanks and no more. -/
def headingOf? (line : List Char) : Option String :=
  (behind? "  ".toList line).bind fun rest =>
    if rest.head? = some ' ' then none else some (String.ofList rest)

end ReportLine

namespace PlanReport

/-- The lines about registrations, below the heading that is the current one. -/
def reportLines (current : Option String) : List Registration → List ReportLine
  | [] => []
  | r :: rest =>
    (if current = some r.group then [] else [.heading r.group]) ++
      .registration r :: reportLines (some r.group) rest

theorem registrationLines_eq (current : Option String) (rs : List Registration) :
    registrationLines current rs =
      String.join ((reportLines current rs).map ReportLine.text) := by
  induction rs generalizing current with
  | nil => rfl
  | cons r rest ih =>
    rw [registrationLines, reportLines, ih]
    split <;> simp [ReportLine.text, String.append_assoc]

/-- The headings of a report on the registrations, from first to last. -/
def headings (rs : List Registration) : List String :=
  (reportLines none rs).filterMap ReportLine.heading?

end PlanReport

/-- Nothing in the registration breaks its line, and its group does not look further indented. -/
structure Registration.Legible (r : Registration) : Prop where
  group : SingleLine r.group
  group_visible : r.group.toList.head? ≠ some ' '
  service : SingleLine r.service.qualified
  implementation : SingleLine r.implementation.qualified
  label : ∀ l ∈ r.label, SingleLine l

instance (r : Registration) : Decidable r.Legible :=
  decidable_of_iff (SingleLine r.group ∧ r.group.toList.head? ≠ some ' ' ∧
      SingleLine r.service.qualified ∧ SingleLine r.implementation.qualified ∧
      ∀ l ∈ r.label, SingleLine l)
    ⟨fun ⟨hgroup, hvisible, hservice, himplementation, hlabel⟩ =>
      ⟨hgroup, hvisible, hservice, himplementation, hlabel⟩,
      fun h => ⟨h.group, h.group_visible, h.service, h.implementation, h.label⟩⟩

namespace ReportLine

/-- Lines of legible registrations. -/
def Legible : ReportLine → Prop
  | .heading g => SingleLine g ∧ g.toList.head? ≠ some ' '
  | .registration r => r.Legible

theorem Legible.singleLine {line : ReportLine} (h : line.Legible) : SingleLine line.body := by
  cases line with
  | heading g => simpa [body, SingleLine] using h.1
  | registration r =>
    obtain ⟨-, -, hservice, himplementation, hlabel⟩ := h
    cases hlifetime : r.lifetime <;> cases hl : r.label <;>
      simp_all [body, SingleLine, Lifetime.name]

/-- Only headings are read as headings. -/
theorem Legible.headingOf?_body {line : ReportLine} (h : line.Legible) :
    headingOf? line.body.toList = line.heading? := by
  cases line with
  | heading g =>
    rw [headingOf?, body, String.toList_append, behind?_append, Option.bind_some, if_neg h.2,
      String.ofList_toList, heading?_heading]
  | registration r => simp [headingOf?, body, behind?]

theorem legible_of_mem_reportLines (current : Option String) {rs : List Registration}
    (h : ∀ r ∈ rs, r.Legible) : ∀ line ∈ PlanReport.reportLines current rs, line.Legible := by
  induction rs generalizing current with
  | nil => exact List.forall_mem_nil _
  | cons r rest ih =>
    obtain ⟨hr, hrest⟩ := List.forall_mem_cons.mp h
    have hlines : ∀ line ∈ registration r :: PlanReport.reportLines (some r.group) rest,
        line.Legible := List.forall_mem_cons.mpr ⟨hr, ih (some r.group) hrest⟩
    rw [PlanReport.reportLines]
    split
    · exact hlines
    · exact List.forall_mem_cons.mpr ⟨⟨hr.group, hr.group_visible⟩, hlines⟩

/-- Lines before a blank one are found again. -/
theorem takeWhile_pieces {lines : List ReportLine} (h : ∀ line ∈ lines, line.Legible)
    (rest : List Char) :
    (pieces '\n' ((String.join (lines.map text)).toList ++ '\n' :: rest)).takeWhile (· ≠ []) =
      lines.map fun line => line.body.toList := by
  induction lines with
  | nil => simp [pieces]
  | cons line lines ih =>
    obtain ⟨hline, hlines⟩ := List.forall_mem_cons.mp h
    have hsplit : (String.join ((line :: lines).map text)).toList ++ '\n' :: rest =
        line.body.toList ++ '\n' :: ((String.join (lines.map text)).toList ++ '\n' :: rest) := by
      simp [text_eq, String.toList_join]
    have hne := line.body_ne_nil
    rw [hsplit, pieces_append hline.singleLine, List.takeWhile_cons_of_pos (by simpa using hne),
      ih hlines, List.map_cons]

end ReportLine

/-- The headings that are read in the text of a report on the unit. -/
def ReportDigest.headingsOf? (unit text : String) : Option (List String) :=
  (readSummary? unit text.toList).map fun read =>
    ((readPart? "Registrations" read.2).getD []).filterMap ReportLine.headingOf?

/-- The text of a report shows its headings, one after another. -/
theorem ReportDigest.headingsOf?_toText (r : PlanReport) (h : ∀ x ∈ r.registrations, x.Legible) :
    headingsOf? r.unit r.toText = some (PlanReport.headings r.registrations) := by
  have hlegible := ReportLine.legible_of_mem_reportLines none h
  rw [headingsOf?, readSummary?_toText, Option.map_some]
  by_cases hnil : r.registrations = []
  · rw [readPart?_of_nil hnil, hnil]
    rfl
  · rw [readPart?_of_ne hnil, Option.getD_some, PlanReport.registrationLines_eq,
      ReportLine.takeWhile_pieces hlegible, List.filterMap_map, PlanReport.headings]
    refine congrArg some (List.filterMap_congr fun line hline => ?_)
    exact (hlegible line hline).headingOf?_body

/-- The output tells what a report on the unit says: its digest in either format, its headings where
nothing in the text looks like another, and all of it as data. -/
structure ReportFormat.Shows (format : ReportFormat) (unit : String) (report : PlanReport)
    (output : String) : Prop where
  digest : format.digest? unit output = some report.digest
  headings : format = .text → (∀ r ∈ report.registrations, r.Legible) →
    ReportDigest.headingsOf? unit output = some (PlanReport.headings report.registrations)
  reread : format = .json → report.WellFormed → ∀ form,
    (Json.read? output).bind (PlanReport.ofValue? form) = some report

theorem ReportFormat.shows_render (format : ReportFormat) (r : PlanReport) :
    format.Shows r.unit r (format.render r) := by
  refine ⟨format.digest?_render r, ?_, ?_⟩
  · rintro rfl hlegible
    exact ReportDigest.headingsOf?_toText r hlegible
  · rintro rfl hr form
    rw [r.read?_render_json, Option.bind_some]
    exact (PlanReport.faithful form).read_write r hr

end ServiceWiring
