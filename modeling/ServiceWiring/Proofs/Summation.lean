import ServiceWiring.Proofs.Separation

/-! Batches against their manifests one by one. What is printed for several is what is printed for each
of them alone, one after another, and what fails are those that fail alone. -/
namespace ServiceWiring

/-- The same request for one of the manifests, its document to be printed. -/
def BatchRequest.alone (r : BatchRequest) (manifest : String) : BatchRequest :=
  { r with manifests := [manifest], directory := none }

namespace Batch

/-- The receipts for runs whose documents are printed. -/
def printReceipt : Except Failure UnitRun → Receipt
  | .error failure => .failed failure
  | .ok ⟨_, _, none⟩ => .nothing
  | .ok ⟨_, _, some d⟩ => .printed d.text

theorem deliverAll_print (t : FileTree) (runs : List (Except Failure UnitRun)) :
    deliverAll t (runs.map (delivery none)) = (t, runs.map printReceipt) := by
  induction runs with
  | nil => rfl
  | cons run runs ih =>
    have hrun : deliver t (delivery none run) = (t, printReceipt run) := by
      obtain failure | ⟨manifest, unit, _ | d⟩ := run <;> rfl
    simp only [List.map_cons, deliverAll, hrun, ih]

theorem generate_print {r : BatchRequest} {g : GeneratorSettings} {dialect : Dialect}
    (t : FileTree) (hdialect : Dialect.find (r.dialect.getD g.dialect) = .ok dialect)
    (hdirectory : r.directory = none) :
    generate t r g = (t, conclude
      ((r.manifests.map (run t.readText dialect (BatchRequest.settings r g))).map printReceipt)) := by
  rw [generate_of_find hdialect, hdirectory]
  simp only [deliveries, deliverAll_print]

/-- The outcome of a single manifest whose document is printed. -/
def printOutcome : Except Failure UnitRun → Outcome
  | .error failure => ⟨"", .error ⟨"1 of 1 manifests failed: " ++ failure.summary, []⟩⟩
  | .ok ⟨_, _, none⟩ => ⟨"", .ok ⟨[], 0, 1⟩⟩
  | .ok ⟨_, _, some d⟩ => ⟨d.text, .ok ⟨[], 1, 0⟩⟩

theorem conclude_printReceipt (run : Except Failure UnitRun) :
    conclude [printReceipt run] = printOutcome run := by
  obtain failure | ⟨manifest, unit, _ | d⟩ := run
  · have hcounts : Nat.repr 1 ++ " of " ++ Nat.repr 1 ++ " manifests failed: " =
        "1 of 1 manifests failed: " := by decide
    simp [conclude, printReceipt, printOutcome, Receipt.failure?, Receipt.text?, Text.joined,
      List.filterMap_cons, hcounts]
  · rfl
  · simp [conclude, printReceipt, printOutcome, Receipt.failure?, Receipt.text?, Receipt.path?]

theorem generate_alone {r : BatchRequest} {g : GeneratorSettings} {dialect : Dialect}
    (t : FileTree) (hdialect : Dialect.find (r.dialect.getD g.dialect) = .ok dialect)
    (manifest : String) :
    generate t (r.alone manifest) g =
      (t, printOutcome (run t.readText dialect (BatchRequest.settings r g) manifest)) := by
  rw [generate_print (r := r.alone manifest) t hdialect rfl]
  exact congrArg (Prod.mk t) (conclude_printReceipt _)

/-- Every receipt is counted once. -/
theorem length_receipts (receipts : List Receipt) :
    (receipts.filterMap Receipt.path?).length + (receipts.filterMap Receipt.text?).length +
        receipts.count .nothing + (receipts.filterMap Receipt.failure?).length =
      receipts.length := by
  induction receipts with
  | nil => rfl
  | cons receipt receipts ih =>
    cases receipt <;>
      simp [Receipt.path?, Receipt.text?, Receipt.failure?, List.filterMap_cons] <;> omega

theorem conclude_of_nil {receipts : List Receipt}
    (h : receipts.filterMap Receipt.failure? = []) :
    (conclude receipts).result = .ok {
      written := receipts.filterMap Receipt.path?
      printed := (receipts.filterMap Receipt.text?).length
      empty := receipts.count .nothing } := by
  simp [conclude, h]

theorem conclude_of_ne_nil {receipts : List Receipt}
    (h : receipts.filterMap Receipt.failure? ≠ []) :
    (conclude receipts).result =
      .error ⟨toString (receipts.filterMap Receipt.failure?).length ++ " of " ++
        toString receipts.length ++ " manifests failed: " ++
        Text.joined "; " ((receipts.filterMap Receipt.failure?).map Failure.summary), []⟩ := by
  simp [conclude, h]

/-- A batch succeeds exactly if nothing in it failed, and then counts all that was delivered. -/
theorem conclude_eq_ok_iff {receipts : List Receipt} {summary : Summary} :
    (conclude receipts).result = .ok summary ↔
      receipts.filterMap Receipt.failure? = [] ∧
        summary = ⟨receipts.filterMap Receipt.path?, (receipts.filterMap Receipt.text?).length,
          receipts.count .nothing⟩ := by
  by_cases h : receipts.filterMap Receipt.failure? = []
  · simp [conclude_of_nil h, h, eq_comm (a := summary)]
  · simp [conclude_of_ne_nil h, h]

theorem isOk_conclude {receipts : List Receipt} :
    (conclude receipts).result.isOk ↔ receipts.filterMap Receipt.failure? = [] := by
  by_cases h : receipts.filterMap Receipt.failure? = []
  · simp [conclude_of_nil h, h, Except.toBool]
  · simp [conclude_of_ne_nil h, h, Except.toBool]

/-- Why a run failed, if it did. -/
def failureText? : Except Failure UnitRun → Option String
  | .error failure => some failure.summary
  | .ok _ => none

namespace Outcome

/-- Why a batch failed, if it did. -/
def failureText? (o : Outcome) : Option String :=
  match o.result with
  | .error failure => some failure.summary
  | .ok _ => none

/-- How many documents have been printed, none if the batch fails. -/
def printed (o : Outcome) : Nat :=
  match o.result with
  | .ok summary => summary.printed
  | .error _ => 0

end Outcome

section Runs
variable (runs : List (Except Failure UnitRun))

theorem join_texts_print :
    String.join ((runs.map printReceipt).filterMap Receipt.text?) =
      String.join (runs.map fun run => (printOutcome run).output) := by
  induction runs with
  | nil => rfl
  | cons run runs ih =>
    obtain failure | ⟨manifest, unit, _ | d⟩ := run <;>
      simp only [List.map_cons, printReceipt, printOutcome, Receipt.text?, List.filterMap_cons,
        String.join_cons, String.empty_append, ih]

theorem paths_print : (runs.map printReceipt).filterMap Receipt.path? = [] := by
  simp only [List.filterMap_eq_nil_iff, List.mem_map]
  rintro receipt ⟨failure | ⟨manifest, unit, _ | d⟩, -, rfl⟩ <;> rfl

theorem isSome_failure?_printReceipt (run : Except Failure UnitRun) :
    (printReceipt run).failure?.isSome = !(printOutcome run).result.isOk := by
  obtain failure | ⟨manifest, unit, _ | d⟩ := run <;> rfl

theorem summary_failure?_printReceipt (run : Except Failure UnitRun) :
    (printReceipt run).failure?.map Failure.summary = failureText? run := by
  obtain failure | ⟨manifest, unit, _ | d⟩ := run <;> rfl

theorem failureText?_printOutcome (run : Except Failure UnitRun) :
    (printOutcome run).failureText? =
      (failureText? run).map ("1 of 1 manifests failed: " ++ ·) := by
  obtain failure | ⟨manifest, unit, _ | d⟩ := run
  · simp [printOutcome, failureText?, Outcome.failureText?, Failure.summary]
  · rfl
  · rfl

end Runs

/-- What came of a run whose document is to be saved, seen from the tree in the end. -/
inductive Delivered (after : FileTree) : Except Failure UnitRun → Receipt → Prop
  | failed (failure : Failure) : Delivered after (.error failure) (.failed failure)
  | nothing (manifest unit : String) : Delivered after (.ok ⟨manifest, unit, none⟩) .nothing
  | written (manifest unit : String) {d : Document} {path : String}
    (hread : after.readText path = .ok d.text) :
    Delivered after (.ok ⟨manifest, unit, some d⟩) (.written path)
  | refused (manifest unit : String) (d : Document) (e : Error) :
    Delivered after (.ok ⟨manifest, unit, some d⟩) (.failed (saveFailure manifest e))

theorem delivered_of_settled {out : String} {before after : FileTree}
    {runs : List (Except Failure UnitRun)} {ds : List Delivery} {receipts : List Receipt}
    (hnested : List.Forall₂ (Nested out) runs ds)
    (hsettled : List.Forall₂ (Settled before after) ds receipts) :
    List.Forall₂ (Delivered after) runs receipts := by
  induction hnested generalizing receipts with
  | nil =>
    cases hsettled
    exact .nil
  | cons hrun _ ih =>
    obtain _ | ⟨hdelivery, hsettled⟩ := hsettled
    refine .cons ?_ (ih hsettled)
    cases hrun with
    | fail failure =>
      cases hdelivery
      exact .failed failure
    | nothing manifest unit =>
      cases hdelivery
      exact .nothing manifest unit
    | save manifest unit d hname =>
      cases hdelivery with
      | written hadmits hread => exact .written manifest unit hread
      | refused e hadmits => exact .refused manifest unit d e

/-- A single document goes into the directory itself. -/
theorem delivered_single {directory hint : String} {run : Except Failure UnitRun} (t : FileTree)
    (hhint : Path.IsPart hint)
    (hnamed : ∀ u d, run = .ok u → u.document = some d → d.hintName = hint) :
    Delivered (deliver t (delivery (some directory) run)).1 run
      (deliver t (delivery (some directory) run)).2 := by
  obtain failure | ⟨manifest, unit, _ | d⟩ := run
  · exact .failed failure
  · exact .nothing manifest unit
  · have hname : Path.IsPart d.hintName := hnamed _ d rfl rfl ▸ hhint
    simp only [delivery, deliver]
    cases hsaved : (t.save directory d).2 with
    | error e => exact .refused manifest unit d e
    | ok path => exact .written manifest unit (FileTree.readText_of_save hname hsaved)

theorem delivered_few {directory hint : String} {runs : List (Except Failure UnitRun)}
    (t : FileTree) (hfew : runs.length ≤ 1) (hhint : Path.IsPart hint)
    (hnamed : ∀ run ∈ runs, ∀ u d, run = .ok u → u.document = some d → d.hintName = hint) :
    List.Forall₂ (Delivered (deliverAll t (runs.map (delivery (some directory)))).1) runs
      (deliverAll t (runs.map (delivery (some directory)))).2 := by
  match runs with
  | [] => exact .nil
  | [run] => exact .cons (delivered_single t hhint (hnamed run List.mem_cons_self)) .nil
  | _ :: _ :: _ => simp at hfew

/-- With a directory every manifest is delivered on its own, whether there are several or not. -/
theorem generate_directory {r : BatchRequest} {g : GeneratorSettings} {dialect : Dialect}
    (t : FileTree) (hdialect : Dialect.find (r.dialect.getD g.dialect) = .ok dialect)
    (out : String) :
    ∃ after receipts, generate t { r with directory := some out } g = (after, conclude receipts) ∧
      List.Forall₂ (Delivered after)
        (r.manifests.map (run t.readText dialect (BatchRequest.settings r g))) receipts := by
  by_cases hmany : 1 < r.manifests.length
  · obtain ⟨ds, receipts, after, hgenerate, hnested, -, hsettled⟩ :=
      generate_nested (r := { r with directory := some out }) hdialect rfl hmany
    exact ⟨after, receipts, hgenerate, delivered_of_settled hnested hsettled⟩
  · have hgenerate := generate_of_find (t := t) (r := { r with directory := some out }) hdialect
    simp only [deliveries, List.length_map, if_neg hmany] at hgenerate
    refine ⟨_, _, hgenerate, delivered_few t (by simpa using hmany) dialect.isPart_hintName ?_⟩
    intro run hrun u d hok hd
    obtain ⟨manifest, -, rfl⟩ := List.mem_map.mp hrun
    exact hintName_of_run hok hd

/-- If nothing failed, then what is written are the documents, in the order of the manifests. -/
theorem written_of_delivered {after : FileTree} {runs : List (Except Failure UnitRun)}
    {receipts : List Receipt} (h : List.Forall₂ (Delivered after) runs receipts)
    (hfailures : receipts.filterMap Receipt.failure? = []) :
    receipts.filterMap Receipt.text? = [] ∧
      List.Forall₂ (fun run path => after.readText path = .ok (printOutcome run).output)
        (runs.filter fun run => (printOutcome run).printed == 1)
        (receipts.filterMap Receipt.path?) := by
  induction h with
  | nil => exact ⟨rfl, .nil⟩
  | cons hrun _ ih =>
    cases hrun with
    | failed failure => cases hfailures
    | refused manifest unit d e => cases hfailures
    | nothing manifest unit => exact ih hfailures
    | written manifest unit hread =>
      obtain ⟨htexts, hpaths⟩ := ih hfailures
      exact ⟨htexts, .cons hread hpaths⟩

/-- A batch that is printed is the sum of what its manifests come to alone. -/
structure SumOf (manifests : List String) (alone : String → Outcome)
    (text? : String → Option String) (whole : Outcome) : Prop where
  output : whole.output = String.join (manifests.map fun manifest => (alone manifest).output)
  isOk_iff : whole.result.isOk ↔ ∀ manifest ∈ manifests, (alone manifest).result.isOk
  counted : ∀ summary, whole.result = .ok summary →
    summary.written = [] ∧ summary.printed + summary.empty = manifests.length
  failed : ∀ failure, whole.result = .error failure → failure.summary =
    toString (manifests.countP fun manifest => !(alone manifest).result.isOk) ++ " of " ++
      toString manifests.length ++ " manifests failed: " ++
      Text.joined "; " (manifests.filterMap text?)

theorem sumOf_print (look : String → Except FileFault String) (dialect : Dialect)
    (g : GeneratorSettings) (manifests : List String) :
    SumOf manifests (fun manifest => printOutcome (run look dialect g manifest))
      (fun manifest => failureText? (run look dialect g manifest))
      (conclude ((manifests.map (run look dialect g)).map printReceipt)) := by
  have hfailed (manifest : String) : (printReceipt (run look dialect g manifest)).failure?.isSome =
      !(printOutcome (run look dialect g manifest)).result.isOk := isSome_failure?_printReceipt _
  have hlength : (((manifests.map (run look dialect g)).map printReceipt).filterMap
      Receipt.failure?).length =
        manifests.countP fun m => !(printOutcome (run look dialect g m)).result.isOk := by
    simp only [List.length_filterMap_eq_countP, List.countP_map, Function.comp_def, hfailed]
  have htexts : (((manifests.map (run look dialect g)).map printReceipt).filterMap
      Receipt.failure?).map Failure.summary =
        manifests.filterMap fun manifest => failureText? (run look dialect g manifest) := by
    simp only [List.map_filterMap, List.filterMap_map, Function.comp_def,
      summary_failure?_printReceipt]
  refine ⟨?_, ?_, fun summary hok => ?_, fun failure herror => ?_⟩
  · simp only [conclude]
    rw [join_texts_print, List.map_map]
    rfl
  · rw [isOk_conclude, ← List.length_eq_zero_iff, hlength, List.countP_eq_zero]
    simp
  · obtain ⟨hnil, rfl⟩ := conclude_eq_ok_iff.mp hok
    have hcounts := length_receipts ((manifests.map (run look dialect g)).map printReceipt)
    simp only [hnil, paths_print, List.length_map, List.length_nil] at hcounts
    refine ⟨paths_print _, ?_⟩
    simp only
    omega
  · have hne : ((manifests.map (run look dialect g)).map printReceipt).filterMap
        Receipt.failure? ≠ [] := fun hnil => by
      rw [conclude_of_nil hnil] at herror
      cases herror
    rw [conclude_of_ne_nil hne, hlength, htexts] at herror
    obtain rfl := Except.error.inj herror
    simp [Failure.summary]

/-- Each manifest has the same part in a batch as it has alone. What is printed are the documents of
all, in turn, and no failure stands in the way of another manifest; and a document that is saved is
the one that would have been printed. -/
theorem generate_sum (t : FileTree) (r : BatchRequest) (g : GeneratorSettings) :
    let alone (manifest : String) := (generate t (r.alone manifest) g).2
    match Dialect.find (r.dialect.getD g.dialect) with
    | .error e => generate t r g = (t, ⟨"", .error (.ofError e)⟩)
    | .ok dialect =>
      let text? (manifest : String) :=
        failureText? (run t.readText dialect (BatchRequest.settings r g) manifest)
      (∀ manifest, (alone manifest).failureText? =
        (text? manifest).map ("1 of 1 manifests failed: " ++ ·)) ∧
      (generate t { r with directory := none } g).1 = t ∧
      SumOf r.manifests alone text? (generate t { r with directory := none } g).2 ∧
      ∀ out, let saved := generate t { r with directory := some out } g
        ∀ summary, saved.2.result = .ok summary →
          summary.printed = 0 ∧ summary.written.length + summary.empty = r.manifests.length ∧
          List.Forall₂ (fun manifest path => saved.1.readText path = .ok (alone manifest).output)
            (r.manifests.filter fun manifest => (alone manifest).printed == 1) summary.written := by
  intro alone
  cases hdialect : Dialect.find (r.dialect.getD g.dialect) with
  | error e => exact generate_of_find_error hdialect
  | ok dialect =>
    have halone : alone = fun manifest =>
        printOutcome (run t.readText dialect (BatchRequest.settings r g) manifest) := by
      funext manifest
      simp only [alone, generate_alone t hdialect]
    have hprinted := generate_print (r := { r with directory := none }) (g := g) t hdialect rfl
    simp only [halone, hprinted]
    refine ⟨fun manifest => failureText?_printOutcome _, trivial, sumOf_print _ _ _ _,
      fun out summary hok => ?_⟩
    obtain ⟨after, receipts, hsaved, hdelivered⟩ := generate_directory (g := g) t hdialect out
    rw [hsaved] at hok ⊢
    obtain ⟨hnil, rfl⟩ := conclude_eq_ok_iff.mp hok
    obtain ⟨htexts, hwritten⟩ := written_of_delivered hdelivered hnil
    have hcounts := length_receipts receipts
    have hlength := hdelivered.length_eq
    rw [hnil, htexts] at hcounts
    rw [List.length_map] at hlength
    rw [List.filter_map, List.forall₂_map_left_iff] at hwritten
    refine ⟨by simp [htexts], ?_, hwritten⟩
    simp only [List.length_nil] at hcounts ⊢
    omega

end Batch

end ServiceWiring
