import Mathlib.Data.List.Basic
import ServiceWiring.Proofs.Encounter

/-! What a pass tells its sink: that it began, what it found on each type, which annotations are
invalid, and how it ended. -/
namespace ServiceWiring

/-- What is told of an annotation of a type: nothing, unless it cannot be resolved. -/
def invalidMark? (kinds : KindRegistry) (t : DeclaredType) (a : Mark) : Option Diagnostic :=
  match kinds.resolve t.name.qualified a with
  | .ok _ => none
  | .error e => some (.invalidMark t.name.qualified a.tag e.fault.message)

/-- What is told of a type: the tags found on it and then its invalid annotations. A type without
recognized annotations leaves no trace. -/
def typeTrace (kinds : KindRegistry) (t : DeclaredType) : List Diagnostic :=
  match Pass.recognized kinds t with
  | [] => []
  | a :: rest =>
    .found t.name.qualified (Text.joined ", " ((a :: rest).map Mark.tag)) ::
      (a :: rest).filterMap (invalidMark? kinds t)

/-- The errors of the recognized annotations that cannot be resolved, in order. -/
def markErrors (kinds : KindRegistry) (types : List DeclaredType) : List MarkError :=
  types.flatMap fun t => (Pass.recognized kinds t).filterMap fun a =>
    match kinds.resolve t.name.qualified a with
    | .ok _ => none
    | .error e => some e

/-- The diagnostics up to the first one about an invalid annotation, and that one. -/
def throughInvalid : List Diagnostic → List Diagnostic
  | [] => []
  | .invalidMark typeName tag reason :: _ => [.invalidMark typeName tag reason]
  | d :: rest => d :: throughInvalid rest

/-- The diagnostics of a pass that are not about its end. -/
def passTrace (kinds : KindRegistry) (options : PassOptions) (types : List DeclaredType) :
    List Diagnostic :=
  let all := types.flatMap (typeTrace kinds)
  match options.invalid with
  | .abort => throughInvalid all
  | .skip => all

namespace Encounter
variable {kinds : KindRegistry}

private theorem report?_mark (t : DeclaredType) (a : Mark) :
    report? kinds (.mark t a) = invalidMark? kinds t a := by
  unfold invalidMark?
  split
  · next d h => simp [report?, error?, h]
  · next e h =>
    obtain ⟨hname, htag⟩ := KindRegistry.error_of_resolve h
    simp [report?, error?, h, hname, htag]

theorem reports_ofTypes (types : List DeclaredType) :
    (types.flatMap (ofType kinds)).filterMap (report? kinds) = types.flatMap (typeTrace kinds) := by
  rw [List.filterMap_flatMap]
  refine List.flatMap_congr fun t _ => ?_
  rw [ofType, typeTrace]
  cases h : Pass.recognized kinds t with
  | nil => rfl
  | cons a rest =>
    have hmarks : report? kinds ∘ Encounter.mark t = invalidMark? kinds t := by
      funext b
      exact report?_mark t b
    simp only [List.filterMap_cons, report?, h, List.filterMap_map, hmarks]

theorem errors_ofTypes (types : List DeclaredType) :
    errors kinds (types.flatMap (ofType kinds)) = markErrors kinds types := by
  rw [errors, List.filterMap_flatMap, markErrors]
  refine List.flatMap_congr fun t _ => ?_
  unfold ofType
  split
  · next h => simp [h]
  · next a rest h =>
    rw [List.filterMap_cons_none rfl, List.filterMap_map, h]
    rfl

/-- Of encounters without an error nothing invalid is told. -/
theorem throughInvalid_append {xs : List Encounter} (ds : List Diagnostic)
    (h : ∀ x ∈ xs, x.error? kinds = none) :
    throughInvalid (xs.filterMap (report? kinds) ++ ds) =
      xs.filterMap (report? kinds) ++ throughInvalid ds := by
  induction xs with
  | nil => rfl
  | cons x xs ih =>
    have ih := ih fun y hy => h y (List.mem_cons_of_mem x hy)
    cases x with
    | type t => simp [report?, throughInvalid, ih]
    | mark t a =>
      have hr : report? kinds (.mark t a) = none := by
        simp [report?, h (.mark t a) List.mem_cons_self]
      rw [List.filterMap_cons_none hr, ih]

/-- What a walk over types tells, and what it comes to. -/
theorem walk_ofTypes (options : PassOptions) (types : List DeclaredType) :
    let walked := walk kinds options (types.flatMap (ofType kinds))
    walked.diagnostics = passTrace kinds options types ∧
      match options.invalid, markErrors kinds types with
      | .abort, e :: _ => walked.result = .error (.unresolved e)
      | _, _ => ∃ rs, walked.result = .ok rs := by
  rw [← errors_ofTypes]
  simp only [passTrace, ← reports_ofTypes]
  generalize types.flatMap (ofType kinds) = xs
  cases hp : options.invalid with
  | skip =>
    rw [walk_complete xs fun ha => by simp [hp] at ha]
    exact ⟨rfl, _, rfl⟩
  | abort =>
    cases he : errors kinds xs with
    | nil =>
      have hnone := errors_eq_nil.mp he
      have hall := throughInvalid_append [] hnone
      rw [walk_complete xs fun _ => hnone]
      exact ⟨by simpa [throughInvalid] using hall.symm, _, rfl⟩
    | cons e rest =>
      obtain ⟨before, t, a, after, rfl, hbefore, ha⟩ := split_of_errors he
      rw [walk_stopped after hp hbefore ha]
      refine ⟨?_, rfl⟩
      have hr : report? kinds (.mark t a) =
          some (.invalidMark e.typeName e.tag e.fault.message) := by simp [report?, ha]
      simp [throughInvalid_append _ hbefore, hr, throughInvalid]

end Encounter

namespace Pass
variable (sink : List Diagnostic) (dialect : Dialect) (s : Scaffold) {options : PassOptions}
  {u : BuildUnit}

theorem runInto_of_error {e : Error} (h : (plan options u).result = .error e) :
    runInto sink dialect s options u = ⟨sink ++ (plan options u).diagnostics, .error e⟩ := by
  simp [runInto, run, h]

theorem runInto_of_ok {rs : List Registration} (h : (plan options u).result = .ok rs) :
    runInto sink dialect s options u =
      ⟨sink ++ (plan options u).diagnostics ++ [conclusion u ⟨rs, emit dialect s rs⟩],
        .ok ⟨rs, emit dialect s rs⟩⟩ := by
  simp [runInto, run, h]

end Pass

/-- A run appends to its sink that it started, then without kinds that the base kind is missing, and
otherwise the trace of its types and, unless an invalid annotation has ended it, one last word. A
plan tells the same up to that word. -/
theorem runInto_trace (sink : List Diagnostic) (dialect : Dialect) (s : Scaffold)
    (options : PassOptions) (u : BuildUnit) :
    let planned := Pass.plan options u
    let ran := Pass.runInto sink dialect s options u
    match u.kinds with
    | none =>
      planned.diagnostics = [.started u.name, .missingBaseKind "Injectable"] ∧
        planned.result = .error (.missingBaseKind "Injectable") ∧
        ran.diagnostics = sink ++ planned.diagnostics ∧
        ran.result = .error (.missingBaseKind "Injectable")
    | some kinds =>
      planned.diagnostics = .started u.name :: passTrace kinds options u.types ∧
        match options.invalid, markErrors kinds u.types with
        | .abort, e :: _ =>
          planned.result = .error (.unresolved e) ∧
            ran.diagnostics = sink ++ planned.diagnostics ∧
            ran.result = .error (.unresolved e)
        | _, _ =>
          ∃ rs document, planned.result = .ok rs ∧ ran.result = .ok ⟨rs, document⟩ ∧
            match document with
            | none =>
              rs = [] ∧ ran.diagnostics = sink ++ planned.diagnostics ++ [.emptyResult u.name]
            | some d =>
              rs ≠ [] ∧ ran.diagnostics = sink ++ planned.diagnostics ++
                [.generated d.hintName rs.length d.groups.length] := by
  intro planned ran
  cases hk : u.kinds with
  | none => simp [planned, ran, Pass.runInto, Pass.run, Pass.plan, hk, Kind.tag]
  | some kinds =>
    have hplan : planned = ⟨.started u.name :: (Pass.planTypes kinds options u.types).diagnostics,
        (Pass.planTypes kinds options u.types).result⟩ := by
      simp only [planned, Pass.plan, hk]
    obtain ⟨hdiagnostics, hresult⟩ := @Encounter.walk_ofTypes kinds options u.types
    rw [Encounter.planTypes_eq_walk] at hplan
    refine ⟨by rw [hplan, ← hdiagnostics], ?_⟩
    split at hresult
    · next e _ _ _ =>
      have herror : planned.result = .error (.unresolved e) := by rw [hplan, hresult]
      have hran := Pass.runInto_of_error sink dialect s herror
      exact ⟨herror, congrArg Traced.diagnostics hran, congrArg Traced.result hran⟩
    · obtain ⟨rs, hrs⟩ := hresult
      have hok : planned.result = .ok rs := by rw [hplan, hrs]
      have hran := Pass.runInto_of_ok sink dialect s hok
      refine ⟨rs, emit dialect s rs, hok, congrArg Traced.result hran, ?_⟩
      have hdiags := congrArg Traced.diagnostics hran
      cases rs with
      | nil => exact ⟨rfl, hdiags⟩
      | cons r rest => exact ⟨List.cons_ne_nil r rest, hdiags⟩

end ServiceWiring
