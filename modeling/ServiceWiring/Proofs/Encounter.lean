import ServiceWiring.Pass

/-! A pass as one walk over everything that it comes across: each type with recognized annotations,
and after it each of these annotations. Both loops of a pass are this walk. -/
namespace ServiceWiring

theorem KindRegistry.error_of_resolve {kinds : KindRegistry} {typeName : String} {a : Mark}
    {e : MarkError} (h : kinds.resolve typeName a = .error e) :
    e.typeName = typeName ∧ e.tag = a.tag := by
  unfold KindRegistry.resolve at h
  split at h
  · cases h
  · cases h
    exact ⟨rfl, rfl⟩

inductive Encounter where
  | type (t : DeclaredType)
  | mark (t : DeclaredType) (a : Mark)

namespace Encounter

/-- What a pass comes across at a type: nothing, unless an annotation of it is recognized. -/
def ofType (kinds : KindRegistry) (t : DeclaredType) : List Encounter :=
  match Pass.recognized kinds t with
  | [] => []
  | a :: rest => .type t :: (a :: rest).map (.mark t)

/-- The error in an annotation that cannot be resolved. -/
def error? (kinds : KindRegistry) : Encounter → Option MarkError
  | .type _ => none
  | .mark t a =>
    match kinds.resolve t.name.qualified a with
    | .ok _ => none
    | .error e => some e

/-- What is told of it. -/
def report? (kinds : KindRegistry) : Encounter → Option Diagnostic
  | .type t =>
    some (.found t.name.qualified
      (Text.joined ", " ((Pass.recognized kinds t).map Mark.tag)))
  | .mark t a =>
    (error? kinds (.mark t a)).map fun e => .invalidMark e.typeName e.tag e.fault.message

def registrations (kinds : KindRegistry) (policy : ListedPolicy) : Encounter → List Registration
  | .type _ => []
  | .mark t a =>
    match kinds.resolve t.name.qualified a with
    | .ok d => t.registrations policy d
    | .error _ => []

/-- The walk. It ends at the first error where errors are not to be skipped. -/
def walk (kinds : KindRegistry) (options : PassOptions) :
    List Encounter → Traced (List Registration)
  | [] => ⟨[], .ok []⟩
  | x :: rest =>
    match x.error? kinds, options.invalid with
    | some e, .abort => ⟨(x.report? kinds).toList, .error (.unresolved e)⟩
    | _, _ =>
      let later := walk kinds options rest
      ⟨(x.report? kinds).toList ++ later.diagnostics,
        later.result.map (x.registrations kinds options.listed ++ ·)⟩

variable {kinds : KindRegistry} {options : PassOptions}

/-- Where an encounter does not end the walk, its report and its registrations come before those of
the rest. -/
theorem walk_cons {x : Encounter} (rest : List Encounter)
    (h : options.invalid = .abort → x.error? kinds = none) :
    walk kinds options (x :: rest) =
      ⟨(x.report? kinds).toList ++ (walk kinds options rest).diagnostics,
        (walk kinds options rest).result.map (x.registrations kinds options.listed ++ ·)⟩ := by
  rw [walk]
  split
  · next e he ha => simp [h ha] at he
  · rfl

theorem walk_cons_abort {x : Encounter} {e : MarkError} (rest : List Encounter)
    (ha : options.invalid = .abort) (he : x.error? kinds = some e) :
    walk kinds options (x :: rest) = ⟨(x.report? kinds).toList, .error (.unresolved e)⟩ := by
  rw [walk, he, ha]

private theorem map_nil_append (result : Except Error (List Registration)) :
    result.map ([] ++ ·) = result := by cases result <;> rfl

/-- A walk in two parts: the second is not begun when the first fails. -/
theorem walk_append (xs ys : List Encounter) :
    walk kinds options (xs ++ ys) =
      match (walk kinds options xs).result with
      | .error e => ⟨(walk kinds options xs).diagnostics, .error e⟩
      | .ok rs =>
        ⟨(walk kinds options xs).diagnostics ++ (walk kinds options ys).diagnostics,
          (walk kinds options ys).result.map (rs ++ ·)⟩ := by
  induction xs with
  | nil =>
    rw [walk, List.nil_append]
    generalize walk kinds options ys = later
    obtain ⟨_, _ | _⟩ := later <;> rfl
  | cons x xs ih =>
    by_cases hx : options.invalid = .abort → x.error? kinds = none
    · rw [List.cons_append, walk_cons _ hx, walk_cons _ hx, ih]
      cases (walk kinds options xs).result with
      | error e => rfl
      | ok rs => cases (walk kinds options ys).result <;> simp [Except.map]
    · obtain ⟨ha, hne⟩ := Classical.not_imp.mp hx
      obtain ⟨e, he⟩ := Option.ne_none_iff_exists'.mp hne
      rw [List.cons_append, walk_cons_abort _ ha he, walk_cons_abort _ ha he]

theorem planMarks_eq_walk (t : DeclaredType) (marks : List Mark) :
    Pass.planMarks kinds options t marks = walk kinds options (marks.map (.mark t)) := by
  induction marks with
  | nil => rfl
  | cons a rest ih =>
    rw [Pass.planMarks, List.map_cons, ih]
    cases h : kinds.resolve t.name.qualified a with
    | ok d =>
      have he : error? kinds (.mark t a) = none := by simp [error?, h]
      rw [walk_cons _ fun _ => he]
      simp [report?, registrations, he, h]
    | error e =>
      have he : error? kinds (.mark t a) = some e := by simp [error?, h]
      have hr : report? kinds (.mark t a) =
          some (.invalidMark t.name.qualified a.tag e.fault.message) := by
        obtain ⟨hname, htag⟩ := KindRegistry.error_of_resolve h
        simp [report?, he, hname, htag]
      -- what cannot be resolved is wrong with this annotation only, so it may be skipped
      have hfatal : (Error.unresolved e).isFatal = false := Error.isFatal_eq_false_iff.mpr ⟨e, rfl⟩
      cases hp : options.invalid with
      | abort => simp [walk_cons_abort _ hp he, hr]
      | skip =>
        rw [walk_cons _ fun ha => by simp [hp] at ha, hr]
        simp only [hfatal, registrations, h, map_nil_append]
        rfl

theorem planType_eq_walk (t : DeclaredType) :
    Pass.planType kinds options t = walk kinds options (ofType kinds t) := by
  rw [Pass.planType, ofType]
  cases h : Pass.recognized kinds t with
  | nil => rfl
  | cons a rest =>
    have he : error? kinds (.type t) = none := rfl
    simp only [walk_cons _ fun _ => he, report?, h, registrations, map_nil_append]
    rw [planMarks_eq_walk]
    rfl

/-- The loop over the types, with the loop over the annotations of each type in it, is one walk. -/
theorem planTypes_eq_walk (types : List DeclaredType) :
    Pass.planTypes kinds options types = walk kinds options (types.flatMap (ofType kinds)) := by
  induction types with
  | nil => rfl
  | cons t rest ih =>
    rewrite [Pass.planTypes, planType_eq_walk, ih, List.flatMap_cons, walk_append]
    cases (walk kinds options (ofType kinds t)).result <;> rfl

/-- A type adds nothing to the registrations that its recognized annotations ask for. -/
theorem flatMap_registrations_ofType (policy : ListedPolicy) (t : DeclaredType) :
    (ofType kinds t).flatMap (registrations kinds policy) =
      (Pass.recognized kinds t).flatMap fun a => registrations kinds policy (.mark t a) := by
  unfold ofType
  split
  · next h => simp [h]
  · next a rest h => simp [h, registrations, List.flatMap_map]

/-- A walk that no error ends tells everything and gathers everything. -/
theorem walk_complete (xs : List Encounter)
    (h : options.invalid = .abort → ∀ x ∈ xs, x.error? kinds = none) :
    walk kinds options xs =
      ⟨xs.filterMap (report? kinds), .ok (xs.flatMap (registrations kinds options.listed))⟩ := by
  induction xs with
  | nil => rfl
  | cons x xs ih =>
    have hx : options.invalid = .abort → x.error? kinds = none :=
      fun ha => h ha x List.mem_cons_self
    have hxs : options.invalid = .abort → ∀ y ∈ xs, y.error? kinds = none :=
      fun ha y hy => h ha y (List.mem_cons_of_mem x hy)
    rw [walk_cons xs hx, ih hxs]
    cases hr : x.report? kinds <;> simp [hr, Except.map]

/-- A walk that an error ends tells what came before it and the error, and nothing after it. -/
theorem walk_stopped {before : List Encounter} {x : Encounter} {e : MarkError}
    (after : List Encounter) (ha : options.invalid = .abort)
    (hbefore : ∀ y ∈ before, y.error? kinds = none) (hx : x.error? kinds = some e) :
    walk kinds options (before ++ x :: after) =
      ⟨(before ++ [x]).filterMap (report? kinds), .error (.unresolved e)⟩ := by
  rw [walk_append, walk_complete before fun _ => hbefore, walk_cons_abort after ha hx]
  cases hr : x.report? kinds <;> simp [hr, Except.map]

/-- The errors that a pass comes across, in order. -/
def errors (kinds : KindRegistry) (xs : List Encounter) : List MarkError :=
  xs.filterMap (error? kinds)

theorem errors_eq_nil {xs : List Encounter} :
    errors kinds xs = [] ↔ ∀ x ∈ xs, x.error? kinds = none := List.filterMap_eq_nil_iff

/-- The first error comes at a place before which there is none. -/
theorem split_of_errors {xs : List Encounter} {e : MarkError} {rest : List MarkError}
    (h : errors kinds xs = e :: rest) :
    ∃ before t a after, xs = before ++ .mark t a :: after ∧
      (∀ y ∈ before, y.error? kinds = none) ∧ error? kinds (.mark t a) = some e := by
  obtain ⟨before, x, after, hxs, hbefore, hx, -⟩ := List.filterMap_eq_cons_iff.mp h
  cases x with
  | type t => cases hx
  | mark t a => exact ⟨before, t, a, after, hxs, hbefore, hx⟩

/-- A pass that succeeds has gathered everything, errors left out. -/
theorem result_walk_ok {xs : List Encounter} {rs : List Registration}
    (h : (walk kinds options xs).result = .ok rs) :
    rs = xs.flatMap (registrations kinds options.listed) := by
  by_cases hc : options.invalid = .abort → ∀ x ∈ xs, x.error? kinds = none
  · rw [walk_complete xs hc] at h
    exact (Except.ok.inj h).symm
  · obtain ⟨ha, hne⟩ := Classical.not_imp.mp hc
    have herrors : errors kinds xs ≠ [] := fun he => hne (errors_eq_nil.mp he)
    obtain ⟨e, rest, he⟩ := List.exists_cons_of_ne_nil herrors
    obtain ⟨before, t, a, after, rfl, hbefore, hx⟩ := split_of_errors he
    rw [walk_stopped after ha hbefore hx] at h
    cases h

end Encounter

namespace Pass
variable {kinds : KindRegistry} {options : PassOptions} {u : BuildUnit}

/-- The registrations that a type asks for, whatever else is declared. Annotations that cannot be
resolved ask for none. -/
def contribution (kinds : KindRegistry) (policy : ListedPolicy) (t : DeclaredType) :
    List Registration :=
  (Encounter.ofType kinds t).flatMap (Encounter.registrations kinds policy)

/-- A type registers itself only, and in its own group. -/
theorem owner_of_mem_contribution {policy : ListedPolicy} {t : DeclaredType} {r : Registration}
    (h : r ∈ contribution kinds policy t) : r.implementation = t.name ∧ r.group = t.groupName := by
  rw [contribution, Encounter.flatMap_registrations_ofType] at h
  obtain ⟨a, -, hr⟩ := List.mem_flatMap.mp h
  rw [Encounter.registrations] at hr
  split at hr
  · obtain ⟨service, -, rfl⟩ := List.mem_map.mp hr
    exact ⟨rfl, rfl⟩
  · cases hr

theorem plan_eq_walk (h : u.kinds = some kinds) :
    plan options u =
      ⟨.started u.name ::
          (Encounter.walk kinds options (u.types.flatMap (Encounter.ofType kinds))).diagnostics,
        (Encounter.walk kinds options (u.types.flatMap (Encounter.ofType kinds))).result⟩ := by
  simp only [plan, h, Encounter.planTypes_eq_walk]

/-- A run comes to the plan and the document that is written from it. -/
theorem result_runInto (sink : List Diagnostic) (dialect : Dialect) (s : Scaffold) :
    (runInto sink dialect s options u).result =
      (plan options u).result.map fun rs => ⟨rs, emit dialect s rs⟩ := by
  simp only [runInto, run]
  split <;> simp_all [Except.map]

theorem runInto_eq_ok_iff {sink : List Diagnostic} {dialect : Dialect} {s : Scaffold}
    {rs : List Registration} {document : Option Document} :
    (runInto sink dialect s options u).result = .ok ⟨rs, document⟩ ↔
      (plan options u).result = .ok rs ∧ document = emit dialect s rs := by
  rw [result_runInto]
  cases (plan options u).result with
  | error e => simp [Except.map]
  | ok qs =>
    simp only [Except.map, Except.ok.injEq, Outcome.mk.injEq]
    constructor
    · rintro ⟨rfl, rfl⟩
      exact ⟨rfl, rfl⟩
    · rintro ⟨rfl, rfl⟩
      exact ⟨rfl, rfl⟩

end Pass

end ServiceWiring
