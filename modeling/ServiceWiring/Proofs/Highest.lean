import ServiceWiring.Log.Filter
import ServiceWiring.Proofs.Skipping

/-! The highest of several: the worst of what a pass tells, and the level that a log filter lets
through. -/
namespace ServiceWiring

section Ranked
variable {α : Type} (rank : α → Nat)

/-- The one of higher rank, or the first where both have the same. -/
def higher (a b : α) : α := if rank a < rank b then b else a

theorem higher_eq_or_eq (a b : α) : higher rank a b = a ∨ higher rank a b = b := by
  unfold higher
  split
  · exact .inr rfl
  · exact .inl rfl

theorem rank_le_higher (a b : α) :
    rank a ≤ rank (higher rank a b) ∧ rank b ≤ rank (higher rank a b) := by
  unfold higher
  split <;> omega

/-- The highest of several is one of them, and none is above it. -/
theorem foldl_higher (a : α) (as : List α) :
    as.foldl (higher rank) a ∈ a :: as ∧
      ∀ b ∈ a :: as, rank b ≤ rank (as.foldl (higher rank) a) := by
  induction as generalizing a with
  | nil => simp
  | cons b as ih =>
    obtain ⟨hmem, hbound⟩ := ih (higher rank a b)
    obtain ⟨ha, hb⟩ := rank_le_higher rank a b
    have hfirst := hbound (higher rank a b) List.mem_cons_self
    rw [List.foldl_cons]
    constructor
    · rcases List.mem_cons.mp hmem with heq | hmem
      · rw [heq]
        rcases higher_eq_or_eq rank a b with h | h <;> simp [h]
      · exact List.mem_cons_of_mem a (List.mem_cons_of_mem b hmem)
    · intro c hc
      rcases List.mem_cons.mp hc with rfl | hc
      · exact Nat.le_trans ha hfirst
      · rcases List.mem_cons.mp hc with rfl | hc
        · exact Nat.le_trans hb hfirst
        · exact hbound c (List.mem_cons_of_mem _ hc)

end Ranked

namespace Severity

theorem rank_injective {a b : Severity} (h : a.rank = b.rank) : a = b := by
  cases a <;> cases b <;> first | rfl | cases h

theorem isFailure_iff {s : Severity} : s.isFailure = true ↔ Severity.error.rank ≤ s.rank := by
  cases s <;> decide

end Severity

namespace Diagnostic
variable {ds : List Diagnostic} {s : Severity}

theorem maxSeverity?_eq_none_iff : maxSeverity? ds = none ↔ ds = [] := by
  cases ds <;> simp [maxSeverity?]

/-- The highest severity is that of a diagnostic, and none has a higher one. -/
theorem maxSeverity?_eq_some_iff :
    maxSeverity? ds = some s ↔
      (∃ d ∈ ds, d.severity = s) ∧ ∀ d ∈ ds, d.severity.rank ≤ s.rank := by
  cases ds with
  | nil => simp [maxSeverity?]
  | cons first rest =>
    let highest := (rest.map severity).foldl Severity.max first.severity
    have hmax : maxSeverity? (first :: rest) = some highest := rfl
    obtain ⟨hmem, hbound⟩ : highest ∈ (first :: rest).map severity ∧
        ∀ t ∈ (first :: rest).map severity, t.rank ≤ highest.rank :=
      foldl_higher Severity.rank first.severity (rest.map severity)
    rw [hmax, Option.some.injEq]
    constructor
    · rintro rfl
      exact ⟨List.mem_map.mp hmem, List.forall_mem_map.mp hbound⟩
    · rintro ⟨⟨d, hd, rfl⟩, hall⟩
      obtain ⟨e, he, hhighest⟩ := List.mem_map.mp hmem
      have hle := hbound d.severity (List.mem_map_of_mem hd)
      have hge := hall e he
      rw [hhighest] at hge
      exact Severity.rank_injective (Nat.le_antisymm hge hle)

/-- A failure is among the diagnostics where the highest severity is that of one. -/
theorem anyFailure_iff_maxSeverity? :
    anyFailure ds = true ↔ ∃ s, maxSeverity? ds = some s ∧ s.isFailure = true := by
  cases h : maxSeverity? ds with
  | none => simp [anyFailure, maxSeverity?_eq_none_iff.mp h]
  | some s =>
    obtain ⟨⟨d, hd, rfl⟩, hbound⟩ := maxSeverity?_eq_some_iff.mp h
    simp only [anyFailure, List.any_eq_true, Option.some.injEq, exists_eq_left']
    constructor
    · rintro ⟨e, he, hfailure⟩
      have hrank := Severity.isFailure_iff.mp hfailure
      exact Severity.isFailure_iff.mpr (Nat.le_trans hrank (hbound e he))
    · intro hfailure
      exact ⟨d, hd, hfailure⟩

/-- Where nothing is told but what is found and what is in error, any error is the worst. -/
theorem maxSeverity?_of_ordinary (hne : ds ≠ [])
    (h : ∀ d ∈ ds, d.severity = .info ∨ d.severity = .error) :
    maxSeverity? ds = some (if anyFailure ds then .error else .info) := by
  cases hmax : maxSeverity? ds with
  | none => exact absurd (maxSeverity?_eq_none_iff.mp hmax) hne
  | some s =>
    have hfailure : anyFailure ds = s.isFailure := by
      rw [Bool.eq_iff_iff, anyFailure_iff_maxSeverity?, hmax]
      simp
    obtain ⟨⟨d, hd, rfl⟩, -⟩ := maxSeverity?_eq_some_iff.mp hmax
    rw [hfailure]
    rcases h d hd with hinfo | herror
    · rw [hinfo]
      rfl
    · rw [herror]
      rfl

end Diagnostic

namespace Encounter
variable {kinds : KindRegistry} {options : PassOptions}

theorem anyFailure_report? (kinds : KindRegistry) (x : Encounter) :
    Diagnostic.anyFailure (x.report? kinds).toList = (x.error? kinds).isSome := by
  cases x with
  | type t => rfl
  | mark t a =>
    simp only [report?]
    cases error? kinds (.mark t a) <;> rfl

/-- Whether errors end the walk or not, a failure is told exactly if there is one. -/
theorem anyFailure_walk (xs : List Encounter) :
    Diagnostic.anyFailure (walk kinds options xs).diagnostics =
      xs.any fun x => (x.error? kinds).isSome := by
  induction xs with
  | nil => rfl
  | cons x xs ih =>
    have hx := anyFailure_report? kinds x
    by_cases h : options.invalid = .abort → x.error? kinds = none
    · rw [walk_cons xs h, List.any_cons, ← ih, ← hx]
      simp only [Diagnostic.anyFailure, List.any_append]
    · obtain ⟨ha, hne⟩ := Classical.not_imp.mp h
      obtain ⟨e, he⟩ := Option.ne_none_iff_exists'.mp hne
      rw [walk_cons_abort xs ha he, List.any_cons, hx, he]
      rfl

theorem severity_report? {x : Encounter} {d : Diagnostic} (h : d ∈ (x.report? kinds).toList) :
    d.severity = .info ∨ d.severity = .error := by
  cases x with
  | type t =>
    obtain rfl := List.mem_singleton.mp h
    exact .inl rfl
  | mark t a =>
    obtain ⟨e, -, rfl⟩ := Option.map_eq_some_iff.mp (Option.mem_toList.mp h)
    exact .inr rfl

theorem severity_walk (xs : List Encounter) :
    ∀ d ∈ (walk kinds options xs).diagnostics, d.severity = .info ∨ d.severity = .error := by
  induction xs with
  | nil => exact List.forall_mem_nil _
  | cons x xs ih =>
    have hx : ∀ d ∈ (x.report? kinds).toList, d.severity = .info ∨ d.severity = .error :=
      fun d hd => severity_report? hd
    by_cases h : options.invalid = .abort → x.error? kinds = none
    · rw [walk_cons xs h]
      exact List.forall_mem_append.mpr ⟨hx, ih⟩
    · obtain ⟨ha, hne⟩ := Classical.not_imp.mp h
      obtain ⟨e, he⟩ := Option.ne_none_iff_exists'.mp hne
      rw [walk_cons_abort xs ha he]
      exact hx

/-- A walk over types comes across an error exactly if an annotation of them is rejected. -/
theorem any_error?_ofTypes (types : List DeclaredType) :
    ((types.flatMap (ofType kinds)).any fun x => (x.error? kinds).isSome) = true ↔
      ∃ t ∈ types, ∃ a ∈ t.marks, Pass.rejects kinds t a = true := by
  constructor
  · intro hany
    by_contra hnone
    have hnil : Pass.rejected kinds types = [] := by
      refine Pass.rejected_eq_nil_iff.mpr fun t ht a ha => Bool.eq_false_iff.mpr fun hr => ?_
      exact hnone ⟨t, ht, a, ha, hr⟩
    obtain ⟨x, hx, herror⟩ := List.any_eq_true.mp hany
    simp [error?_of_rejected_nil hnil x hx] at herror
  · rintro ⟨t, ht, a, ha, hr⟩
    simp only [Pass.rejects, Bool.and_eq_true, Bool.not_eq_true'] at hr
    obtain ⟨e, he⟩ := Pass.isOk_resolve.mp hr.2
    refine List.any_eq_true.mpr ⟨.mark t a, List.mem_flatMap.mpr ⟨t, ht, ?_⟩, by simp [error?, he]⟩
    -- What is rejected is recognized, so the walk comes across it.
    have hmem : a ∈ Pass.recognized kinds t := List.mem_filter.mpr ⟨ha, hr.1⟩
    cases h : Pass.recognized kinds t with
    | nil => simp [h] at hmem
    | cons b rest =>
      rw [ofType, h]
      exact List.mem_cons_of_mem _ (List.mem_map_of_mem (h ▸ hmem))

end Encounter

namespace Pass
variable {options : PassOptions} {u : BuildUnit}

/-- Where there are annotations to look for, only a rejected one can make a plan fail, and only if it
is not skipped. -/
theorem isOk_plan {kinds : KindRegistry} (hk : u.kinds = some kinds) :
    (plan options u).result.isOk = false ↔
      options.invalid = .abort ∧ ∃ t ∈ u.types, ∃ a ∈ t.marks, rejects kinds t a = true := by
  by_cases h : options.invalid = .abort → ∀ t ∈ u.types, ∀ a ∈ t.marks, rejects kinds t a = false
  · have hok := plan_eq_ok_iff.mpr ⟨kinds, hk, h, rfl⟩
    rw [hok]
    refine ⟨nofun, ?_⟩
    rintro ⟨ha, t, ht, a, hmark, hr⟩
    exact absurd hr (by simp [h ha t ht a hmark])
  · cases hresult : (plan options u).result with
    | ok rs =>
      obtain ⟨kinds', hk', hall, -⟩ := plan_eq_ok_iff.mp hresult
      obtain rfl := Option.some.inj (hk'.symm.trans hk)
      exact absurd hall h
    | error e =>
      refine ⟨fun _ => ?_, fun _ => rfl⟩
      obtain ⟨ha, hnot⟩ := Classical.not_imp.mp h
      refine ⟨ha, ?_⟩
      by_contra hnone
      refine hnot fun t ht a hmark => Bool.eq_false_iff.mpr fun hr => ?_
      exact hnone ⟨t, ht, a, hmark, hr⟩

theorem anyFailure_plan_of_kinds {kinds : KindRegistry} (hk : u.kinds = some kinds) :
    Diagnostic.anyFailure (plan options u).diagnostics = true ↔
      ∃ t ∈ u.types, ∃ a ∈ t.marks, rejects kinds t a = true := by
  rw [plan_eq_walk hk, ← Encounter.any_error?_ofTypes, ← Encounter.anyFailure_walk]
  rfl

/-- A failure is told of a plan that fails, and of one that succeeds if it has skipped something. -/
theorem anyFailure_plan (options : PassOptions) (u : BuildUnit) :
    Diagnostic.anyFailure (plan options u).diagnostics = true ↔
      (plan options u).result.isOk = false ∨
        options.invalid = .skip ∧ ∃ kinds, u.kinds = some kinds ∧
          ∃ t ∈ u.types, ∃ a ∈ t.marks, rejects kinds t a = true := by
  cases hk : u.kinds with
  | none =>
    have hplan : plan options u = ⟨[.started u.name, .missingBaseKind Kind.injectable.tag],
        .error (.missingBaseKind Kind.injectable.tag)⟩ := by simp only [plan, hk]
    rw [hplan]
    exact ⟨fun _ => .inl rfl, fun _ => rfl⟩
  | some kinds =>
    rw [anyFailure_plan_of_kinds hk, isOk_plan hk]
    cases options.invalid <;> simp

/-- The worst that a plan tells: fatal without annotations to look for, an error where one of them is
rejected, and otherwise nothing to worry about. -/
theorem maxSeverity?_plan (options : PassOptions) (u : BuildUnit) :
    Diagnostic.maxSeverity? (plan options u).diagnostics = some (match u.kinds with
      | none => .fatal
      | some kinds =>
        if u.types.any fun t => t.marks.any (rejects kinds t) then .error else .info) := by
  cases hk : u.kinds with
  | none =>
    simp only [plan, hk]
    rfl
  | some kinds =>
    have hordinary : ∀ d ∈ (plan options u).diagnostics,
        d.severity = .info ∨ d.severity = .error := by
      rw [plan_eq_walk hk]
      exact List.forall_mem_cons.mpr ⟨.inl rfl, Encounter.severity_walk _⟩
    have hne : (plan options u).diagnostics ≠ [] := by
      rw [plan_eq_walk hk]
      exact List.cons_ne_nil _ _
    have hfailure : Diagnostic.anyFailure (plan options u).diagnostics =
        u.types.any fun t => t.marks.any (rejects kinds t) := by
      rw [Bool.eq_iff_iff, anyFailure_plan_of_kinds hk]
      simp only [List.any_eq_true]
    rw [Diagnostic.maxSeverity?_of_ordinary hne hordinary, hfailure]

end Pass

namespace Log
open ServiceWiring.Text

private theorem map_directive?_of_mapM {directives : List (List Char)} {levels : List Level}
    (h : directives.mapM directive? = some levels) :
    directives.map directive? = levels.map some := by
  induction directives generalizing levels with
  | nil =>
    cases h
    rfl
  | cons directive directives ih =>
    simp only [List.mapM_cons, Option.bind_eq_bind, Option.bind_eq_some_iff, Option.pure_def,
      Option.some.injEq] at h
    obtain ⟨level, hlevel, rest, hrest, rfl⟩ := h
    rw [List.map_cons, List.map_cons, hlevel, ih hrest]

/-- A filter lets through what one of its directives does, and as much as any. Without a directive it
lets nothing through. -/
theorem filter?_eq_some {text : String} {level : Level} (h : filter? text = some level) :
    (∀ piece ∈ pieces ',' text.toList, piece ≠ [] →
        ∃ l, directive? piece = some l ∧ l.rank ≤ level.rank) ∧
      (level = .off ∨ ∃ piece ∈ pieces ',' text.toList, directive? piece = some level) := by
  obtain ⟨levels, hlevels, rfl⟩ := Option.map_eq_some_iff.mp h
  have hread := map_directive?_of_mapM hlevels
  obtain ⟨hmem, hbound⟩ : levels.foldl Level.max .off ∈ .off :: levels ∧
      ∀ l ∈ .off :: levels, l.rank ≤ (levels.foldl Level.max .off).rank :=
    foldl_higher Level.rank .off levels
  constructor
  · intro piece hpiece hne
    have hdirective : directive? piece ∈ levels.map some := by
      rw [← hread]
      exact List.mem_map_of_mem (List.mem_filter.mpr ⟨hpiece, by simpa using hne⟩)
    obtain ⟨l, hl, hsome⟩ := List.mem_map.mp hdirective
    exact ⟨l, hsome.symm, hbound l (List.mem_cons_of_mem _ hl)⟩
  · refine (List.mem_cons.mp hmem).imp_right fun hlevel => ?_
    have hsome := List.mem_map_of_mem (f := some) hlevel
    rw [← hread] at hsome
    obtain ⟨piece, hpiece, hdirective⟩ := List.mem_map.mp hsome
    exact ⟨piece, (List.mem_filter.mp hpiece).1, hdirective⟩

/-- The configured level must be one even where a filter takes its place, and counts only where there
is no filter that can be read. -/
theorem maxLevel_eq_ok_iff {configured : String} {filter : Option String} {level : Level} :
    maxLevel configured filter = .ok level ↔
      ∃ usual, Level.ofSetting configured = .ok usual ∧
        (filter.bind filter? = some level ∨ filter.bind filter? = none ∧ level = usual) := by
  rw [maxLevel]
  cases Level.ofSetting configured with
  | error e => simp [Except.map]
  | ok usual => cases filter.bind filter? <;> simp [Except.map, eq_comm]

end Log

end ServiceWiring
