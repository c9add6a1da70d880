import ServiceWiring.Proofs.Tracing

/-! Invalid annotations. Skipping them comes to the same as never having had them, and a pass that
does not skip them fails at the first. -/
namespace ServiceWiring

namespace Pass

/-- The annotation is recognized on the type but cannot be resolved. -/
def rejects (kinds : KindRegistry) (t : DeclaredType) (a : Mark) : Bool :=
  kinds.recognizes a.tag && !(kinds.resolve t.name.qualified a).isOk

/-- The rejected annotations with their types, in the order of the types and, within a type, in
their own order. -/
def rejected (kinds : KindRegistry) (types : List DeclaredType) : List (DeclaredType × Mark) :=
  types.flatMap fun t => (t.marks.filter (rejects kinds t)).map (t, ·)

end Pass

def DeclaredType.withoutRejected (kinds : KindRegistry) (t : DeclaredType) : DeclaredType :=
  { t with marks := t.marks.filter fun a => !Pass.rejects kinds t a }

def BuildUnit.withoutRejected (kinds : KindRegistry) (u : BuildUnit) : BuildUnit :=
  { u with types := u.types.map (DeclaredType.withoutRejected kinds) }

namespace Pass
variable {kinds : KindRegistry}

theorem isOk_resolve {typeName : String} {a : Mark} :
    (kinds.resolve typeName a).isOk = false ↔ ∃ e, kinds.resolve typeName a = .error e := by
  cases kinds.resolve typeName a <;> simp [Except.isOk, Except.toBool]

theorem mem_rejected {types : List DeclaredType} {t : DeclaredType} {a : Mark} :
    (t, a) ∈ rejected kinds types ↔ t ∈ types ∧ a ∈ t.marks ∧ rejects kinds t a = true := by
  simp only [rejected, List.mem_flatMap, List.mem_map, List.mem_filter, Prod.mk.injEq]
  constructor
  · rintro ⟨_, ht, _, ha, rfl, rfl⟩
    exact ⟨ht, ha⟩
  · rintro ⟨ht, ha⟩
    exact ⟨t, ht, a, ha, rfl, rfl⟩

/-- What is left to a pass at a type are the annotations that can be resolved. -/
theorem recognized_withoutRejected (t : DeclaredType) :
    recognized kinds (t.withoutRejected kinds) =
      (recognized kinds t).filter fun a => (kinds.resolve t.name.qualified a).isOk := by
  simp only [recognized, DeclaredType.withoutRejected, List.filter_filter]
  refine List.filter_congr fun a _ => ?_
  cases h : kinds.recognizes a.tag <;> simp [rejects, h]

end Pass

namespace Encounter
variable {kinds : KindRegistry}

/-- The errors of a pass are those of its rejected annotations. -/
theorem markErrors_eq_rejected (types : List DeclaredType) :
    markErrors kinds types =
      (Pass.rejected kinds types).filterMap fun x => error? kinds (.mark x.1 x.2) := by
  rw [markErrors, Pass.rejected, List.filterMap_flatMap]
  refine List.flatMap_congr fun t _ => ?_
  rw [List.filterMap_map, Pass.recognized, List.filterMap_filter, List.filterMap_filter]
  refine List.filterMap_congr fun a _ => ?_
  cases h : kinds.resolve t.name.qualified a <;>
    simp [Pass.rejects, error?, h, Except.isOk, Except.toBool]

/-- Without a rejected annotation, no error ends the walk. -/
theorem error?_of_rejected_nil {types : List DeclaredType} (h : Pass.rejected kinds types = []) :
    ∀ x ∈ types.flatMap (ofType kinds), x.error? kinds = none := by
  rw [← errors_eq_nil, errors_ofTypes, markErrors_eq_rejected, h, List.filterMap_nil]

end Encounter

namespace Pass
variable {kinds : KindRegistry}

/-- A type without its rejected annotations asks for the same registrations. -/
theorem contribution_withoutRejected (policy : ListedPolicy) (t : DeclaredType) :
    contribution kinds policy (t.withoutRejected kinds) = contribution kinds policy t := by
  rw [contribution, contribution, Encounter.flatMap_registrations_ofType,
    Encounter.flatMap_registrations_ofType, recognized_withoutRejected]
  induction recognized kinds t with
  | nil => rfl
  | cons a rest ih =>
    rw [List.filter_cons, List.flatMap_cons, ← ih]
    split
    · rfl
    · next h =>
      obtain ⟨e, he⟩ := isOk_resolve.mp (Bool.eq_false_iff.mpr h)
      simp [Encounter.registrations, he]

theorem rejected_eq_nil_iff {types : List DeclaredType} :
    rejected kinds types = [] ↔ ∀ t ∈ types, ∀ a ∈ t.marks, rejects kinds t a = false := by
  rw [List.eq_nil_iff_forall_not_mem]
  constructor
  · intro h t ht a ha
    by_contra hr
    exact h (t, a) (mem_rejected.mpr ⟨ht, ha, by simpa using hr⟩)
  · intro h ⟨t, a⟩ hmem
    obtain ⟨ht, ha, hr⟩ := mem_rejected.mp hmem
    exact Bool.false_ne_true ((h t ht a ha).symm.trans hr)

theorem rejected_withoutRejected (types : List DeclaredType) :
    rejected kinds (types.map (DeclaredType.withoutRejected kinds)) = [] := by
  refine rejected_eq_nil_iff.mpr fun t ht a ha => ?_
  obtain ⟨t, -, rfl⟩ := List.mem_map.mp ht
  have hkept : rejects kinds t a = false := by simpa using (List.mem_filter.mp ha).2
  exact hkept

/-- A plan that is not ended early does not depend on what would end it. -/
theorem plan_complete (options : PassOptions) {u : BuildUnit} (hk : u.kinds = some kinds)
    (h : options.invalid = .abort → rejected kinds u.types = []) :
    plan options u =
      ⟨.started u.name :: u.types.flatMap (typeTrace kinds),
        .ok (u.types.flatMap (contribution kinds options.listed))⟩ := by
  rw [plan_eq_walk hk, Encounter.walk_complete _ fun ha => Encounter.error?_of_rejected_nil (h ha),
    Encounter.reports_ofTypes, List.flatMap_assoc]
  rfl

/-- A plan that the first rejected annotation ends. -/
theorem plan_rejected {options : PassOptions} {u : BuildUnit} (hk : u.kinds = some kinds)
    (ha : options.invalid = .abort) {t : DeclaredType} {a : Mark}
    {rest : List (DeclaredType × Mark)}
    (h : rejected kinds u.types = (t, a) :: rest) :
    ∃ e, kinds.resolve t.name.qualified a = .error e ∧
      (plan options u).result = .error (.unresolved e) := by
  have hfirst : (t, a) ∈ rejected kinds u.types := h ▸ List.mem_cons_self
  have hnotOk : (kinds.resolve t.name.qualified a).isOk = false := by
    have := (mem_rejected.mp hfirst).2.2
    simp_all [rejects]
  obtain ⟨e, he⟩ := isOk_resolve.mp hnotOk
  have herrors : markErrors kinds u.types =
      e :: rest.filterMap fun x => Encounter.error? kinds (.mark x.1 x.2) := by
    rw [Encounter.markErrors_eq_rejected, h, List.filterMap_cons]
    simp [Encounter.error?, he]
  have hwalk := (@Encounter.walk_ofTypes kinds options u.types).2
  simp only [ha, herrors] at hwalk
  exact ⟨e, he, by rw [plan_eq_walk hk, hwalk]⟩

/-- A pass succeeds where there are annotations to look for and no rejected one is fatal, and then
has the contributions of its types in their order. -/
theorem plan_eq_ok_iff {options : PassOptions} {u : BuildUnit} {rs : List Registration} :
    (plan options u).result = .ok rs ↔
      ∃ kinds, u.kinds = some kinds ∧
        (options.invalid = .abort → ∀ t ∈ u.types, ∀ a ∈ t.marks, rejects kinds t a = false) ∧
        rs = u.types.flatMap (contribution kinds options.listed) := by
  simp only [← rejected_eq_nil_iff]
  constructor
  · intro h
    cases hk : u.kinds with
    | none => simp [plan, hk] at h
    | some kinds =>
      by_cases hc : options.invalid = .abort → rejected kinds u.types = []
      · rw [plan_complete options hk hc] at h
        exact ⟨kinds, rfl, hc, (Except.ok.inj h).symm⟩
      · obtain ⟨ha, hne⟩ := Classical.not_imp.mp hc
        obtain ⟨⟨t, a⟩, rest, hrejected⟩ := List.exists_cons_of_ne_nil hne
        obtain ⟨e, -, he⟩ := plan_rejected hk ha hrejected
        rw [he] at h
        cases h
  · rintro ⟨kinds, hk, hc, rfl⟩
    rw [plan_complete options hk hc]

end Pass

/-- Skipping never fails and comes to what aborting comes to without the rejected annotations.
Aborting fails exactly when there are any, with the error of the first; when there are none, the two
cannot be told apart. -/
theorem runInto_skip_abort (sink : List Diagnostic) (dialect : Dialect) (s : Scaffold)
    (listed : ListedPolicy) (u : BuildUnit) (kinds : KindRegistry) (hk : u.kinds = some kinds) :
    let skipping := Pass.runInto sink dialect s ⟨listed, .skip⟩
    let aborting := Pass.runInto sink dialect s ⟨listed, .abort⟩
    (∃ o, (skipping u).result = .ok o ∧
        (aborting (u.withoutRejected kinds)).result = .ok o) ∧
      ((∃ e, (aborting u).result = .error e) ↔
        ∃ t ∈ u.types, ∃ a ∈ t.marks, Pass.rejects kinds t a = true) ∧
      match Pass.rejected kinds u.types with
      | [] => skipping u = aborting u
      | (t, a) :: _ => ∃ e, kinds.resolve t.name.qualified a = .error e ∧
          (aborting u).result = .error (.unresolved e) := by
  intro skipping aborting
  have hskip := Pass.plan_complete ⟨listed, .skip⟩ hk nofun
  have hkcleaned : (u.withoutRejected kinds).kinds = some kinds := hk
  have hcleaned := Pass.plan_complete ⟨listed, .abort⟩ hkcleaned
    fun _ => Pass.rejected_withoutRejected u.types
  have hsame : (u.withoutRejected kinds).types.flatMap (Pass.contribution kinds listed) =
      u.types.flatMap (Pass.contribution kinds listed) := by
    simp only [BuildUnit.withoutRejected, List.flatMap_map, Pass.contribution_withoutRejected]
  refine ⟨⟨_, by rw [Pass.result_runInto, hskip]; rfl,
    by rw [Pass.result_runInto, hcleaned, hsame]; rfl⟩, ?_⟩
  cases h : Pass.rejected kinds u.types with
  | nil =>
    have habort := Pass.plan_complete ⟨listed, .abort⟩ hk fun _ => h
    refine ⟨⟨?_, ?_⟩, ?_⟩
    · rintro ⟨e, he⟩
      rw [Pass.result_runInto, habort] at he
      cases he
    · rintro ⟨t, ht, a, ha, hr⟩
      have hmem := Pass.mem_rejected.mpr ⟨ht, ha, hr⟩
      rw [h] at hmem
      cases hmem
    · simp only [skipping, aborting, Pass.runInto, Pass.run, hskip, habort]
  | cons first rest =>
    obtain ⟨t, a⟩ := first
    have hfirst := Pass.mem_rejected.mp (h ▸ List.mem_cons_self)
    have ha : (⟨listed, .abort⟩ : PassOptions).invalid = .abort := rfl
    obtain ⟨e, he, hplan⟩ := Pass.plan_rejected hk ha h
    have herror : (aborting u).result = .error (.unresolved e) := by
      rw [Pass.result_runInto, hplan]
      rfl
    exact ⟨⟨fun _ => ⟨t, hfirst.1, a, hfirst.2⟩, fun _ => ⟨_, herror⟩⟩, e, he, herror⟩

/-- A family of annotations with one that has no meaning of its own. -/
def poolKinds : KindRegistry := KindRegistry.builtin.addDerived "PooledService"

/-- A pool with a contract that is no name of a type. -/
def poolMark : Mark := ⟨"Injectable", [.code 0, .code 4, .text "App."], []⟩

def pool : DeclaredType :=
  { name := ⟨"App", "Pool"⟩
    contracts := [⟨"App", "IPool"⟩]
    marks := [⟨"ScopedService", [], []⟩, poolMark, ⟨"PooledService", [], []⟩] }

def poolUnit : BuildUnit :=
  { name := "App"
    types := [⟨⟨"App", "Clock"⟩, [], [⟨"Obsolete", [], []⟩, ⟨"SingletonService", [], []⟩]⟩, pool]
    kinds := some poolKinds }

theorem poolUnit_skipped :
    poolUnit.kinds = some poolKinds ∧
      (∃ o, (Pass.runInto [] .partialClass .initial ⟨.unchecked, .skip⟩ poolUnit).result = .ok o ∧
        (Pass.runInto [] .partialClass .initial ⟨.unchecked, .abort⟩
          (poolUnit.withoutRejected poolKinds)).result = .ok o) ∧
      (Pass.runInto [] .partialClass .initial ⟨.unchecked, .abort⟩ poolUnit).result =
        .error (.unresolved ⟨"App.Pool", "Injectable", .badContract "App."⟩) := by
  obtain ⟨hskip, -, hfirst⟩ :=
    runInto_skip_abort [] .partialClass .initial .unchecked poolUnit poolKinds rfl
  have hrejected : Pass.rejected poolKinds poolUnit.types =
      [(pool, poolMark), (pool, ⟨"PooledService", [], []⟩)] := by rfl
  rw [hrejected] at hfirst
  obtain ⟨e, he, herror⟩ := hfirst
  have hresolve : poolKinds.resolve pool.name.qualified poolMark =
      .error ⟨"App.Pool", "Injectable", .badContract "App."⟩ := by rfl
  obtain rfl := Except.error.inj (he.symm.trans hresolve)
  exact ⟨rfl, hskip, herror⟩

end ServiceWiring
