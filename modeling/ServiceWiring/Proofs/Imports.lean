import ServiceWiring.Proofs.Grouping
import ServiceWiring.Proofs.Sorted

/-! The imports of a document: the namespaces of all types that its registrations refer to, and that of the
container. They are sorted, so that nothing is left in them of how the registrations came. -/
namespace ServiceWiring
variable {dialect : Dialect} {s : Scaffold} {rs qs : List Registration}

theorem mem_importsOf {path : String} :
    path ∈ importsOf dialect s rs ↔
      (∃ t ∈ rs.flatMap Registration.types, t.space ≠ "" ∧ path = dialect.namespacePath t.space) ∨
        s.container.getD dialect.container ≠ "" ∧
          path = dialect.containerPath (s.container.getD dialect.container) := by
  rw [importsOf, Sorted.mem_ofList, List.mem_append]
  apply or_congr
  · constructor
    · intro h
      obtain ⟨_, hspace, rfl⟩ := List.mem_map.mp h
      obtain ⟨t, ht, rfl⟩ := List.mem_map.mp hspace
      obtain ⟨ht, hglobal⟩ := List.mem_filter.mp ht
      exact ⟨t, ht, by simpa [TypeName.isGlobal] using hglobal, rfl⟩
    · rintro ⟨t, ht, hspace, rfl⟩
      apply List.mem_map_of_mem
      apply List.mem_map_of_mem
      exact List.mem_filter.mpr ⟨ht, by simpa [TypeName.isGlobal] using hspace⟩
  · by_cases hcontainer : s.container.getD dialect.container = "" <;> simp [hcontainer]

/-- Imports stand in the order of their code points. -/
theorem pairwise_lt_importsOf : (importsOf dialect s rs).Pairwise (· < ·) :=
  (Sorted.pairwise_ofList _).imp compareOfLessAndEq_eq_lt.mp

theorem namespacePath_mem_importsOf (s : Scaffold) {t : TypeName}
    (ht : t ∈ rs.flatMap Registration.types) (hglobal : t.isGlobal = false) :
    dialect.namespacePath t.space ∈ importsOf dialect s rs :=
  mem_importsOf.mpr (.inl ⟨t, ht, by simpa [TypeName.isGlobal] using hglobal, rfl⟩)

/-- Only the types count, and more of them only add imports. -/
theorem importsOf_subset
    (h : ∀ t ∈ rs.flatMap Registration.types, t ∈ qs.flatMap Registration.types) :
    importsOf dialect s rs ⊆ importsOf dialect s qs := by
  intro path hpath
  rw [mem_importsOf] at hpath ⊢
  apply hpath.imp_left
  rintro ⟨t, ht, hspace⟩
  exact ⟨t, h t ht, hspace⟩

theorem importsOf_congr
    (h : ∀ t, t ∈ rs.flatMap Registration.types ↔ t ∈ qs.flatMap Registration.types) :
    importsOf dialect s rs = importsOf dialect s qs := by
  apply Sorted.ofList_congr
  intro path
  simp only [List.mem_append, List.mem_map, List.mem_filter, h]

/-- Registrations of the same types: in another order, some of them twice, under other labels or in other
groups. -/
inductive Rearranged : List Registration → List Registration → Prop where
  | reordered {rs qs : List Registration} : rs.Perm qs → Rearranged rs qs
  | duplicated {r : Registration} {rs : List Registration} : r ∈ rs → Rearranged rs (r :: rs)
  | relabelled {rs qs : List Registration} :
      (rs.map fun r => { r with label := none }) = (qs.map fun r => { r with label := none }) →
        Rearranged rs qs
  | regrouped {rs qs : List Registration} :
      (rs.map fun r => { r with group := "" }) = (qs.map fun r => { r with group := "" }) →
        Rearranged rs qs
  | trans {rs qs ps : List Registration} : Rearranged rs qs → Rearranged qs ps → Rearranged rs ps

/-- What is changed about registrations without touching their types does not change the types of all. -/
private theorem flatMap_types_of_map {change : Registration → Registration}
    (h : rs.map change = qs.map change) (hchange : ∀ r, (change r).types = r.types) :
    rs.flatMap Registration.types = qs.flatMap Registration.types := by
  have htypes := congrArg (List.flatMap Registration.types) h
  simpa only [List.flatMap_map, hchange] using htypes

theorem Rearranged.mem_types_iff (h : Rearranged rs qs) (t : TypeName) :
    t ∈ rs.flatMap Registration.types ↔ t ∈ qs.flatMap Registration.types := by
  induction h with
  | reordered hperm => exact (hperm.flatMap_right Registration.types).mem_iff
  | @duplicated r rs hr =>
    rw [List.flatMap_cons, List.mem_append, or_iff_right_of_imp]
    intro ht
    exact List.mem_flatMap.mpr ⟨r, hr, ht⟩
  | relabelled hsame => rw [flatMap_types_of_map hsame fun _ => rfl]
  | regrouped hsame => rw [flatMap_types_of_map hsame fun _ => rfl]
  | trans _ _ ih ih' => exact ih.trans ih'

/-- Where there is a document of registrations, there is one of any others that refer to all their types. -/
theorem exists_emit_of_types (dialect : Dialect) (s : Scaffold) (hrs : rs ≠ [])
    (h : ∀ t ∈ rs.flatMap Registration.types, t ∈ qs.flatMap Registration.types) :
    ∃ e, emit dialect s qs = some e ∧ e.imports = importsOf dialect s qs := by
  have hqs : qs ≠ [] := by
    rintro rfl
    obtain ⟨r, hr⟩ := List.exists_mem_of_ne_nil rs hrs
    have hservice := h r.service (List.mem_flatMap.mpr ⟨r, hr, List.mem_cons_self⟩)
    cases hservice
  cases he : emit dialect s qs with
  | none => exact absurd (emit_eq_none_iff.mp he) hqs
  | some e =>
    obtain ⟨-, -, himports, -⟩ := outline_of_emit he
    exact ⟨e, rfl, himports⟩

/-- A document imports the namespaces of the types that it binds, but for the global one, and that of the
container unless this is the global one; nothing else, each once, and in order. Registrations of the same
types have the same imports, and further ones only add to them. -/
theorem emit_imports (dialect : Dialect) (s : Scaffold) (rs : List Registration) :
    match emit dialect s rs with
    | none => rs = []
    | some d =>
      let container := s.container.getD dialect.container
      d.imports.Pairwise (· < ·) ∧
        (∀ path, path ∈ d.imports ↔
          (∃ t ∈ rs.flatMap Registration.types,
            t.space ≠ "" ∧ path = dialect.namespacePath t.space) ∨
            container ≠ "" ∧ path = dialect.containerPath container) ∧
        (∀ qs, Rearranged rs qs → ∃ e, emit dialect s qs = some e ∧ e.imports = d.imports) ∧
        ∀ qs, rs ⊆ qs → ∃ e, emit dialect s qs = some e ∧ d.imports ⊆ e.imports := by
  cases hd : emit dialect s rs with
  | none => exact emit_eq_none_iff.mp hd
  | some d =>
    obtain ⟨-, -, himports, -⟩ := outline_of_emit hd
    have hrs : rs ≠ [] := fun hnil => by simp [emit_eq_none_iff.mpr hnil] at hd
    simp only [himports]
    refine ⟨pairwise_lt_importsOf, fun path => mem_importsOf, fun qs hqs => ?_, fun qs hqs => ?_⟩
    · have htypes := hqs.mem_types_iff
      obtain ⟨e, he, heimports⟩ :=
        exists_emit_of_types dialect s hrs fun t ht => (htypes t).mp ht
      exact ⟨e, he, heimports.trans (importsOf_congr htypes).symm⟩
    · have htypes : ∀ t ∈ rs.flatMap Registration.types, t ∈ qs.flatMap Registration.types :=
        fun t ht => by
          obtain ⟨r, hr, ht⟩ := List.mem_flatMap.mp ht
          exact List.mem_flatMap.mpr ⟨r, hqs hr, ht⟩
      obtain ⟨e, he, heimports⟩ := exists_emit_of_types dialect s hrs htypes
      exact ⟨e, he, heimports ▸ importsOf_subset htypes⟩

/-- The path of the container can be that of a namespace of the host. -/
example :
    importsOf .extensionTrait { Scaffold.initial with container := some "crate::App" }
      [⟨"App.Store", none, ⟨"App", "IStore"⟩, ⟨"App", "Store"⟩, .scoped⟩] = ["crate::App"] := by
  decide +kernel

end ServiceWiring
