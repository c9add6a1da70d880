import ServiceWiring.Proofs.Display

/-! Generic types of one name in several namespaces. Targets look a name up by what stands before its
arguments; a document tells short names apart with their arguments. Such a type is therefore qualified
only where another namespace has the same name with the same arguments. -/
namespace ServiceWiring
open ServiceWiring.Text

namespace TypeName

/-- The commas between generic arguments of the outermost level, behind so many open brackets. -/
def outerCommas : Nat → List Char → Nat
  | _, [] => 0
  | depth, '<' :: cs => outerCommas (depth + 1) cs
  | depth, '>' :: cs => outerCommas (depth - 1) cs
  | depth, ',' :: cs => (if depth = 1 then 1 else 0) + outerCommas depth cs
  | depth, _ :: cs => outerCommas depth cs

/-- How many generic arguments a name has, not counting those of its arguments. -/
def arity (s : String) : Nat :=
  match argumentsOf s with
  | [] => 0
  | cs => outerCommas 0 cs + 1

example : arity "Map<App.Key, Pair<Left, Right>>" = 2 := by decide

/-- Two types of different namespaces, both imported, that go by the same name when they are used: the
same text before the arguments and as many arguments. -/
structure Clashes (t u : TypeName) : Prop where
  spaces_ne : t.space ≠ u.space
  space_ne_empty : t.space ≠ "" ∧ u.space ≠ ""
  head : headOf t.simple = headOf u.simple
  arity : arity t.simple = arity u.simple

theorem Clashes.symm {t u : TypeName} (h : t.Clashes u) : u.Clashes t :=
  ⟨h.spaces_ne.symm, h.space_ne_empty.symm, h.head.symm, h.arity.symm⟩

/-- What tells the simple names of clashing types apart are their arguments. -/
theorem Clashes.simple_eq_iff {t u : TypeName} (h : t.Clashes u) :
    t.simple = u.simple ↔ argumentsOf t.simple = argumentsOf u.simple := by
  refine ⟨fun hsimple => hsimple ▸ rfl, fun harguments => String.toList_injective ?_⟩
  rw [← headOf_append_argumentsOf, ← headOf_append_argumentsOf u.simple, h.head, harguments]

theorem isGlobal_eq_false_iff {t : TypeName} : t.isGlobal = false ↔ t.space ≠ "" := by
  simp [isGlobal]

end TypeName

/-- A qualified name is longer than the short one it ends in. -/
theorem Dialect.qualify_ne_shortName (d : Dialect) {t : TypeName} (h : t.space ≠ "") :
    d.qualify t ≠ d.shortName t := by
  have hglobal : t.isGlobal = false := TypeName.isGlobal_eq_false_iff.mpr h
  have hcut : (d.qualify t).toList =
      (d.root.toList ++ (replaceChar '.' d.separator (t.space ++ ".")).toList) ++
        (d.shortName t).toList := by
    simp [qualify, TypeName.qualified, hglobal, shortName, replaceChar_append]
  have hseparator : (replaceChar '.' d.separator (t.space ++ ".")).toList ≠ [] := by
    cases d <;> simp [toList_replaceChar, separator]
  intro hsame
  rw [hsame, List.self_eq_append_left, List.append_eq_nil_iff] at hcut
  exact hseparator hcut.2

namespace DisplayNames

/-- No type is shown by its short name where another imported namespace has a type that goes by it. -/
def Unambiguous (names : DisplayNames) (dialect : Dialect) (types : List TypeName) : Prop :=
  ∀ t ∈ types, ∀ u ∈ types, t.Clashes u →
    names.get t ≠ dialect.shortName t ∧ names.get u ≠ dialect.shortName u

variable {dialect : Dialect} {types : List TypeName} {t u : TypeName}

/-- A type of a namespace is kept from its short name by another of the same simple name, and by nothing
else. -/
theorem get_ne_shortName_iff (ht : t ∈ types) (hspace : t.space ≠ "") :
    (ofTypes dialect types).get t ≠ dialect.shortName t ↔ SharesName types t := by
  rw [get_ofTypes ht]
  by_cases h : SharesName types t
  · simpa [shown_of_sharesName h, h] using dialect.qualify_ne_shortName hspace
  · simp [shown_of_not_sharesName h, h]

theorem sharesName_of_clashes (hu : u ∈ types) (h : t.Clashes u)
    (harguments : TypeName.argumentsOf t.simple = TypeName.argumentsOf u.simple) :
    SharesName types t :=
  ⟨u, hu, (h.simple_eq_iff.mpr harguments).symm, h.spaces_ne.symm⟩

theorem unambiguous_iff :
    (ofTypes dialect types).Unambiguous dialect types ↔
      ∀ t ∈ types, ∀ u ∈ types, t.Clashes u → SharesName types t := by
  constructor
  · intro h t ht u hu hclash
    exact (get_ne_shortName_iff ht hclash.space_ne_empty.1).mp (h t ht u hu hclash).1
  · intro h t ht u hu hclash
    exact ⟨(get_ne_shortName_iff ht hclash.space_ne_empty.1).mpr (h t ht u hu hclash),
      (get_ne_shortName_iff hu hclash.space_ne_empty.2).mpr (h u hu t ht hclash.symm)⟩

end DisplayNames

/-- Types that clash are both imported, and are both qualified where their arguments are the same. Where
they are not, a type is short unless some other namespace has its name with the same arguments; so the
names of a document are unambiguous only if every type that clashes has such a namesake. -/
theorem emit_clashes (dialect : Dialect) (s : Scaffold) (rs : List Registration) :
    match emit dialect s rs with
    | none => rs = []
    | some d =>
      let types := rs.flatMap Registration.types
      let names := DisplayNames.ofTypes dialect types
      Grouped (bindingOf names) rs d.groups ∧
        (∀ t ∈ types, ∀ u ∈ types, t.Clashes u →
          (dialect.namespacePath t.space ∈ d.imports ∧ dialect.namespacePath u.space ∈ d.imports) ∧
            (TypeName.argumentsOf t.simple = TypeName.argumentsOf u.simple →
              names.get t = dialect.qualify t ∧ names.get u = dialect.qualify u) ∧
            (names.get t = dialect.shortName t ↔ ¬SharesName types t)) ∧
        (names.Unambiguous dialect types ↔
          ∀ t ∈ types, ∀ u ∈ types, t.Clashes u → SharesName types t) := by
  cases hd : emit dialect s rs with
  | none => exact emit_eq_none_iff.mp hd
  | some d =>
    obtain ⟨-, -, himports, hgroups⟩ := outline_of_emit hd
    refine ⟨hgroups ▸ groupsIn_grouped _ _, fun t ht u hu hclash => ⟨?_, ?_, ?_⟩,
      DisplayNames.unambiguous_iff⟩
    · obtain ⟨htspace, huspace⟩ := hclash.space_ne_empty
      rw [himports]
      exact ⟨namespacePath_mem_importsOf s ht (TypeName.isGlobal_eq_false_iff.mpr htspace),
        namespacePath_mem_importsOf s hu (TypeName.isGlobal_eq_false_iff.mpr huspace)⟩
    · intro harguments
      have htshares := DisplayNames.sharesName_of_clashes hu hclash harguments
      have hushares := DisplayNames.sharesName_of_clashes ht hclash.symm harguments.symm
      rw [DisplayNames.get_ofTypes ht, DisplayNames.get_ofTypes hu]
      exact ⟨DisplayNames.shown_of_sharesName htshares, DisplayNames.shown_of_sharesName hushares⟩
    · rw [← DisplayNames.get_ne_shortName_iff ht hclash.space_ne_empty.1, not_not]

/-- A repository of orders in two namespaces, and one of customers in a third. -/
def repositoryRegistrations : List Registration :=
  [⟨"Shop.Orders", none, ⟨"Shop", "Repo<Core.Order>"⟩, ⟨"Shop", "Orders"⟩, .scoped⟩,
   ⟨"Depot.Orders", none, ⟨"Depot", "Repo<Core.Order>"⟩, ⟨"Depot", "Shelf"⟩, .scoped⟩,
   ⟨"Crm.Customers", none, ⟨"Crm", "Repo<Core.Customer>"⟩, ⟨"Crm", "Customers"⟩, .scoped⟩]

theorem repositoryRegistrations_qualified :
    ∃ d, emit .partialClass .initial repositoryRegistrations = some d ∧
      let types := repositoryRegistrations.flatMap Registration.types
      let names := DisplayNames.ofTypes .partialClass types
      ⟨"Shop", "Repo<Core.Order>"⟩ ∈ types ∧ ⟨"Depot", "Repo<Core.Order>"⟩ ∈ types ∧
        TypeName.Clashes ⟨"Shop", "Repo<Core.Order>"⟩ ⟨"Depot", "Repo<Core.Order>"⟩ ∧
        names.get ⟨"Shop", "Repo<Core.Order>"⟩ = "Shop.Repo<Core.Order>" ∧
        names.get ⟨"Depot", "Repo<Core.Order>"⟩ = "Depot.Repo<Core.Order>" := by
  have hclash : TypeName.Clashes ⟨"Shop", "Repo<Core.Order>"⟩ ⟨"Depot", "Repo<Core.Order>"⟩ :=
    ⟨by decide, by decide, by decide, by decide⟩
  have hshop : (⟨"Shop", "Repo<Core.Order>"⟩ : TypeName) ∈
      repositoryRegistrations.flatMap Registration.types := by decide
  have hdepot : (⟨"Depot", "Repo<Core.Order>"⟩ : TypeName) ∈
      repositoryRegistrations.flatMap Registration.types := by decide
  obtain ⟨-, hclashes, -⟩ := emit_clashes .partialClass .initial repositoryRegistrations
  obtain ⟨-, hqualified, -⟩ := hclashes _ hshop _ hdepot hclash
  obtain ⟨hshopName, hdepotName⟩ := hqualified rfl
  exact ⟨_, rfl, hshop, hdepot, hclash, hshopName.trans (by decide), hdepotName.trans (by decide)⟩

/-- Orders and customers only. -/
def clashingRepositories : List Registration :=
  [⟨"Shop.Orders", none, ⟨"Shop", "Repo<Core.Order>"⟩, ⟨"Shop", "Orders"⟩, .scoped⟩,
   ⟨"Crm.Customers", none, ⟨"Crm", "Repo<Core.Customer>"⟩, ⟨"Crm", "Customers"⟩, .scoped⟩]

theorem clashingRepositories_ambiguous :
    ∃ d, emit .partialClass .initial clashingRepositories = some d ∧
      "Shop" ∈ d.imports ∧ "Crm" ∈ d.imports ∧
      let types := clashingRepositories.flatMap Registration.types
      let names := DisplayNames.ofTypes .partialClass types
      names.get ⟨"Shop", "Repo<Core.Order>"⟩ = "Repo<Core.Order>" ∧
        names.get ⟨"Crm", "Repo<Core.Customer>"⟩ = "Repo<Core.Customer>" ∧
        ¬names.Unambiguous .partialClass types := by
  have hshown : (DisplayNames.ofTypes .partialClass
      (clashingRepositories.flatMap Registration.types)).get ⟨"Shop", "Repo<Core.Order>"⟩ =
        "Repo<Core.Order>" := by decide
  refine ⟨_, rfl, by decide +kernel, by decide +kernel, hshown, by decide, fun h => ?_⟩
  exact (h ⟨"Shop", "Repo<Core.Order>"⟩ (by decide) ⟨"Crm", "Repo<Core.Customer>"⟩ (by decide)
    ⟨by decide, by decide, by decide, by decide⟩).1 (hshown.trans (by decide))

end ServiceWiring
