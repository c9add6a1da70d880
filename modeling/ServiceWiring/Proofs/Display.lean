import ServiceWiring.Proofs.Imports
import ServiceWiring.Proofs.Keyed
import ServiceWiring.Proofs.Sorted
import ServiceWiring.Proofs.TypeName

/-! The names that a document shows types by. A type goes by its simple name where that is its own,
so that no two types of a document look the same. -/
namespace ServiceWiring
open ServiceWiring.Text

/-- Another of the types has the same simple name in another namespace. -/
def SharesName (types : List TypeName) (t : TypeName) : Prop :=
  ∃ u ∈ types, u.simple = t.simple ∧ u.space ≠ t.space

theorem eq_of_not_sharesName {types : List TypeName} {t u : TypeName} (ht : t ∈ types)
    (hu : ¬SharesName types u) (h : t.simple = u.simple) : t = u := by
  have hspace : t.space = u.space := by
    by_contra hne
    exact hu ⟨t, ht, h, hne⟩
  cases t
  cases u
  simp_all

namespace Dialect

/-- A host can write the name, and in it the dialect can tell its own separators from other text. -/
structure Spells (d : Dialect) (t : TypeName) : Prop where
  parsed : t.Parsed
  colon_not_mem : d = .extensionTrait → ':' ∉ t.space.toList ∧ ':' ∉ t.simple.toList

/-- What stands before the qualified names of a host, in its own spelling. -/
def rootPath : Dialect → String
  | .partialClass => ""
  | .extensionTrait => "crate."

theorem qualify_eq (d : Dialect) (t : TypeName) :
    d.qualify t = replaceChar '.' d.separator (d.rootPath ++ t.qualified) := by
  have hroot : d.root = replaceChar '.' d.separator d.rootPath := by cases d <;> decide
  rw [replaceChar_append, ← hroot, qualify]

theorem eq_of_replaceChar_eq {d : Dialect} {s t : String}
    (hs : d = .extensionTrait → ':' ∉ s.toList) (ht : d = .extensionTrait → ':' ∉ t.toList)
    (h : replaceChar '.' d.separator s = replaceChar '.' d.separator t) : s = t := by
  cases d with
  | partialClass =>
    rwa [replaceChar_self (by rfl), replaceChar_self (by rfl)] at h
  | extensionTrait => exact replaceChar_injective rfl (hs rfl) (ht rfl) h

section Spelled
variable {d : Dialect} {t u : TypeName}

theorem colon_not_mem_qualified (ht : d.Spells t) (hd : d = .extensionTrait) :
    ':' ∉ (d.rootPath ++ t.qualified).toList := by
  obtain ⟨hspace, hsimple⟩ := ht.colon_not_mem hd
  have hqualified : ':' ∉ t.qualified.toList := by
    rw [TypeName.qualified]
    split <;> simp [hspace, hsimple]
  simp [hd, rootPath, hqualified]

theorem qualify_injective (ht : d.Spells t) (hu : d.Spells u) (h : d.qualify t = d.qualify u) :
    t = u := by
  rw [qualify_eq, qualify_eq] at h
  have hpaths := eq_of_replaceChar_eq (colon_not_mem_qualified ht) (colon_not_mem_qualified hu) h
  exact TypeName.qualified_injective ht.parsed hu.parsed (by simpa using hpaths)

/-- Short names of the same look belong to the same simple name. -/
theorem simple_eq_of_shortName_eq (ht : d.Spells t) (hu : d.Spells u)
    (h : d.shortName t = d.shortName u) : t.simple = u.simple :=
  eq_of_replaceChar_eq (fun hd => (ht.colon_not_mem hd).2) (fun hd => (hu.colon_not_mem hd).2) h

/-- A qualified name looks like a short one only where there is nothing to qualify it by. -/
theorem simple_eq_of_qualify_eq (ht : d.Spells t) (hu : d.Spells u)
    (h : d.qualify t = d.shortName u) : t.simple = u.simple := by
  rw [qualify_eq, shortName] at h
  have hpath := eq_of_replaceChar_eq (colon_not_mem_qualified ht)
    (fun hd => (hu.colon_not_mem hd).2) h
  have hdot : '.' ∉ TypeName.headOf (d.rootPath ++ t.qualified) :=
    hpath ▸ TypeName.dot_not_mem_headOf_simple hu.parsed
  cases d with
  | extensionTrait => exact absurd hdot (by simp [TypeName.headOf, rootPath])
  | partialClass =>
    rw [rootPath, String.empty_append] at hdot hpath
    cases hglobal : t.isGlobal with
    | true => simpa [TypeName.qualified, hglobal] using hpath
    | false => exact absurd (TypeName.dot_mem_headOf_qualified ht.parsed hglobal) hdot

end Spelled

end Dialect

namespace DisplayNames
variable {dialect : Dialect} {types : List TypeName} {t u : TypeName}

theorem isAmbiguous_iff : isAmbiguous types t = true ↔ SharesName types t := by
  simp [isAmbiguous, SharesName]

section Table

/-- The namespaces under each simple name, put in type by type, every one once. -/
def namespaceTable (types : List TypeName) : List (String × List String) :=
  types.foldl (fun table t => Keyed.written table t.simple
    (Sorted.insert t.space ((table.lookup t.simple).getD []))) []

def namespacesOf (types : List TypeName) (simple : String) : List String :=
  ((namespaceTable types).lookup simple).getD []

theorem namespacesOf_concat (types : List TypeName) (t : TypeName) (simple : String) :
    namespacesOf (types ++ [t]) simple =
      if simple = t.simple then Sorted.insert t.space (namespacesOf types t.simple)
      else namespacesOf types simple := by
  rw [namespacesOf, namespaceTable, List.foldl_append, List.foldl_cons, List.foldl_nil,
    Keyed.lookup_written]
  split <;> rfl

/-- The table has the namespaces of the types of that name and no others. -/
theorem namespacesOf_eq (types : List TypeName) (simple : String) :
    namespacesOf types simple =
      Sorted.ofList ((types.filter (·.simple == simple)).map TypeName.space) := by
  induction types using List.reverseRecOn generalizing simple with
  | nil => rfl
  | append_singleton types t ih =>
    rw [namespacesOf_concat, ih, ih, List.filter_append, List.map_append]
    by_cases h : simple = t.simple
    · subst h
      -- the new namespace comes first where it is put in, and last in the list of all
      have hsame (spaces : List String) (space : String) :
          space ∈ t.space :: spaces ↔ space ∈ spaces ++ [t.space] := by simp [or_comm]
      have hfilter : [t].filter (·.simple == t.simple) = [t] := by simp
      rw [if_pos rfl, hfilter]
      exact Sorted.ofList_congr (hsame _)
    · have hne : (t.simple == simple) = false := beq_false_of_ne (Ne.symm h)
      simp [h, hne]

private theorem one_lt_length_iff {a : String} {items : List String} (hitems : items.Nodup)
    (ha : a ∈ items) : 1 < items.length ↔ ∃ b ∈ items, b ≠ a := by
  cases items with
  | nil => cases ha
  | cons b rest =>
    cases rest with
    | nil => simp [List.mem_singleton.mp ha]
    | cons c rest =>
      have hbc : b ≠ c := fun e => (List.nodup_cons.mp hitems).1 (e ▸ List.mem_cons_self)
      refine ⟨fun _ => ?_, fun _ => by simp⟩
      by_cases hb : b = a
      · exact ⟨c, by simp, fun hc => hbc (hb.trans hc.symm)⟩
      · exact ⟨b, List.mem_cons_self, hb⟩

/-- A type is ambiguous exactly where the table has more than one namespace for its simple name. -/
theorem isAmbiguous_iff_namespacesOf (ht : t ∈ types) :
    isAmbiguous types t = true ↔ 1 < (namespacesOf types t.simple).length := by
  have hmem (space : String) : space ∈ namespacesOf types t.simple ↔
      ∃ u ∈ types, u.simple = t.simple ∧ u.space = space := by
    rw [namespacesOf_eq, Sorted.mem_ofList]
    simp [and_assoc]
  have hnodup : (namespacesOf types t.simple).Nodup :=
    namespacesOf_eq types t.simple ▸ Sorted.nodup_ofList _
  rw [one_lt_length_iff hnodup ((hmem t.space).mpr ⟨t, ht, rfl, rfl⟩), isAmbiguous_iff]
  constructor
  · rintro ⟨u, hu, hsimple, hne⟩
    exact ⟨u.space, (hmem u.space).mpr ⟨u, hu, hsimple, rfl⟩, hne⟩
  · rintro ⟨space, hspace, hne⟩
    obtain ⟨u, hu, hsimple, rfl⟩ := (hmem space).mp hspace
    exact ⟨u, hu, hsimple, hne⟩

end Table

theorem shown_of_sharesName (h : SharesName types t) :
    shown dialect types t = dialect.qualify t := by
  rw [shown, if_pos (isAmbiguous_iff.mpr h)]

theorem shown_of_not_sharesName (h : ¬SharesName types t) :
    shown dialect types t = dialect.shortName t := by
  rw [shown, if_neg fun ha => h (isAmbiguous_iff.mp ha)]

private theorem lookup_map {α β : Type} [BEq α] [LawfulBEq α] (f : α → β) {as : List α} {a : α}
    (h : a ∈ as) : (as.map fun b => (b, f b)).lookup a = some (f a) := by
  induction as with
  | nil => cases h
  | cons b as ih =>
    by_cases hab : a = b
    · simp [hab]
    · have hne : (a == b) = false := beq_false_of_ne hab
      simpa [List.lookup_cons, hne] using ih ((List.mem_cons.mp h).resolve_left hab)

theorem get?_ofTypes (ht : t ∈ types) :
    (ofTypes dialect types).get? t = some (shown dialect types t) :=
  lookup_map (shown dialect types) (List.mem_eraseDups.mpr ht)

theorem get_ofTypes (ht : t ∈ types) : (ofTypes dialect types).get t = shown dialect types t := by
  rw [get, get?_ofTypes ht, Option.getD_some]

theorem get?_ofTypes_of_not_mem (ht : t ∉ types) : (ofTypes dialect types).get? t = none := by
  refine List.lookup_eq_none_iff.mpr fun p hp => ?_
  obtain ⟨u, hu, rfl⟩ := List.mem_map.mp hp
  have hne : t ≠ u := fun e => ht (e ▸ List.mem_eraseDups.mp hu)
  simpa using hne

/-- Names do not depend on the order in which types are referred to, nor on how often. -/
theorem get_ofTypes_congr {others : List TypeName} (h : ∀ t, t ∈ types ↔ t ∈ others) :
    (ofTypes dialect types).get = (ofTypes dialect others).get := by
  have hshares (t : TypeName) : SharesName types t ↔ SharesName others t := by
    simp only [SharesName, h]
  funext t
  by_cases ht : t ∈ types
  · have hambiguous : isAmbiguous types t = isAmbiguous others t := by
      rw [Bool.eq_iff_iff, isAmbiguous_iff, isAmbiguous_iff, hshares]
    rw [get_ofTypes ht, get_ofTypes ((h t).mp ht), shown, shown, hambiguous]
  · rw [get, get, get?_ofTypes_of_not_mem ht, get?_ofTypes_of_not_mem fun hu => ht ((h t).mpr hu)]

/-- No two types look the same, whether qualified or short. -/
theorem shown_injective (htypes : ∀ t ∈ types, dialect.Spells t) (ht : t ∈ types) (hu : u ∈ types)
    (h : shown dialect types t = shown dialect types u) : t = u := by
  have hts := htypes t ht
  have hus := htypes u hu
  by_cases htshares : SharesName types t <;> by_cases hushares : SharesName types u
  · rw [shown_of_sharesName htshares, shown_of_sharesName hushares] at h
    exact Dialect.qualify_injective hts hus h
  · rw [shown_of_sharesName htshares, shown_of_not_sharesName hushares] at h
    exact eq_of_not_sharesName ht hushares (Dialect.simple_eq_of_qualify_eq hts hus h)
  · rw [shown_of_not_sharesName htshares, shown_of_sharesName hushares] at h
    have hsimple := Dialect.simple_eq_of_qualify_eq hus hts h.symm
    exact (eq_of_not_sharesName hu htshares hsimple).symm
  · rw [shown_of_not_sharesName htshares, shown_of_not_sharesName hushares] at h
    exact eq_of_not_sharesName ht hushares (Dialect.simple_eq_of_shortName_eq hts hus h)

/-- The names tell the types apart: each is found, is qualified exactly where its simple name is
shared, can be reached by an import where it is short, and belongs to one type only. -/
structure Identify (names : DisplayNames) (dialect : Dialect) (types : List TypeName)
    (imports : List String) : Prop where
  found : ∀ t ∈ types, names.get? t = some (names.get t)
  qualified : ∀ t ∈ types, SharesName types t → names.get t = dialect.qualify t
  short : ∀ t ∈ types, ¬SharesName types t → names.get t = dialect.shortName t
  imported : ∀ t ∈ types, ¬SharesName types t → t.isGlobal = false →
    dialect.namespacePath t.space ∈ imports
  distinct : ∀ t ∈ types, ∀ u ∈ types, names.get t = names.get u → t = u

end DisplayNames

/-- The bindings of a document show its types by names that tell them apart. -/
theorem emit_identifies (dialect : Dialect) (s : Scaffold) (rs : List Registration)
    (hrs : ∀ t ∈ rs.flatMap Registration.types, dialect.Spells t) :
    match emit dialect s rs with
    | none => rs = []
    | some d =>
      let names := DisplayNames.ofTypes dialect (rs.flatMap Registration.types)
      Grouped (bindingOf names) rs d.groups ∧
        names.Identify dialect (rs.flatMap Registration.types) d.imports := by
  cases hd : emit dialect s rs with
  | none => exact emit_eq_none_iff.mp hd
  | some d =>
    obtain ⟨-, -, himports, hgroups⟩ := outline_of_emit hd
    refine ⟨hgroups ▸ groupsIn_grouped _ _, ?_, ?_, ?_, ?_, ?_⟩
    · intro t ht
      rw [DisplayNames.get_ofTypes ht, DisplayNames.get?_ofTypes ht]
    · intro t ht hshares
      rw [DisplayNames.get_ofTypes ht, DisplayNames.shown_of_sharesName hshares]
    · intro t ht hshares
      rw [DisplayNames.get_ofTypes ht, DisplayNames.shown_of_not_sharesName hshares]
    · intro t ht _ hglobal
      exact himports ▸ namespacePath_mem_importsOf s ht hglobal
    · intro t ht u hu h
      rw [DisplayNames.get_ofTypes ht, DisplayNames.get_ofTypes hu] at h
      exact DisplayNames.shown_injective hrs ht hu h

/-- A name in two namespaces and in none, beside names with generic arguments. -/
def clashingRegistrations : List Registration :=
  [⟨"Shop.Store", none, ⟨"", "Store"⟩, ⟨"Shop", "Store"⟩, .singleton⟩,
   ⟨"Depot.Store", some "NET8", ⟨"crate", "Repo<Shop.Store>"⟩, ⟨"Depot", "Store"⟩, .scoped⟩,
   ⟨"Clock", none, ⟨"", "Repo<crate.Store>"⟩, ⟨"", "Clock"⟩, .transient⟩]

theorem clashingRegistrations_identified :
    (∀ t ∈ clashingRegistrations.flatMap Registration.types, Dialect.extensionTrait.Spells t) ∧
      ∃ d, emit .extensionTrait .initial clashingRegistrations = some d ∧
        let types := clashingRegistrations.flatMap Registration.types
        let names := DisplayNames.ofTypes .extensionTrait types
        names.Identify .extensionTrait types d.imports ∧
          types.map names.get =
            ["crate::Store", "crate::Shop::Store", "Repo<Shop::Store>", "crate::Depot::Store",
              "Repo<crate::Store>", "Clock"] := by
  have hparsed : ∀ t ∈ clashingRegistrations.flatMap Registration.types,
      TypeName.parse? t.qualified = some t := by decide +kernel
  have hcolons : ∀ t ∈ clashingRegistrations.flatMap Registration.types,
      ':' ∉ t.space.toList ∧ ':' ∉ t.simple.toList := by decide +kernel
  have hspells : ∀ t ∈ clashingRegistrations.flatMap Registration.types,
      Dialect.extensionTrait.Spells t :=
    fun t ht => ⟨⟨t.qualified, hparsed t ht⟩, fun _ => hcolons t ht⟩
  have hidentified := emit_identifies .extensionTrait .initial clashingRegistrations hspells
  exact ⟨hspells, _, rfl, hidentified.2, by decide +kernel⟩

end ServiceWiring
