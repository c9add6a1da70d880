import ServiceWiring.Proofs.Contiguity
import ServiceWiring.Proofs.Display
import ServiceWiring.Proofs.Skipping

/-! Declared types in another order. Types of different names do not interfere, so that nothing but
the order of registrations and of groups tells the two passes apart. -/
namespace ServiceWiring

/-- Documents that differ in the order of their groups and in their text only. -/
structure Document.SameGroups (d e : Document) : Prop where
  hintName : d.hintName = e.hintName
  space : d.space = e.space
  imports : d.imports = e.imports
  names_nodup : (d.groups.map Group.name).Nodup
  groups : d.groups.Perm e.groups

/-- Registrations that keep their order within each group come to the same document, groups put
elsewhere. -/
theorem emit_sameGroups {dialect : Dialect} {s : Scaffold} {rs qs : List Registration}
    {d e : Document} (hperm : rs.Perm qs) (hgroups : ∀ g, inGroup g rs = inGroup g qs)
    (hd : emit dialect s rs = some d) (he : emit dialect s qs = some e) : d.SameGroups e := by
  have htypes : ∀ t, t ∈ rs.flatMap Registration.types ↔ t ∈ qs.flatMap Registration.types :=
    fun _ => (hperm.flatMap_right Registration.types).mem_iff
  have himage : bindingOf (.ofTypes dialect (rs.flatMap Registration.types)) =
      bindingOf (.ofTypes dialect (qs.flatMap Registration.types)) := by
    funext r
    rw [bindingOf, bindingOf, DisplayNames.get_ofTypes_congr htypes]
  obtain ⟨hdhint, hdspace, hdimports, hdgroups⟩ := outline_of_emit hd
  obtain ⟨hehint, hespace, heimports, hegroups⟩ := outline_of_emit he
  constructor
  · rw [hdhint, hehint]
  · rw [hdspace, hespace]
  · rw [hdimports, heimports, importsOf_congr htypes]
  · rw [hdgroups]
    exact (groupsIn_grouped _ rs).names_nodup
  · rw [hdgroups, hegroups, himage]
    exact groupsIn_perm _ hgroups

/-- Different types have groups of their own. -/
theorem nodup_groupName {types : List DeclaredType} (hnames : (types.map DeclaredType.name).Nodup)
    (hparsed : ∀ t ∈ types, t.name.Parsed) : (types.map DeclaredType.groupName).Nodup := by
  have hqualified : ((types.map DeclaredType.name).map TypeName.qualified).Nodup := by
    refine hnames.map_on fun n hn m hm h => ?_
    obtain ⟨t, ht, rfl⟩ := List.mem_map.mp hn
    obtain ⟨u, hu, rfl⟩ := List.mem_map.mp hm
    exact TypeName.qualified_injective (hparsed t ht) (hparsed u hu) h
  rwa [List.map_map] at hqualified

namespace Pass

/-- The registrations of a type within a whole pass. -/
def Outcome.registrationsOf (o : Outcome) (t : DeclaredType) : List Registration :=
  o.registrations.filter (·.implementation == t.name)

/-- What comes of types in one order, against what comes of the same types in another: the same
registrations of each type, type after type, and the same groups in their documents, in the order of
the types. -/
structure Outcome.Reordered (types others : List DeclaredType) (o p : Outcome) : Prop where
  contributed : ∀ t ∈ types, o.registrationsOf t = p.registrationsOf t
  in_order : o.registrations = types.flatMap o.registrationsOf
  others_in_order : p.registrations = others.flatMap p.registrationsOf
  document : o.document = none ↔ p.document = none
  same_groups : ∀ d ∈ o.document, ∀ e ∈ p.document, d.SameGroups e
  groups_in_order : ∀ d ∈ o.document,
    (d.groups.map Group.name).Sublist (types.map DeclaredType.groupName)
  others_groups_in_order : ∀ e ∈ p.document,
    (e.groups.map Group.name).Sublist (others.map DeclaredType.groupName)

/-- The contributions of types in their order, with the document that is written from them. -/
def Outcome.ofContributions (dialect : Dialect) (s : Scaffold) (kinds : KindRegistry)
    (policy : ListedPolicy) (types : List DeclaredType) : Outcome :=
  ⟨types.flatMap (contribution kinds policy),
    emit dialect s (types.flatMap (contribution kinds policy))⟩

section Contributed
variable {kinds : KindRegistry} {policy : ListedPolicy} {types others : List DeclaredType}

theorem filter_flatMap_contribution (hnames : (types.map DeclaredType.name).Nodup) {t : DeclaredType}
    (ht : t ∈ types) :
    (types.flatMap (contribution kinds policy)).filter (·.implementation == t.name) =
      contribution kinds policy t :=
  filter_flatMap_of_mem (fun _ _ _ hr => (owner_of_mem_contribution hr).1) hnames ht

/-- The groups of a document follow the types. -/
theorem groups_sublist_of_emit {dialect : Dialect} {s : Scaffold} {d : Document}
    (hgroups : (types.map DeclaredType.groupName).Nodup)
    (hd : emit dialect s (types.flatMap (contribution kinds policy)) = some d) :
    (d.groups.map Group.name).Sublist (types.map DeclaredType.groupName) := by
  obtain ⟨-, -, -, hgroupsIn⟩ := outline_of_emit hd
  rw [hgroupsIn, (groupsIn_grouped _ _).names]
  exact eraseDups_flatMap_sublist (fun _ _ _ hr => (owner_of_mem_contribution hr).2) hgroups

/-- A group is that of one type, wherever this stands. -/
theorem inGroup_flatMap_contribution (hgroups : (types.map DeclaredType.groupName).Nodup)
    (hperm : others.Perm types) (g : String) :
    inGroup g (types.flatMap (contribution kinds policy)) =
      inGroup g (others.flatMap (contribution kinds policy)) := by
  have hpart (ts : List DeclaredType) : ∀ t ∈ ts, ∀ r ∈ contribution kinds policy t,
      r.group = t.groupName := fun _ _ _ hr => (owner_of_mem_contribution hr).2
  by_cases hg : g ∈ types.map DeclaredType.groupName
  · obtain ⟨t, ht, rfl⟩ := List.mem_map.mp hg
    have hothers : (others.map DeclaredType.groupName).Nodup :=
      (hperm.map DeclaredType.groupName).nodup_iff.mpr hgroups
    rw [inGroup, inGroup, filter_flatMap_of_mem (hpart types) hgroups ht,
      filter_flatMap_of_mem (hpart others) hothers (hperm.mem_iff.mpr ht)]
  · have hother : g ∉ others.map DeclaredType.groupName := fun h =>
      hg ((hperm.map DeclaredType.groupName).mem_iff.mp h)
    rw [inGroup, inGroup, filter_flatMap_of_not_mem (hpart types) hg,
      filter_flatMap_of_not_mem (hpart others) hother]

/-- Contributions in two orders make two outcomes that differ in nothing else. -/
theorem reordered_ofContributions (dialect : Dialect) (s : Scaffold) (hperm : others.Perm types)
    (hnames : (types.map DeclaredType.name).Nodup)
    (hgroups : (types.map DeclaredType.groupName).Nodup) :
    Outcome.Reordered types others (.ofContributions dialect s kinds policy types)
      (.ofContributions dialect s kinds policy others) := by
  have hothers : (others.map DeclaredType.name).Nodup :=
    (hperm.map DeclaredType.name).nodup_iff.mpr hnames
  have hothergroups : (others.map DeclaredType.groupName).Nodup :=
    (hperm.map DeclaredType.groupName).nodup_iff.mpr hgroups
  have hregistrations : (types.flatMap (contribution kinds policy)).Perm
      (others.flatMap (contribution kinds policy)) := hperm.symm.flatMap_right _
  constructor
  · intro t ht
    exact (filter_flatMap_contribution hnames ht).trans
      (filter_flatMap_contribution hothers (hperm.mem_iff.mpr ht)).symm
  · exact List.flatMap_congr fun t ht => (filter_flatMap_contribution hnames ht).symm
  · exact List.flatMap_congr fun t ht => (filter_flatMap_contribution hothers ht).symm
  · simp only [Outcome.ofContributions, emit_eq_none_iff]
    exact ⟨fun h => (h ▸ hregistrations).nil_eq.symm, fun h => (h ▸ hregistrations).eq_nil⟩
  · intro d hd e he
    exact emit_sameGroups hregistrations (inGroup_flatMap_contribution hgroups hperm) hd he
  · intro d hd
    exact groups_sublist_of_emit hgroups hd
  · intro e he
    exact groups_sublist_of_emit hothergroups he

end Contributed

/-- Where a pass succeeds, it does so for any order of its types, and each time has their
contributions. -/
theorem runInto_ok_of_perm {sink : List Diagnostic} {dialect : Dialect} {s : Scaffold}
    {options : PassOptions} {u : BuildUnit} {others : List DeclaredType} {o : Outcome}
    (hperm : others.Perm u.types) (h : (runInto sink dialect s options u).result = .ok o) :
    ∃ kinds, o = .ofContributions dialect s kinds options.listed u.types ∧
      (runInto sink dialect s options { u with types := others }).result =
        .ok (.ofContributions dialect s kinds options.listed others) := by
  obtain ⟨registrations, document⟩ := o
  obtain ⟨hplan, rfl⟩ := runInto_eq_ok_iff.mp h
  obtain ⟨kinds, hkinds, hrejects, rfl⟩ := plan_eq_ok_iff.mp hplan
  refine ⟨kinds, rfl, runInto_eq_ok_iff.mpr ⟨plan_eq_ok_iff.mpr ⟨kinds, hkinds, ?_, rfl⟩, rfl⟩⟩
  exact fun ha t ht => hrejects ha t (hperm.mem_iff.mp ht)

end Pass

/-- Types of different names do not interfere: a pass over them in another order succeeds where the
first one does, registers for each type what the first one does, and writes the same groups. -/
theorem runInto_reordered (sink : List Diagnostic) (dialect : Dialect) (s : Scaffold)
    (options : PassOptions) (u : BuildUnit) (others : List DeclaredType)
    (hperm : others.Perm u.types) (hnames : (u.types.map DeclaredType.name).Nodup)
    (hparsed : ∀ t ∈ u.types, t.name.Parsed) :
    match (Pass.runInto sink dialect s options u).result,
      (Pass.runInto sink dialect s options { u with types := others }).result with
    | .error _, .error _ => True
    | .ok o, .ok p => Pass.Outcome.Reordered u.types others o p
    | _, _ => False := by
  have hgroups := nodup_groupName hnames hparsed
  cases h : (Pass.runInto sink dialect s options u).result with
  | ok o =>
    obtain ⟨kinds, rfl, hothers⟩ := Pass.runInto_ok_of_perm hperm h
    rw [hothers]
    exact Pass.reordered_ofContributions dialect s hperm hnames hgroups
  | error e =>
    cases hothers : (Pass.runInto sink dialect s options { u with types := others }).result with
    | error e => trivial
    | ok p =>
      -- Back in the first order, the second pass is the first one.
      obtain ⟨kinds, -, hback⟩ := Pass.runInto_ok_of_perm hperm.symm hothers
      rw [h] at hback
      cases hback

/-- Two stores, with a clock between them that registers nothing. -/
def storesUnit : BuildUnit :=
  { name := "App"
    types :=
      [⟨⟨"Shop", "Store"⟩, [⟨"", "IStore"⟩],
        [⟨"ScopedService", [], [⟨"Label", .text "NET8"⟩]⟩, ⟨"SingletonService", [], []⟩]⟩,
       ⟨⟨"", "Clock"⟩, [], []⟩,
       ⟨⟨"Depot", "Store"⟩, [⟨"", "IStore"⟩], [⟨"TransientService", [], []⟩]⟩]
    kinds := some .builtin }

theorem storesUnit_reordered :
    storesUnit.types.reverse.Perm storesUnit.types ∧
      (storesUnit.types.map DeclaredType.name).Nodup ∧
      (∀ t ∈ storesUnit.types, t.name.Parsed) ∧
      ∃ o p,
        (Pass.runInto [] .partialClass .initial ⟨.unchecked, .abort⟩ storesUnit).result = .ok o ∧
        (Pass.runInto [] .partialClass .initial ⟨.unchecked, .abort⟩
          { storesUnit with types := storesUnit.types.reverse }).result = .ok p ∧
        Pass.Outcome.Reordered storesUnit.types storesUnit.types.reverse o p ∧
        o.document.map (·.groups.map Group.name) = some ["Shop.Store", "Depot.Store"] ∧
        p.document.map (·.groups.map Group.name) = some ["Depot.Store", "Shop.Store"] := by
  have hperm : storesUnit.types.reverse.Perm storesUnit.types := List.reverse_perm _
  have hnames : (storesUnit.types.map DeclaredType.name).Nodup := by decide
  have hread : ∀ t ∈ storesUnit.types, TypeName.parse? t.name.qualified = some t.name := by
    decide +kernel
  have hparsed : ∀ t ∈ storesUnit.types, t.name.Parsed := fun t ht => ⟨_, hread t ht⟩
  have hreordered := runInto_reordered [] .partialClass .initial ⟨.unchecked, .abort⟩ storesUnit
    storesUnit.types.reverse hperm hnames hparsed
  exact ⟨hperm, hnames, hparsed, _, _, rfl, rfl, hreordered, by rfl, by rfl⟩

end ServiceWiring
