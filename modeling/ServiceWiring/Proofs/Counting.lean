import Mathlib.Data.Finset.Card
import ServiceWiring.Proofs.Grouping
import ServiceWiring.Proofs.Sorted
import ServiceWiring.Report

/-! A summary counts what a document shows. The summary sorts the groups and labels of all
registrations, the document puts each registration in its place; both come to the same numbers. -/
namespace ServiceWiring

/-- The labels of all labelled blocks, group after group. A label stands once for each group that
has it. -/
def Document.labels (d : Document) : List String :=
  d.groups.flatMap fun g => g.blocks.filterMap Block.label

/-- Sorting leaves as many elements as are distinct. -/
theorem Sorted.length_ofList {α : Type} [Ord α] [Std.LawfulEqOrd α] [Std.TransOrd α]
    [DecidableEq α] (items : List α) : (ofList items).length = items.toFinset.card := by
  have hmembers : (ofList items).toFinset = items.toFinset := by
    ext c
    rw [List.mem_toFinset, List.mem_toFinset, mem_ofList]
  rw [← hmembers, List.toFinset_card_of_nodup (nodup_ofList items)]

theorem toFinset_groupNames (rs : List Registration) :
    (groupNames rs).toFinset = (rs.map Registration.group).toFinset := by
  ext g
  rw [List.mem_toFinset, List.mem_toFinset, mem_groupNames, List.mem_map]

/-- The labels of the blocks are those of the registrations, whatever their groups. -/
theorem mem_labels_of_grouped {image : Registration → Binding} {rs : List Registration}
    {d : Document} (h : Grouped image rs d.groups) {l : String} :
    l ∈ d.labels ↔ l ∈ rs.filterMap Registration.label := by
  have hgroup : ∀ g ∈ d.groups, l ∈ g.blocks.filterMap Block.label ↔ some l ∈ labelsIn g.name rs := by
    intro g hg
    rw [← h.labels g hg, List.mem_filterMap, List.mem_map]
  rw [Document.labels, List.mem_flatMap, List.mem_filterMap]
  constructor
  · rintro ⟨g, hg, hl⟩
    obtain ⟨r, hr, -, hlabel⟩ := mem_labelsIn.mp ((hgroup g hg).mp hl)
    exact ⟨r, hr, hlabel⟩
  · rintro ⟨r, hr, hlabel⟩
    have hname : r.group ∈ d.groups.map Group.name := by
      rw [h.names]
      exact mem_groupNames.mpr ⟨r, hr, rfl⟩
    obtain ⟨g, hg, hgr⟩ := List.mem_map.mp hname
    exact ⟨g, hg, (hgroup g hg).mpr (mem_labelsIn.mpr ⟨r, hr, hgr.symm, hlabel⟩)⟩

/-- The counts of a report are those of the document of the same registrations: its bindings, its
groups, and the distinct labels of its blocks. Without registrations there is nothing to count. -/
theorem ofPlan_counts (dialect : Dialect) (s : Scaffold) (unit : String) (rs : List Registration)
    (ds : List DiagnosticRecord) :
    let summary := (PlanReport.ofPlan unit rs ds).summary
    match emit dialect s rs with
    | none =>
      rs = [] ∧ summary.registrationCount = 0 ∧ summary.groupCount = 0 ∧ summary.labelCount = 0
    | some d =>
      rs ≠ [] ∧ summary.registrationCount = d.bindingCount ∧
        summary.groupCount = d.groups.length ∧ summary.labelCount = d.labels.toFinset.card := by
  cases hd : emit dialect s rs with
  | none =>
    obtain rfl := emit_eq_none_iff.mp hd
    exact ⟨rfl, rfl, rfl, rfl⟩
  | some d =>
    have hne : rs ≠ [] := fun e => by simp [emit_eq_none_iff.mpr e] at hd
    obtain ⟨-, -, -, hgroups⟩ := outline_of_emit hd
    have hgrouped := hgroups ▸ groupsIn_grouped _ rs
    refine ⟨hne, (bindingCount_of_emit hd).symm, ?_, ?_⟩
    · calc (Sorted.ofList (rs.map Registration.group)).length
          = (groupNames rs).toFinset.card := by rw [Sorted.length_ofList, toFinset_groupNames]
        _ = (groupNames rs).length := List.toFinset_card_of_nodup (nodup_groupNames rs)
        _ = d.groups.length := by rw [← hgrouped.names, List.length_map]
    · have hlabels : d.labels.toFinset = (rs.filterMap Registration.label).toFinset := by
        ext l
        rw [List.mem_toFinset, List.mem_toFinset, mem_labels_of_grouped hgrouped]
      rw [hlabels]
      exact Sorted.length_ofList _

end ServiceWiring
