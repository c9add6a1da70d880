import ServiceWiring.Proofs.Contiguity

/-! The order in which a document shows registrations. It puts the registrations of a group together,
and of these first the ones without label and then label after label; where they come in this order
already, they keep it. -/
namespace ServiceWiring

/-- The order of a document: no group is taken up again, nor a label within its group, and nothing
without label stands behind a label of its group. -/
structure InEmissionOrder (rs : List Registration) : Prop where
  groups : Contiguous Registration.group rs
  unlabelled_first : ∀ g, (inGroup g rs).Pairwise fun a b => b.label = none → a.label = none
  labels : ∀ g, Contiguous Registration.label (inGroup g rs)

/-- The registrations of a group, label after label. -/
def relabelled (g : String) (rs : List Registration) : List Registration :=
  (labelsIn g rs).flatMap fun l => registrationsAt g l rs

theorem regrouped_eq_flatMap (rs : List Registration) :
    regrouped rs = (groupNames rs).flatMap fun g => relabelled g rs := rfl

private theorem eraseDups_map_some {α : Type} [BEq α] [LawfulBEq α] (as : List α) :
    (as.map some).eraseDups = as.eraseDups.map some := by
  induction as using List.reverseRecOn with
  | nil => rfl
  | append_singleton as a ih =>
    rw [List.map_append, List.map_singleton, eraseDups_concat, eraseDups_concat, ih]
    by_cases h : a ∈ as <;> simp [h]

private theorem map_label_labelled (rs : List Registration) :
    (rs.filter (!·.label.isNone)).map Registration.label =
      (rs.map Registration.label).reduceOption.map some := by
  induction rs with
  | nil => rfl
  | cons r rest ih => cases h : r.label <;> simpa [h] using ih

theorem relabelled_eq (g : String) (rs : List Registration) :
    relabelled g rs = (inGroup g rs).filter (·.label.isNone) ++
      gathered Registration.label ((inGroup g rs).filter (!·.label.isNone)) := by
  have hunlabelled : (if ((inGroup g rs).map Registration.label).contains none then [none] else
      []).flatMap (fun l => registrationsAt g l rs) = (inGroup g rs).filter (·.label.isNone) := by
    have hnone : registrationsAt g none rs = (inGroup g rs).filter (·.label.isNone) :=
      List.filter_congr fun r _ => by cases r.label <;> rfl
    split
    · rw [List.flatMap_singleton, hnone]
    · next h =>
      refine (List.filter_eq_nil_iff.mpr fun r hr hl => h ?_).symm
      exact List.contains_iff_mem.mpr (List.mem_map.mpr ⟨r, hr, Option.isNone_iff_eq_none.mp hl⟩)
  have hlabelled (l : String) : registrationsAt g (some l) rs =
      ((inGroup g rs).filter (!·.label.isNone)).filter (·.label == some l) := by
    rw [registrationsAt, List.filter_filter]
    exact List.filter_congr fun r _ => by cases r.label <;> simp
  rw [relabelled, labelsIn, List.flatMap_append, hunlabelled, gathered, map_label_labelled,
    eraseDups_map_some, List.flatMap_map, List.flatMap_map]
  simp only [hlabelled]

theorem relabelled_eq_iff (g : String) (rs : List Registration) :
    relabelled g rs = inGroup g rs ↔
      ((inGroup g rs).Pairwise fun a b => b.label = none → a.label = none) ∧
        Contiguous Registration.label (inGroup g rs) := by
  have hunlabelled : ∀ r ∈ (inGroup g rs).filter (·.label.isNone), r.label = none :=
    fun r hr => Option.isNone_iff_eq_none.mp (List.mem_filter.mp hr).2
  have hlabelled : ∀ r ∈ (inGroup g rs).filter (!·.label.isNone), r.label ≠ none :=
    fun r hr => Option.isSome_iff_ne_none.mp (by simpa using (List.mem_filter.mp hr).2)
  rw [relabelled_eq, filter_append_gathered_eq_iff, gathered_eq_iff,
    ← contiguous_append hunlabelled hlabelled]
  simp only [Option.isNone_iff_eq_none]
  refine and_congr_right fun hfirst => ?_
  rw [(filter_append_filter_eq_iff (·.label.isNone) (inGroup g rs)).mpr (by simpa using hfirst)]

theorem group_of_mem_relabelled {g : String} {rs : List Registration} {r : Registration}
    (h : r ∈ relabelled g rs) : r.group = g := by
  obtain ⟨l, -, hr⟩ := List.mem_flatMap.mp h
  simpa using (List.mem_filter.mp (List.mem_filter.mp hr).1).2

theorem inGroup_regrouped (g : String) (rs : List Registration) :
    inGroup g (regrouped rs) = relabelled g rs := by
  have hpart : ∀ h ∈ groupNames rs, ∀ r ∈ relabelled h rs, r.group = h :=
    fun _ _ _ hr => group_of_mem_relabelled hr
  by_cases hg : g ∈ groupNames rs
  · exact filter_flatMap_of_mem hpart (by simpa using nodup_groupNames rs) hg
  · rw [relabelled, labelsIn_eq_nil.mpr hg]
    exact filter_flatMap_of_not_mem hpart (by simpa using hg)

/-- Registrations of one group and one label keep the order in which they came. -/
theorem registrationsAt_regrouped (g : String) (l : Option String) (rs : List Registration) :
    registrationsAt g l (regrouped rs) = registrationsAt g l rs := by
  have hpart : ∀ m ∈ labelsIn g rs, ∀ r ∈ registrationsAt g m rs, r.label = m :=
    fun _ _ _ hr => eq_of_beq (List.mem_filter.mp hr).2
  rw [registrationsAt, inGroup_regrouped]
  by_cases hl : l ∈ labelsIn g rs
  · exact filter_flatMap_of_mem hpart (by simpa using nodup_labelsIn g rs) hl
  · rw [registrationsAt_eq_nil.mpr hl]
    exact filter_flatMap_of_not_mem hpart (by simpa using hl)

/-- Registrations come in the order of their document exactly when they are in emission order. -/
theorem regrouped_eq_iff (rs : List Registration) : regrouped rs = rs ↔ InEmissionOrder rs := by
  constructor
  · intro h
    have hgroup (g : String) := (relabelled_eq_iff g rs).mp
      ((inGroup_regrouped g rs).symm.trans (congrArg (inGroup g) h))
    refine ⟨?_, fun g => (hgroup g).1, fun g => (hgroup g).2⟩
    rw [← h, regrouped_eq_flatMap]
    refine contiguous_flatMap (fun g _ r hr => group_of_mem_relabelled hr) ?_
    rw [List.map_id']
    exact nodup_groupNames rs
  · intro h
    have hgroup (g : String) : relabelled g rs = inGroup g rs :=
      (relabelled_eq_iff g rs).mpr ⟨h.unlabelled_first g, h.labels g⟩
    simp only [regrouped_eq_flatMap, hgroup]
    exact (gathered_eq_iff rs).mpr h.groups

/-- A binding with its place in a document. -/
structure Placed where
  group : String
  label : Option String
  binding : Binding
  deriving DecidableEq, Repr

def Group.placed (g : Group) : List Placed :=
  g.blocks.flatMap fun block => block.bindings.map fun b => ⟨g.name, block.label, b⟩

/-- The bindings of a document with their places, from first to last. -/
def Document.placed (d : Document) : List Placed := d.groups.flatMap Group.placed

/-- A registration as a document shows it. -/
def placedOf (names : DisplayNames) (r : Registration) : Placed :=
  ⟨r.group, r.label, bindingOf names r⟩

theorem flatMap_placed_groupsIn (names : DisplayNames) (rs : List Registration) :
    (groupsIn (bindingOf names) rs).flatMap Group.placed = (regrouped rs).map (placedOf names) := by
  have hplace (g : String) (l : Option String) : ∀ r ∈ registrationsAt g l rs,
      (⟨g, l, bindingOf names r⟩ : Placed) = placedOf names r := by
    intro r hr
    obtain ⟨hr, hl⟩ := List.mem_filter.mp hr
    rw [placedOf, eq_of_beq (List.mem_filter.mp hr).2, eq_of_beq hl]
  simp only [groupsIn, blocksIn, Group.placed, regrouped, List.flatMap_map, List.map_flatMap,
    List.map_map]
  refine List.flatMap_congr fun g _ => List.flatMap_congr fun l _ => ?_
  exact List.map_congr_left (hplace g l)

/-- A document lines up with its registrations only where these are in emission order already:
places alone give away any other order. -/
theorem map_placedOf_regrouped_eq_iff (names : DisplayNames) (rs : List Registration) :
    (regrouped rs).map (placedOf names) = rs.map (placedOf names) ↔ InEmissionOrder rs := by
  rw [← regrouped_eq_iff]
  refine ⟨fun h => ?_, congrArg _⟩
  -- Within one place nothing moves, so equal places in a row are all that is needed.
  have hplaces := congrArg (List.map fun b : Placed => (b.group, b.label)) h
  simp only [List.map_map] at hplaces
  refine eq_of_map_key_eq hplaces fun ⟨g, l⟩ => ?_
  have hat (qs : List Registration) :
      qs.filter (fun r => (r.group, r.label) == (g, l)) = registrationsAt g l qs := by
    rw [registrationsAt, inGroup, List.filter_filter]
    exact List.filter_congr fun r _ => Bool.and_comm _ _
  exact (hat _).trans ((registrationsAt_regrouped g l rs).trans (hat _).symm)

end ServiceWiring
