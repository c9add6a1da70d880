import Mathlib.Data.List.ReduceOption
import ServiceWiring.Document.Emission
import ServiceWiring.Proofs.FirstOccurrences

/-! Grouping of registrations. A document shows every registration once, under its group and its
label: groups stand in the order of their first registrations, and so do the labels of a group,
behind the registrations without label. -/
namespace ServiceWiring

/-- The names of the groups, in the order of their first registrations. -/
def groupNames (rs : List Registration) : List String := (rs.map Registration.group).eraseDups

def inGroup (g : String) (rs : List Registration) : List Registration := rs.filter (·.group == g)

/-- The labels within a group: first none, if some registration of the group has none, and then the
labels in the order of their first registrations. -/
def labelsIn (g : String) (rs : List Registration) : List (Option String) :=
  let labels := (inGroup g rs).map Registration.label
  (if labels.contains none then [none] else []) ++ labels.reduceOption.eraseDups.map some

/-- The registrations of a group under one label, or under none. -/
def registrationsAt (g : String) (l : Option String) (rs : List Registration) :
    List Registration :=
  (inGroup g rs).filter (·.label == l)

/-- Registrations in the order that a document shows them in. -/
def regrouped (rs : List Registration) : List Registration :=
  (groupNames rs).flatMap fun g => (labelsIn g rs).flatMap fun l => registrationsAt g l rs

private theorem inGroup_concat (g : String) (rs : List Registration) (r : Registration) :
    inGroup g (rs ++ [r]) = if r.group = g then inGroup g rs ++ [r] else inGroup g rs := by
  by_cases h : r.group = g <;> simp [inGroup, h]

private theorem registrationsAt_concat (g : String) (l : Option String) (rs : List Registration)
    (r : Registration) :
    registrationsAt g l (rs ++ [r]) =
      registrationsAt g l rs ++ if r.group = g ∧ r.label = l then [r] else [] := by
  by_cases hg : r.group = g <;> by_cases hl : r.label = l <;>
    simp [registrationsAt, inGroup_concat, hg, hl]

theorem mem_groupNames {g : String} {rs : List Registration} :
    g ∈ groupNames rs ↔ ∃ r ∈ rs, r.group = g := by
  simp [groupNames]

theorem mem_labelsIn {g : String} {l : Option String} {rs : List Registration} :
    l ∈ labelsIn g rs ↔ ∃ r ∈ rs, r.group = g ∧ r.label = l := by
  cases l with
  | none => simp [labelsIn, inGroup, and_assoc]
  | some l => simp [labelsIn, inGroup, List.reduceOption_mem_iff, and_assoc]

theorem registrationsAt_eq_nil {g : String} {l : Option String} {rs : List Registration} :
    registrationsAt g l rs = [] ↔ l ∉ labelsIn g rs := by
  rw [mem_labelsIn, registrationsAt, inGroup, List.filter_eq_nil_iff]
  simp

theorem labelsIn_eq_nil {g : String} {rs : List Registration} :
    labelsIn g rs = [] ↔ g ∉ groupNames rs := by
  rw [List.eq_nil_iff_forall_not_mem, mem_groupNames]
  simp only [mem_labelsIn]
  exact ⟨fun h ⟨r, hr, hg⟩ => h r.label ⟨r, hr, hg, rfl⟩, fun h _ ⟨r, hr, hg, _⟩ => h ⟨r, hr, hg⟩⟩

/-- A further registration brings a new label only where its group has not seen it: no label goes to
the front, and any other to the end. -/
private theorem labelsIn_concat (g : String) (rs : List Registration) (r : Registration) :
    labelsIn g (rs ++ [r]) =
      if r.group ≠ g ∨ r.label ∈ labelsIn g rs then labelsIn g rs
      else match r.label with
        | none => none :: labelsIn g rs
        | some l => labelsIn g rs ++ [some l] := by
  by_cases hg : r.group = g
  · cases hl : r.label with
    | none =>
      by_cases h : none ∈ labelsIn g rs <;>
        simp_all [labelsIn, inGroup_concat, List.reduceOption_append]
    | some l =>
      by_cases h : some l ∈ labelsIn g rs <;>
        simp_all [labelsIn, inGroup_concat, List.reduceOption_append, eraseDups_concat]
  · simp [labelsIn, inGroup_concat, hg]

private theorem groupNames_concat (rs : List Registration) (r : Registration) :
    groupNames (rs ++ [r]) =
      if r.group ∈ groupNames rs then groupNames rs else groupNames rs ++ [r.group] := by
  simp only [groupNames, List.map_append, List.map_cons, List.map_nil, eraseDups_concat]
  simp

section Built
variable (image : Registration → Binding)

/-- The blocks that the registrations of a group come to. -/
def blocksIn (g : String) (rs : List Registration) : List Block :=
  (labelsIn g rs).map fun l => ⟨l, (registrationsAt g l rs).map image⟩

/-- The groups that registrations come to. -/
def groupsIn (rs : List Registration) : List Group :=
  (groupNames rs).map fun g => ⟨g, blocksIn image g rs⟩

private theorem blocksIn_other {g : String} {r : Registration} (rs : List Registration)
    (h : r.group ≠ g) : blocksIn image g (rs ++ [r]) = blocksIn image g rs := by
  simp [blocksIn, labelsIn_concat, registrationsAt_concat, h]

/-- One step of a group: the blocks of the registrations so far become those of one more. -/
private theorem addToBlocks_blocksIn (rs : List Registration) (r : Registration) :
    addToBlocks r.label (image r) (blocksIn image r.group rs) =
      blocksIn image r.group (rs ++ [r]) := by
  have hany : (blocksIn image r.group rs).any (fun block => block.label == r.label) =
      decide (r.label ∈ labelsIn r.group rs) := by
    rw [Bool.eq_iff_iff]
    simp [blocksIn]
  unfold addToBlocks
  rw [hany]
  by_cases h : r.label ∈ labelsIn r.group rs
  · simp only [h, decide_true, if_true, blocksIn, List.map_map, labelsIn_concat, ne_eq,
      not_true_eq_false, or_true]
    refine List.map_congr_left fun l _ => ?_
    by_cases hl : r.label = l
    · simp [registrationsAt_concat, hl]
    · simp [registrationsAt_concat, hl, Ne.symm hl]
  · have hnew : registrationsAt r.group r.label (rs ++ [r]) = [r] := by
      simp [registrationsAt_concat, registrationsAt_eq_nil.mpr h]
    have hold : ∀ l ∈ labelsIn r.group rs,
        registrationsAt r.group l (rs ++ [r]) = registrationsAt r.group l rs := by
      intro l hl
      have : r.label ≠ l := fun e => h (e ▸ hl)
      simp [registrationsAt_concat, this]
    have hmap : (labelsIn r.group rs).map (fun l =>
        (⟨l, (registrationsAt r.group l (rs ++ [r])).map image⟩ : Block)) =
        blocksIn image r.group rs :=
      List.map_congr_left fun l hl => by rw [hold l hl]
    conv_rhs => rw [blocksIn, labelsIn_concat]
    cases hl : r.label with
    | none =>
      rw [hl] at h hnew
      simp [h, hmap, hnew]
    | some l =>
      rw [hl] at h hnew
      simp [h, hmap, hnew]

/-- One step of a document: the groups of the registrations so far become those of one more. -/
private theorem addToGroups_groupsIn (rs : List Registration) (r : Registration) :
    addToGroups r.group r.label (image r) (groupsIn image rs) = groupsIn image (rs ++ [r]) := by
  have hany : (groupsIn image rs).any (fun group => group.name == r.group) =
      decide (r.group ∈ groupNames rs) := by
    rw [Bool.eq_iff_iff]
    simp [groupsIn]
  have hstep (g : String) (hg : r.group ≠ g) :
      (⟨g, blocksIn image g (rs ++ [r])⟩ : Group) = ⟨g, blocksIn image g rs⟩ := by
    rw [blocksIn_other image rs hg]
  rw [addToGroups, hany, groupsIn, groupsIn, groupNames_concat]
  by_cases h : r.group ∈ groupNames rs
  · simp only [h, decide_true, if_true, List.map_map]
    refine List.map_congr_left fun g _ => ?_
    by_cases hg : g = r.group
    · subst hg
      simp [addToBlocks_blocksIn]
    · simp [hg, hstep g (Ne.symm hg)]
  · have hnew : blocksIn image r.group rs = [] := by
      simpa [blocksIn] using labelsIn_eq_nil.mpr h
    simp only [h, decide_false, if_false, Bool.false_eq_true, List.map_append, List.map_cons,
      List.map_nil]
    rw [← hnew, addToBlocks_blocksIn]
    congr 1
    exact List.map_congr_left fun g hg => (hstep g fun e => h (e ▸ hg)).symm

/-- The loop over the registrations, one after another, comes to the groups and blocks that they
have together. -/
theorem foldl_addToGroups (rs : List Registration) :
    rs.foldl (fun groups r => addToGroups r.group r.label (image r) groups) [] =
      groupsIn image rs := by
  induction rs using List.reverseRecOn with
  | nil => rfl
  | append_singleton rs r ih =>
    rw [List.foldl_append, ih]
    exact addToGroups_groupsIn image rs r

end Built

theorem nodup_groupNames (rs : List Registration) : (groupNames rs).Nodup := nodup_eraseDups _

theorem nodup_labelsIn (g : String) (rs : List Registration) : (labelsIn g rs).Nodup := by
  have hlabels := nodup_eraseDups ((inGroup g rs).map Registration.label).reduceOption
  have hsome := hlabels.map fun _ _ h => Option.some.inj h
  simp only [labelsIn]
  split
  · exact List.nodup_append.mpr ⟨by simp, hsome, by simp⟩
  · simpa using hsome

private theorem labels_perm (g : String) (rs : List Registration) :
    ((labelsIn g rs).flatMap fun l => registrationsAt g l rs).Perm (inGroup g rs) :=
  flatMap_filter_perm Registration.label (nodup_labelsIn g rs) _ fun r hr => by
    obtain ⟨hr, hg⟩ := List.mem_filter.mp hr
    exact mem_labelsIn.mpr ⟨r, hr, by simpa using hg, rfl⟩

/-- Nothing is lost and nothing shown twice. -/
theorem regrouped_perm (rs : List Registration) : (regrouped rs).Perm rs :=
  (List.Perm.flatMap_left _ fun g _ => labels_perm g rs).trans
    (flatMap_filter_perm Registration.group (nodup_groupNames rs) rs fun r hr =>
      mem_groupNames.mpr ⟨r, hr, rfl⟩)

/-- The bindings of the groups, read from first to last, are those of the registrations in their new
order. -/
theorem flatMap_bindings_groupsIn (image : Registration → Binding) (rs : List Registration) :
    (groupsIn image rs).flatMap Group.bindings = (regrouped rs).map image := by
  simp [groupsIn, blocksIn, regrouped, Group.bindings, List.flatMap_map, List.map_flatMap]

/-- Which groups there are and what is in them depends only on the order within each group. -/
theorem groupsIn_perm (image : Registration → Binding) {rs qs : List Registration}
    (h : ∀ g, inGroup g rs = inGroup g qs) : (groupsIn image rs).Perm (groupsIn image qs) := by
  have hlabels (g : String) : labelsIn g rs = labelsIn g qs := by rw [labelsIn, labelsIn, h]
  have hblocks (g : String) : blocksIn image g rs = blocksIn image g qs := by
    simp only [blocksIn, registrationsAt, hlabels, h]
  have hnames : (groupNames rs).Perm (groupNames qs) := by
    refine (List.perm_ext_iff_of_nodup (nodup_groupNames rs) (nodup_groupNames qs)).mpr fun g => ?_
    rw [← not_iff_not, ← labelsIn_eq_nil, ← labelsIn_eq_nil, hlabels]
  simp only [groupsIn, hblocks]
  exact hnames.map _

theorem groupsOf_eq (names : DisplayNames) (rs : List Registration) :
    groupsOf names rs = groupsIn (bindingOf names) rs :=
  foldl_addToGroups (bindingOf names) rs

theorem emit_eq_none_iff {dialect : Dialect} {s : Scaffold} {rs : List Registration} :
    emit dialect s rs = none ↔ rs = [] := by
  cases rs <;> simp [emit]

/-- A document is its outline with a text. -/
theorem outline_of_emit {dialect : Dialect} {s : Scaffold} {rs : List Registration} {d : Document}
    (h : emit dialect s rs = some d) :
    d.hintName = dialect.hintName ∧ d.space = s.space ∧ d.imports = importsOf dialect s rs ∧
      d.groups = groupsIn (bindingOf (.ofTypes dialect (rs.flatMap Registration.types))) rs := by
  cases rs with
  | nil => cases h
  | cons r rest =>
    have hd := Option.some.inj h
    subst hd
    exact ⟨rfl, rfl, rfl, groupsOf_eq _ _⟩

theorem bindingCount_of_emit {dialect : Dialect} {s : Scaffold} {rs : List Registration}
    {d : Document} (h : emit dialect s rs = some d) : d.bindingCount = rs.length := by
  obtain ⟨-, -, -, hgroups⟩ := outline_of_emit h
  rw [Document.bindingCount, Document.bindings, hgroups, flatMap_bindings_groupsIn,
    List.length_map]
  exact (regrouped_perm rs).length_eq

/-- Groups and blocks that hold the images of registrations, each in its place: no group and no
block is there without a registration, or twice. -/
structure Grouped (image : Registration → Binding) (rs : List Registration)
    (groups : List Group) : Prop where
  names : groups.map Group.name = groupNames rs
  names_nodup : (groups.map Group.name).Nodup
  labels : ∀ g ∈ groups, g.blocks.map Block.label = labelsIn g.name rs
  labels_nodup : ∀ g ∈ groups, (g.blocks.map Block.label).Nodup
  blocks_ne_nil : ∀ g ∈ groups, g.blocks ≠ []
  bindings_ne_nil : ∀ g ∈ groups, ∀ b ∈ g.blocks, b.bindings ≠ []
  bindings : ∀ g ∈ groups, ∀ b ∈ g.blocks,
    b.bindings = (registrationsAt g.name b.label rs).map image

theorem groupsIn_grouped (image : Registration → Binding) (rs : List Registration) :
    Grouped image rs (groupsIn image rs) := by
  have hnames : (groupsIn image rs).map Group.name = groupNames rs := by
    simp [groupsIn, Function.comp_def]
  have hgroup : ∀ g ∈ groupsIn image rs,
      g.name ∈ groupNames rs ∧ g.blocks = blocksIn image g.name rs := by
    intro g hg
    obtain ⟨n, hn, rfl⟩ := List.mem_map.mp hg
    exact ⟨hn, rfl⟩
  have hlabels : ∀ g ∈ groupsIn image rs, g.blocks.map Block.label = labelsIn g.name rs := by
    intro g hg
    simp [(hgroup g hg).2, blocksIn, Function.comp_def]
  have hbindings : ∀ g ∈ groupsIn image rs, ∀ b ∈ g.blocks, b.label ∈ labelsIn g.name rs ∧
      b.bindings = (registrationsAt g.name b.label rs).map image := by
    intro g hg b hb
    rw [(hgroup g hg).2] at hb
    obtain ⟨l, hl, rfl⟩ := List.mem_map.mp hb
    exact ⟨hl, rfl⟩
  refine ⟨hnames, hnames ▸ nodup_groupNames rs, hlabels, fun g hg => ?_, fun g hg h => ?_,
    fun g hg b hb h => ?_, fun g hg b hb => (hbindings g hg b hb).2⟩
  · exact hlabels g hg ▸ nodup_labelsIn g.name rs
  · refine labelsIn_eq_nil.mp ?_ (hgroup g hg).1
    rw [← hlabels g hg, h, List.map_nil]
  · obtain ⟨hl, hbs⟩ := hbindings g hg b hb
    exact registrationsAt_eq_nil.mp (List.map_eq_nil_iff.mp (hbs ▸ h)) hl

/-- The document of registrations, if there are any, has every one of them in its place, in the
order in which they came, and has nothing else. -/
theorem emit_grouped (dialect : Dialect) (s : Scaffold) (rs : List Registration) :
    match emit dialect s rs with
    | none => rs = []
    | some d =>
      Grouped (bindingOf (.ofTypes dialect (rs.flatMap Registration.types))) rs d.groups ∧
        d.bindingCount = rs.length := by
  cases rs with
  | nil => rfl
  | cons r rest =>
    simp only [emit, outlineOf, Document.bindingCount, Document.bindings, groupsOf_eq]
    refine ⟨groupsIn_grouped _ _, ?_⟩
    rw [flatMap_bindings_groupsIn, List.length_map]
    exact (regrouped_perm (r :: rest)).length_eq

end ServiceWiring
