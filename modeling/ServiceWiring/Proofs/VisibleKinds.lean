import ServiceWiring.Proofs.Registering

/-! The registry of a host's own kinds. There is one where the base kind is visible. In it a visible tag
stands for the kind whose tag it is, if any, and a derived tag for none. Neither the order of the tags nor
their spelling makes a difference. -/
namespace ServiceWiring

namespace Kind

/-- The kind that goes by a normal tag. -/
def named? (name : String) : Option Kind := all.find? fun kind => kind.tag == name

theorem ofTag?_eq_named? (tag : String) : ofTag? tag = named? (normalTag tag) := rfl

theorem named?_eq_some_iff {name : String} {kind : Kind} :
    named? name = some kind ↔ kind.tag = name := by
  constructor
  · intro h
    simpa using List.find?_some h
  · rintro rfl
    cases kind <;> decide

end Kind

/-- The two lists come to the same normal tags. -/
def SameTags (tags others : List String) : Prop :=
  ∀ name, name ∈ tags.map normalTag ↔ name ∈ others.map normalTag

namespace KindRegistry

/-- What visible and derived tags say of a normal tag. -/
def declared? (visible derived : List String) (name : String) : Option KindEntry :=
  if name ∈ visible.map normalTag then some ⟨name, Kind.named? name⟩
  else if name ∈ derived.map normalTag then some ⟨name, none⟩
  else none

/-- All tags registered, those that are visible first. -/
def ofTags (visible derived : List String) : KindRegistry :=
  derived.foldl addDerived (visible.foldl addVisible empty)

section Steps
variable (r : KindRegistry) (tag name : String)

theorem get?_addVisible :
    (r.addVisible tag).get? name =
      if name = normalTag tag then some ⟨name, Kind.named? name⟩ else r.get? name := by
  rw [addVisible, get?_register, Kind.ofTag?_eq_named?]
  split
  · next h => rw [h]
  · rfl

/-- A derived tag says something only where nothing was said of it. -/
theorem get?_addDerived :
    (r.addDerived tag).get? name =
      (r.get? name).or (if name = normalTag tag then some ⟨name, none⟩ else none) := by
  by_cases hname : name = normalTag tag
  · subst hname
    rw [addDerived, recognizes, lookup?_eq_get?]
    cases he : r.get? (normalTag tag) with
    | none => simp [get?_register]
    | some e => simp [he]
  · rw [addDerived, if_neg hname, Option.or_none]
    split
    · rfl
    · rw [get?_register, if_neg hname]

theorem tags_addVisible :
    (r.addVisible tag).tags =
      if normalTag tag ∈ r.tags then r.tags else r.tags ++ [normalTag tag] :=
  tags_register r tag (Kind.ofTag? tag)

theorem tags_addDerived :
    (r.addDerived tag).tags =
      if normalTag tag ∈ r.tags then r.tags else r.tags ++ [normalTag tag] := by
  simp only [addDerived, recognizes_iff]
  split
  · rfl
  · next hnew => rw [tags_register, if_neg hnew]

theorem get?_foldl_addVisible (visible : List String) :
    (visible.foldl addVisible r).get? name =
      if name ∈ visible.map normalTag then some ⟨name, Kind.named? name⟩ else r.get? name := by
  induction visible generalizing r with
  | nil => simp
  | cons tag rest ih =>
    rw [List.foldl_cons, ih, get?_addVisible]
    by_cases hrest : name ∈ rest.map normalTag <;> by_cases hname : name = normalTag tag <;>
      simp_all

theorem get?_foldl_addDerived (derived : List String) :
    (derived.foldl addDerived r).get? name =
      (r.get? name).or (if name ∈ derived.map normalTag then some ⟨name, none⟩ else none) := by
  induction derived generalizing r with
  | nil => simp
  | cons tag rest ih =>
    rw [List.foldl_cons, ih, get?_addDerived, Option.or_assoc]
    by_cases hrest : name ∈ rest.map normalTag <;> by_cases hname : name = normalTag tag <;>
      simp_all

end Steps

section Declared
variable (visible derived : List String)

theorem lookup?_ofTags (tag : String) :
    (ofTags visible derived).lookup? tag = declared? visible derived (normalTag tag) := by
  rw [lookup?_eq_get?, ofTags, get?_foldl_addDerived, get?_foldl_addVisible, declared?]
  split
  · rfl
  · rfl

theorem tags_ofTags :
    (ofTags visible derived).tags = ((visible ++ derived).map normalTag).eraseDups := by
  have hempty : empty.tags = ([] : List String).eraseDups := rfl
  have hvisible := tags_foldl tags_addVisible hempty visible
  rw [ofTags, tags_foldl tags_addDerived hvisible derived]
  simp

/-- The derived tags do not count where it is decided whether there is a registry. -/
theorem ofVisible?_eq :
    ofVisible? visible derived =
      if Kind.injectable.tag ∈ visible.map normalTag then some (ofTags visible derived) else none := by
  have hbase : normalTag Kind.injectable.tag = Kind.injectable.tag := by decide
  have htags : (visible.foldl addVisible empty).tags = (visible.map normalTag).eraseDups := by
    simpa [ofTags] using tags_ofTags visible []
  simp only [ofVisible?, recognizes_iff, htags, hbase, List.mem_eraseDups]
  rfl

end Declared

/-- What a registry answers that is made of visible and derived tags, and in which order its entries are. A
visible tag has the kind that goes by it, and a tag that is derived only has none. -/
structure Declares (r : KindRegistry) (visible derived : List String) : Prop where
  found : ∀ tag, (∃ e, r.lookup? tag = some e) ↔
    ∃ given ∈ visible ++ derived, normalTag given = normalTag tag
  tag_of_entry : ∀ tag e, r.lookup? tag = some e → e.tag = normalTag tag
  kind_of_visible : ∀ tag e, r.lookup? tag = some e →
    (∃ given ∈ visible, normalTag given = normalTag tag) →
      ∀ kind, e.kind = some kind ↔ kind.tag = normalTag tag
  kind_of_derived : ∀ tag e, r.lookup? tag = some e →
    (∀ given ∈ visible, normalTag given ≠ normalTag tag) → e.kind = none
  tags : r.tags = ((visible ++ derived).map normalTag).eraseDups
  tags_nodup : r.tags.Nodup

theorem declares_ofTags (visible derived : List String) :
    (ofTags visible derived).Declares visible derived := by
  have hlookup := lookup?_ofTags visible derived
  have htags := tags_ofTags visible derived
  constructor
  · intro tag
    rw [← Option.isSome_iff_exists, lookup?_eq_get?, isSome_get?_iff, htags, List.mem_eraseDups]
    exact List.mem_map
  · intro tag e he
    exact tag_of_get? he
  · intro tag e he hvisible kind
    rw [hlookup, declared?, if_pos (List.mem_map.mpr hvisible)] at he
    obtain rfl := Option.some.inj he
    rw [Kind.named?_eq_some_iff]
  · intro tag e he hnot
    have hvisible : normalTag tag ∉ visible.map normalTag := fun hmem => by
      obtain ⟨given, hgiven, hsame⟩ := List.mem_map.mp hmem
      exact hnot given hgiven hsame
    rw [hlookup, declared?, if_neg hvisible] at he
    split at he
    · obtain rfl := Option.some.inj he
      rfl
    · cases he
  · exact htags
  · rw [htags]
    exact nodup_eraseDups _

end KindRegistry

/-- A host's own registry is there exactly where the base kind is visible, and then says of every tag what
the host has declared. Lists of the same normal tags come to the same answers, and the tags of the kinds
themselves to the registry that is built in. -/
theorem ofVisible?_declares (visible derived : List String) :
    (match KindRegistry.ofVisible? visible derived with
      | none => ∀ given ∈ visible, normalTag given ≠ "Injectable"
      | some r => (∃ given ∈ visible, normalTag given = "Injectable") ∧ r.Declares visible derived) ∧
      (∀ others further, SameTags visible others → SameTags derived further →
        (KindRegistry.ofVisible? others further).map KindRegistry.lookup? =
          (KindRegistry.ofVisible? visible derived).map KindRegistry.lookup?) ∧
      KindRegistry.ofVisible? (Kind.all.map Kind.tag) [] = some .builtin := by
  refine ⟨?_, fun others further hvisible hderived => ?_, by decide +kernel⟩
  · have htag : Kind.injectable.tag = "Injectable" := rfl
    rw [KindRegistry.ofVisible?_eq, htag]
    by_cases hbase : "Injectable" ∈ visible.map normalTag
    · rw [if_pos hbase]
      exact ⟨List.mem_map.mp hbase, KindRegistry.declares_ofTags visible derived⟩
    · rw [if_neg hbase]
      intro given hgiven hsame
      exact hbase (List.mem_map.mpr ⟨given, hgiven, hsame⟩)
  · have hanswers : (KindRegistry.ofTags others further).lookup? =
        (KindRegistry.ofTags visible derived).lookup? := by
      funext tag
      simp only [KindRegistry.lookup?_ofTags, KindRegistry.declared?, hvisible _, hderived _]
    simp only [KindRegistry.ofVisible?_eq, hvisible _]
    split
    · exact congrArg some hanswers
    · rfl

/-- A tag that is only derived gains no kind, though a kind goes by it. -/
example :
    ((KindRegistry.ofVisible? ["App.InjectableAttribute", "Cached"] ["ScopedService"]).bind fun r =>
      r.lookup? "App.ScopedServiceAttribute") = some ⟨"ScopedService", none⟩ := by
  decide +kernel

end ServiceWiring
