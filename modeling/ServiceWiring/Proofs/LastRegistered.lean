import Mathlib.Data.Finset.Card
import ServiceWiring.Proofs.VisibleKinds

/-! Registries after any number of registrations. A registry is a finite map: of each normal tag it says
what was said of it last, and it has one entry for each. That normal tags need not be normal themselves
makes no difference, a tag being made normal once when it is registered and once when it is looked up. -/
namespace ServiceWiring

/-- A tag that is registered, with the kind that it is registered for. -/
structure Naming where
  tag : String
  kind : Option Kind

/-- What is said last of a normal tag. -/
def lastNamed? (namings : List Naming) (name : String) : Option KindEntry :=
  ((namings.filter fun n => normalTag n.tag = name).getLast?).map fun n => ⟨name, n.kind⟩

theorem lastNamed?_concat (namings : List Naming) (n : Naming) (name : String) :
    lastNamed? (namings ++ [n]) name =
      if name = normalTag n.tag then some ⟨name, n.kind⟩ else lastNamed? namings name := by
  rw [lastNamed?, List.filter_append, List.getLast?_append]
  by_cases h : name = normalTag n.tag
  · simp [h]
  · simp [h, Ne.symm h, lastNamed?]

namespace KindRegistry

/-- All tags registered in order, where there was none before. -/
def ofNamings (namings : List Naming) : KindRegistry :=
  namings.foldl (fun r n => r.register n.tag n.kind) empty

/-- The derived tags that are registered at all, with no kind. -/
def derivedNamings (r : KindRegistry) : List String → List Naming
  | [] => []
  | tag :: rest =>
    if r.recognizes tag then derivedNamings r rest
    else ⟨tag, none⟩ :: derivedNamings (r.register tag none) rest

/-- The registries that there can be, each with all tags that were registered, from first to last. -/
inductive Reached : List Naming → KindRegistry → Prop
  | builtin : Reached (Kind.all.map fun kind => ⟨kind.tag, some kind⟩) builtin
  | visible {visible derived : List String} {r : KindRegistry}
    (h : ofVisible? visible derived = some r) :
    Reached ((visible.map fun tag => ⟨tag, Kind.ofTag? tag⟩) ++
      derivedNamings (visible.foldl addVisible empty) derived) r
  | register {namings : List Naming} {r : KindRegistry} (h : Reached namings r) (n : Naming) :
    Reached (namings ++ [n]) (r.register n.tag n.kind)

/-- What registering a tag does to a registry. An entry that is there stays in its place, and only that
of the tag has another kind; there is one entry more if there was none for the tag. -/
structure Updated (r : KindRegistry) (n : Naming) (next : KindRegistry) : Prop where
  found : ∀ tag, normalTag tag = normalTag n.tag →
    next.lookup? tag = some ⟨normalTag n.tag, n.kind⟩
  others : ∀ tag, normalTag tag ≠ normalTag n.tag → next.lookup? tag = r.lookup? tag
  entries : ∀ (i : Nat) (e : KindEntry), r.entries[i]? = some e →
    next.entries[i]? = some (if e.tag = normalTag n.tag then { e with kind := n.kind } else e)
  length : next.entries.length = r.entries.length + if normalTag n.tag ∈ r.tags then 0 else 1

theorem updated_register (r : KindRegistry) (n : Naming) :
    Updated r n (r.register n.tag n.kind) := by
  constructor
  · intro tag h
    rw [lookup?_eq_get?, get?_register, if_pos h, h]
  · intro tag h
    rw [lookup?_eq_get?, get?_register, if_neg h, lookup?_eq_get?]
  · intro i e he
    rw [register]
    split
    · rw [List.getElem?_map, he, Option.map_some]
    · next hnew =>
      have hlt := (List.getElem?_eq_some_iff.mp he).1
      have hother : e.tag ≠ normalTag n.tag := by
        intro htag
        apply hnew
        rw [recognizes_iff, ← htag]
        exact List.mem_map_of_mem (List.mem_of_getElem? he)
      rw [List.getElem?_append_left hlt, he, if_neg hother]
  · rw [register]
    by_cases hknown : normalTag n.tag ∈ r.tags
    · rw [if_pos (recognizes_iff.mpr hknown), if_pos hknown, List.length_map, Nat.add_zero]
    · rw [if_neg (fun h => hknown (recognizes_iff.mp h)), if_neg hknown, List.length_append]
      rfl

section OfNamings
variable (namings : List Naming)

theorem ofNamings_concat (n : Naming) :
    ofNamings (namings ++ [n]) = (ofNamings namings).register n.tag n.kind := by
  simp [ofNamings]

theorem get?_ofNamings (name : String) : (ofNamings namings).get? name = lastNamed? namings name := by
  induction namings using List.reverseRecOn with
  | nil => rfl
  | append_singleton namings n ih => rw [ofNamings_concat, get?_register, lastNamed?_concat, ih]

theorem tags_ofNamings :
    (ofNamings namings).tags = (namings.map fun n => normalTag n.tag).eraseDups := by
  induction namings using List.reverseRecOn with
  | nil => rfl
  | append_singleton namings n ih =>
    rw [ofNamings_concat, tags_register, List.map_append, List.map_singleton, eraseDups_concat, ih]
    simp

theorem foldl_addDerived_ofNamings (derived : List String) :
    derived.foldl addDerived (ofNamings namings) =
      ofNamings (namings ++ derivedNamings (ofNamings namings) derived) := by
  induction derived generalizing namings with
  | nil => simp [derivedNamings]
  | cons tag rest ih =>
    rw [List.foldl_cons, addDerived, derivedNamings]
    split
    · exact ih namings
    · have hnext := ih (namings ++ [⟨tag, none⟩])
      rwa [ofNamings_concat, List.append_assoc] at hnext

end OfNamings

/-- Nothing but registering tags is ever done to a registry. -/
theorem Reached.eq_ofNamings {namings : List Naming} {r : KindRegistry} (h : Reached namings r) :
    r = ofNamings namings := by
  induction h with
  | builtin => rfl
  | visible h =>
    next visible derived _ =>
    have hvisible : visible.foldl addVisible empty =
        ofNamings (visible.map fun tag => ⟨tag, Kind.ofTag? tag⟩) := by
      rw [ofNamings, List.foldl_map]
      rfl
    rw [ofVisible?_eq, Option.ite_none_right_eq_some] at h
    obtain ⟨-, h⟩ := h
    rw [← Option.some.inj h, ofTags, hvisible, foldl_addDerived_ofNamings]
  | register _ n ih => rw [ofNamings_concat, ih]

end KindRegistry

/-- A registry is a finite map from normal tags to kinds, whatever was registered in which order. No two
entries are for one normal tag; registering a tag changes what is said of it and nothing else; and a tag
has the kind of the last registration of its normal form. -/
theorem reached_lastNamed {namings : List Naming} {r : KindRegistry}
    (h : KindRegistry.Reached namings r) :
    r.tags.Nodup ∧ (∀ n : Naming, r.Updated n (r.register n.tag n.kind)) ∧
      (∀ tag, r.lookup? tag = lastNamed? namings (normalTag tag)) ∧
      r.entries.length = (namings.map fun n => normalTag n.tag).toFinset.card := by
  have hr := h.eq_ofNamings
  have htags : r.tags = (namings.map fun n => normalTag n.tag).eraseDups := by
    rw [hr, KindRegistry.tags_ofNamings]
  have hnodup : r.tags.Nodup := by
    rw [htags]
    exact nodup_eraseDups _
  refine ⟨hnodup, r.updated_register, fun tag => ?_, ?_⟩
  · rw [KindRegistry.lookup?_eq_get?, hr, KindRegistry.get?_ofNamings]
  · have hsame : r.tags.toFinset = (namings.map fun n => normalTag n.tag).toFinset := by
      ext name
      rw [htags, List.mem_toFinset, List.mem_eraseDups, List.mem_toFinset]
    rw [← hsame, List.toFinset_card_of_nodup hnodup, KindRegistry.tags, List.length_map]

/-- A derived tag that ends in the customary suffix twice, and is registered again for a kind. -/
def cachedNamings : List Naming :=
  [⟨"App.InjectableAttribute", some .injectable⟩, ⟨"CachedAttributeAttribute", none⟩,
    ⟨"Lib.CachedAttributeAttribute", some .scopedService⟩]

/-- Its normal form is found under the tag itself, and not under the normal form. -/
theorem cachedNamings_reached :
    KindRegistry.Reached cachedNamings (.ofNamings cachedNamings) ∧
      (KindRegistry.ofNamings cachedNamings).lookup? "App.CachedAttributeAttribute" =
        some ⟨"CachedAttribute", some .scopedService⟩ ∧
      (KindRegistry.ofNamings cachedNamings).lookup? "CachedAttribute" = none ∧
      (KindRegistry.ofNamings cachedNamings).entries.length = 2 := by
  have hvisible : KindRegistry.ofVisible? ["App.InjectableAttribute"] ["CachedAttributeAttribute"] =
      some (.ofNamings (cachedNamings.take 2)) := by decide +kernel
  have hreached : KindRegistry.Reached cachedNamings (.ofNamings cachedNamings) :=
    (KindRegistry.Reached.visible hvisible).register ⟨"Lib.CachedAttributeAttribute", some .scopedService⟩
  obtain ⟨-, -, hlookup, hlength⟩ := reached_lastNamed hreached
  refine ⟨hreached, ?_, ?_, ?_⟩
  · rw [hlookup]
    decide +kernel
  · rw [hlookup]
    decide +kernel
  · rw [hlength]
    decide +kernel

end ServiceWiring
