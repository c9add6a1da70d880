import ServiceWiring.Kind.Registry
import ServiceWiring.Proofs.FirstOccurrences

/-! Registering tags. A registry answers for a tag by its normal form: registering a tag sets the answer
for this form and leaves all others as they were, and no form is there twice. -/
namespace ServiceWiring.KindRegistry
variable {r : KindRegistry} {tag name : String} {kind : Option Kind} {e : KindEntry}

/-- The normal tags of a registry, in the order of its entries. -/
def tags (r : KindRegistry) : List String := r.entries.map KindEntry.tag

/-- The entry under a normal tag. -/
def get? (r : KindRegistry) (name : String) : Option KindEntry :=
  r.entries.find? fun e => e.tag == name

theorem lookup?_eq_get? (r : KindRegistry) (tag : String) :
    r.lookup? tag = r.get? (normalTag tag) := rfl

theorem tag_of_get? (h : r.get? name = some e) : e.tag = name := by
  simpa using List.find?_some h

theorem isSome_get?_iff : (r.get? name).isSome = true ↔ name ∈ r.tags := by
  simp [get?, tags]

theorem get?_eq_none_iff : r.get? name = none ↔ name ∉ r.tags := by
  simp [get?, tags]

theorem recognizes_iff : r.recognizes tag = true ↔ normalTag tag ∈ r.tags := isSome_get?_iff

/-- Setting the kind of the entries under one tag moves no entry to another tag. -/
private theorem tag_set (name : String) (kind : Option Kind) (e : KindEntry) :
    (if e.tag = name then { e with kind := kind } else e).tag = e.tag := by
  split <;> rfl

/-- What is registered is found under its own normal tag, and all else as before. -/
theorem get?_register (r : KindRegistry) (tag : String) (kind : Option Kind) (name : String) :
    (r.register tag kind).get? name =
      if name = normalTag tag then some ⟨name, kind⟩ else r.get? name := by
  by_cases hknown : r.recognizes tag
  · -- The entry is found where it was found before, with its new kind.
    rw [register, if_pos hknown, get?, List.find?_map]
    simp only [Function.comp_def, tag_set]
    rw [← get?]
    cases he : r.get? name with
    | none =>
      have hname : name ≠ normalTag tag := by
        rintro rfl
        exact get?_eq_none_iff.mp he (recognizes_iff.mp hknown)
      simp [hname]
    | some e =>
      have htag := tag_of_get? he
      by_cases hname : name = normalTag tag <;> simp [htag, hname]
  · have hnone : r.get? (normalTag tag) = none :=
      get?_eq_none_iff.mpr fun h => hknown (recognizes_iff.mpr h)
    rw [register, if_neg hknown, get?, List.find?_append, ← get?]
    by_cases hname : name = normalTag tag
    · simp [hname, hnone]
    · simp [hname, Ne.symm hname]

/-- A new tag goes to the end, and a known one stays where it is. -/
theorem tags_register (r : KindRegistry) (tag : String) (kind : Option Kind) :
    (r.register tag kind).tags =
      if normalTag tag ∈ r.tags then r.tags else r.tags ++ [normalTag tag] := by
  simp only [register, recognizes_iff]
  split
  · simp [tags, tag_set]
  · simp [tags]

/-- Steps that register one tag each come to the normal tags of all, in the order in which they come
first. -/
theorem tags_foldl {step : KindRegistry → String → KindRegistry}
    (hstep : ∀ r tag, (step r tag).tags =
      if normalTag tag ∈ r.tags then r.tags else r.tags ++ [normalTag tag])
    {names : List String} (hr : r.tags = names.eraseDups) (given : List String) :
    (given.foldl step r).tags = (names ++ given.map normalTag).eraseDups := by
  induction given generalizing r names with
  | nil => simpa using hr
  | cons tag rest ih =>
    have hnext : (step r tag).tags = (names ++ [normalTag tag]).eraseDups := by
      rw [hstep, eraseDups_concat, hr]
      simp
    rw [List.foldl_cons, ih hnext]
    simp

end ServiceWiring.KindRegistry
