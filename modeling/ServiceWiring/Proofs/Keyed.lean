import Mathlib.Data.List.Nodup

/-! Things under keys: what is found under a key, and what writing a thing under a key changes. A key
that is there already keeps its place. -/
namespace ServiceWiring.Keyed
variable {α : Type} {fields : List (String × α)} {key : String} {a : α}

theorem lookup_cons_eq (key : String) (a : α) (fields : List (String × α)) (k : String) :
    ((key, a) :: fields).lookup k = if k = key then some a else fields.lookup k := by
  rw [List.lookup_cons]
  by_cases h : k = key
  · rw [if_pos h, h, beq_self_eq_true]
  · rw [if_neg h, beq_eq_false_iff_ne.mpr h]

theorem lookup_eq_none_iff : fields.lookup key = none ↔ key ∉ fields.map Prod.fst := by
  rw [List.lookup_eq_none_iff]
  constructor
  · intro h hkey
    obtain ⟨field, hfield, rfl⟩ := List.mem_map.mp hkey
    simpa using h field hfield
  · intro h field hfield
    exact bne_iff_ne.mpr fun he => h (List.mem_map.mpr ⟨field, hfield, he.symm⟩)

theorem mem_of_lookup (h : fields.lookup key = some a) : (key, a) ∈ fields := by
  obtain ⟨before, after, rfl, -⟩ := List.lookup_eq_some_iff.mp h
  exact List.mem_append_right before List.mem_cons_self

/-- The same with one thing under a key, which is added if it is not there. -/
def written (fields : List (String × α)) (key : String) (a : α) : List (String × α) :=
  if (fields.lookup key).isSome then
    fields.map fun field => if field.1 = key then (key, a) else field
  else fields ++ [(key, a)]

theorem lookup_written (fields : List (String × α)) (key : String) (a : α) (k : String) :
    (written fields key a).lookup k = if k = key then some a else fields.lookup k := by
  have hchanged : (fields.map fun field => if field.1 = key then (key, a) else field).lookup k =
      if k = key then (fields.lookup key).map fun _ => a else fields.lookup k := by
    induction fields with
    | nil => simp
    | cons field fields ih =>
      obtain ⟨name, b⟩ := field
      by_cases hname : name = key
      · subst hname
        by_cases hk : k = name <;> simp [hk, ih, lookup_cons_eq]
      · have hname' : key ≠ name := Ne.symm hname
        by_cases hk : k = key
        · subst hk
          simpa [hname, hname', lookup_cons_eq] using ih
        · simp [hk, hname, ih, lookup_cons_eq]
  rw [written]
  split
  · next hthere =>
    obtain ⟨b, hb⟩ := Option.isSome_iff_exists.mp hthere
    rw [hchanged, hb, Option.map_some]
  · next hnew =>
    rw [List.lookup_append, lookup_cons_eq]
    by_cases hk : k = key
    · rw [hk, Option.not_isSome_iff_eq_none.mp hnew]
      simp
    · simp [hk]

theorem nodup_written (h : (fields.map Prod.fst).Nodup) (key : String) (a : α) :
    ((written fields key a).map Prod.fst).Nodup := by
  rw [written]
  split
  · have hsame : (fields.map fun field => if field.1 = key then (key, a) else field).map Prod.fst =
        fields.map Prod.fst := by
      rw [List.map_map]
      refine List.map_congr_left fun field _ => ?_
      rw [Function.comp_apply]
      split
      · next h => exact h.symm
      · rfl
    rwa [hsame]
  · next hnew =>
    rw [Option.not_isSome_iff_eq_none, lookup_eq_none_iff] at hnew
    rw [List.map_append, List.map_singleton, ← List.concat_eq_append]
    exact h.concat hnew

theorem mem_written {field : String × α} (h : field ∈ written fields key a) :
    field ∈ fields ∨ field = (key, a) := by
  rw [written] at h
  split at h
  · obtain ⟨earlier, hearlier, rfl⟩ := List.mem_map.mp h
    split
    · exact .inr rfl
    · exact .inl hearlier
  · exact (List.mem_append.mp h).imp_right List.mem_singleton.mp

end ServiceWiring.Keyed
