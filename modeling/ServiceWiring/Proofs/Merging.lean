import ServiceWiring.Settings.Layers
import ServiceWiring.Proofs.Tidy
import ServiceWiring.Proofs.Value

/-! What merging leaves under each key. In a record that has no key twice, what a later record says of
a key is merged into what the earlier one says of that key, and into nothing else. -/
namespace ServiceWiring

namespace Value

/-- No field of the value is null. -/
def Solid : Value → Prop
  | .record fields => ∀ field ∈ fields, field.2 ≠ .null
  | _ => True

theorem Tidy.ne_null {v : Value} (h : v.Tidy) : v ≠ .null := by
  rintro rfl
  cases h

theorem Tidy.solid {v : Value} (h : v.Tidy) : v.Solid := by
  cases h with
  | record hkeys hfields => exact fun field hfield => (hfields field hfield).ne_null
  | _ => trivial

/-- What a value has under a key. -/
def field? (key : String) : Value → Option Value
  | .record fields => fields.lookup key
  | _ => none

theorem tidy_of_field? {v w : Value} {key : String} (h : v.Tidy) (hw : v.field? key = some w) :
    w.Tidy := by
  cases h with
  | record hkeys hfields =>
    exact hfields (key, w) (Keyed.mem_of_lookup hw)
  | _ => cases hw

/-- Of a record that has no key twice, a field is what is found under its name. -/
theorem Field.ofRecord?_eq_lookup {fields : List (String × Value)}
    (hkeys : (fields.map Prod.fst).Nodup) (name : String) :
    Field.ofRecord? fields name = some (.ofGiven (fields.lookup name)) := by
  have hfound : fields.filter (·.1 == name) = ((fields.lookup name).map (name, ·)).toList := by
    induction fields with
    | nil => rfl
    | cons field fields ih =>
      obtain ⟨key, v⟩ := field
      obtain ⟨hkey, hkeys⟩ := List.nodup_cons.mp hkeys
      rw [Keyed.lookup_cons_eq]
      by_cases hname : name = key
      · have hrest : fields.filter (·.1 == name) = [] := by
          refine List.filter_eq_nil_iff.mpr fun other hother he => hkey ?_
          exact List.mem_map.mpr ⟨other, hother, (eq_of_beq he).trans hname⟩
        subst hname
        simp [hrest]
      · have hname' : key ≠ name := Ne.symm hname
        simp [hname, hname', ih hkeys]
  rw [ofRecord?, hfound]
  cases fields.lookup name <;> rfl

end Value

namespace Settings

section Fields
variable {fields old : List (String × Value)}

theorem putField_eq (fields : List (String × Value)) (key : String) (v : Value) :
    putField fields key v = Keyed.written fields key v := rfl

/-- What a later layer may say of something, merged into what an earlier one says. -/
def overlay (earlier : Option Value) : Option Value → Option Value
  | some v => some (merge (earlier.getD .null) v)
  | none => earlier

theorem lookup_mergeFields (h : (fields.map Prod.fst).Nodup) (k : String) :
    (mergeFields old fields).lookup k = overlay (old.lookup k) (fields.lookup k) := by
  induction fields generalizing old with
  | nil => rfl
  | cons field fields ih =>
    obtain ⟨key, v⟩ := field
    obtain ⟨hkey, hfields⟩ := List.nodup_cons.mp h
    rw [mergeFields, ih hfields, putField_eq, Keyed.lookup_written, Keyed.lookup_cons_eq]
    by_cases hk : k = key
    · subst hk
      rw [if_pos rfl, if_pos rfl, Keyed.lookup_eq_none_iff.mpr hkey]
      rfl
    · rw [if_neg hk, if_neg hk]

theorem lookup_mergeFields_single (old : List (String × Value)) (key : String) (v : Value)
    (k : String) : (mergeFields old [(key, v)]).lookup k =
      if k = key then overlay (old.lookup k) (some v) else old.lookup k := by
  have hkeys : ([(key, v)].map Prod.fst).Nodup := List.nodup_singleton key
  rw [lookup_mergeFields hkeys, Keyed.lookup_cons_eq]
  split <;> rfl

theorem nodup_mergeFields (h : (old.map Prod.fst).Nodup) (fields : List (String × Value)) :
    ((mergeFields old fields).map Prod.fst).Nodup := by
  induction fields generalizing old with
  | nil => exact h
  | cons field fields ih =>
    rw [mergeFields]
    exact ih (Keyed.nodup_written h _ _)

end Fields

theorem merge_null (v : Value) : merge .null v = v := by
  cases v <;> rfl

theorem merge_records (old fields : List (String × Value)) :
    merge (.record old) (.record fields) = .record (mergeFields old fields) := rfl

theorem merge_ne_null {v : Value} (h : v ≠ .null) (earlier : Value) : merge earlier v ≠ .null := by
  cases v with
  | record fields => cases earlier <;> exact Value.noConfusion
  | _ => exact h

theorem solid_mergeFields {old fields : List (String × Value)} (hold : (Value.record old).Solid)
    (hfields : (Value.record fields).Solid) : (Value.record (mergeFields old fields)).Solid := by
  induction fields generalizing old with
  | nil => exact hold
  | cons field fields ih =>
    obtain ⟨hfield, hfields⟩ := List.forall_mem_cons.mp hfields
    rw [mergeFields]
    refine ih (fun other hother => ?_) hfields
    rcases Keyed.mem_written hother with hother | rfl
    · exact hold other hother
    · exact merge_ne_null hfield _

theorem solid_merge {earlier v : Value} (hearlier : earlier.Solid) (hv : v.Solid) :
    (merge earlier v).Solid := by
  cases v with
  | record fields =>
    cases earlier with
    | record old => exact solid_mergeFields hearlier hv
    | _ => exact hv
  | _ => trivial

end Settings

end ServiceWiring
