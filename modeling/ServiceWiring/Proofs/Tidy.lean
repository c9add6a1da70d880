import ServiceWiring.Proofs.Keyed
import ServiceWiring.Toml.Reader

/-! What TOML spells: a record in which nothing is null, no scalar is left undecided and no key stands
twice, nor in any record inside it. Every change to a table keeps it so, and so does every line. -/
namespace ServiceWiring

/-- Nothing in the value is null or undecided, and no record has a key twice. -/
inductive Value.Tidy : Value → Prop
  | bool (b : Bool) : Tidy (.bool b)
  | integer (n : Int) : Tidy (.integer n)
  | text (s : String) : Tidy (.text s)
  | foreign : Tidy .foreign
  | list {items : List Value} (h : ∀ v ∈ items, Tidy v) : Tidy (.list items)
  | record {fields : List (String × Value)} (hkeys : (fields.map Prod.fst).Nodup)
    (h : ∀ field ∈ fields, Tidy field.2) : Tidy (.record fields)

namespace Toml
open ServiceWiring.Value (Tidy)

theorem fieldValues_eq_map (fields : List (String × Item)) :
    fieldValues fields = fields.map fun field => (field.1, field.2.toValue) := by
  induction fields with
  | nil => rfl
  | cons field fields ih => rw [fieldValues, ih, List.map_cons]

theorem tableValues_eq_map (items : List (List (String × Item))) :
    tableValues items = items.map fun fields => .record (fieldValues fields) := by
  induction items with
  | nil => rfl
  | cons fields items ih => rw [tableValues, ih, List.map_cons]

/-- A table is as tidy as what its keys stand for. -/
theorem tidy_record_iff {fields : List (String × Item)} :
    Tidy (.record (fieldValues fields)) ↔
      (fields.map Prod.fst).Nodup ∧ ∀ field ∈ fields, field.2.toValue.Tidy := by
  have hkeys : (fieldValues fields).map Prod.fst = fields.map Prod.fst := by
    rw [fieldValues_eq_map, List.map_map]
    rfl
  rw [← hkeys]
  constructor
  · rintro (_ | _ | _ | _ | _ | ⟨hnodup, hfields⟩)
    refine ⟨hnodup, fun field hfield => ?_⟩
    rw [fieldValues_eq_map] at hfields
    exact hfields _ (List.mem_map_of_mem hfield)
  · rintro ⟨hnodup, hfields⟩
    apply Tidy.record hnodup
    rw [fieldValues_eq_map]
    exact List.forall_mem_map.mpr hfields

theorem tidy_tables_iff {items : List (List (String × Item))} :
    (Item.tables items).toValue.Tidy ↔ ∀ fields ∈ items, Tidy (.record (fieldValues fields)) := by
  rw [Item.toValue, tableValues_eq_map]
  constructor
  · rintro (_ | _ | _ | _ | hitems)
    exact List.forall_mem_map.mp hitems
  · intro h
    exact .list (List.forall_mem_map.mpr h)

theorem tidy_empty : Tidy (.record []) := .record List.nodup_nil fun _ h => absurd h List.not_mem_nil

namespace Table
variable {t u : Table} {key : String} {path : List String}

theorem tidy_of_get? {item : Item} (ht : t.toValue.Tidy) (h : t.get? key = some item) :
    item.toValue.Tidy :=
  (tidy_record_iff.mp ht).2 _ (Keyed.mem_of_lookup h)

theorem put_eq (t : Table) (key : String) (item : Item) :
    t.put key item = ⟨t.origin, Keyed.written t.fields key item⟩ := by
  rw [put, Keyed.written, get?]
  split <;> rfl

theorem tidy_put (ht : t.toValue.Tidy) (key : String) (item : Item) (hitem : item.toValue.Tidy) :
    (t.put key item).toValue.Tidy := by
  obtain ⟨hkeys, hfields⟩ := tidy_record_iff.mp ht
  rw [put_eq]
  refine tidy_record_iff.mpr ⟨Keyed.nodup_written hkeys key item, fun field hfield => ?_⟩
  rcases Keyed.mem_written hfield with hfield | rfl
  · exact hfields field hfield
  · exact hitem

/-- A change that keeps tables tidy does so wherever it is made. -/
theorem tidy_change {dotted : Bool} {f : Table → Option Table}
    (hf : ∀ {t u : Table}, t.toValue.Tidy → f t = some u → u.toValue.Tidy) (ht : t.toValue.Tidy)
    (h : change dotted f path t = some u) : u.toValue.Tidy := by
  induction path generalizing t u with
  | nil => exact hf ht h
  | cons key path ih =>
    rw [change] at h
    split at h
    · obtain ⟨inner, hinner, rfl⟩ := Option.map_eq_some_iff.mp h
      exact tidy_put ht key (.table _ _) (ih (t := .empty _) tidy_empty hinner)
    · next origin fields hget =>
      split at h
      · cases h
      · obtain ⟨inner, hinner, rfl⟩ := Option.map_eq_some_iff.mp h
        exact tidy_put ht key (.table _ _)
          (ih (t := ⟨origin, fields⟩) (tidy_of_get? ht hget) hinner)
    · next items hget =>
      obtain ⟨inner, hinner, rfl⟩ := Option.map_eq_some_iff.mp h
      have hitems := tidy_tables_iff.mp (tidy_of_get? ht hget)
      have hlast : Tidy (.record (fieldValues (items.getLastD []))) := by
        rw [List.getLastD_eq_getLast?]
        cases hitem : items.getLast? with
        | none => exact tidy_empty
        | some fields => exact hitems fields (List.mem_of_getLast? hitem)
      refine tidy_put ht key (.tables _) (tidy_tables_iff.mpr fun fields hfields => ?_)
      rcases List.mem_append.mp hfields with hfields | hfields
      · exact hitems fields (List.dropLast_subset items hfields)
      · rw [List.mem_singleton.mp hfields]
        exact ih (t := ⟨.header, _⟩) hlast hinner
    · cases h

theorem tidy_set {v : Value} (hv : v.Tidy) (ht : t.toValue.Tidy) (h : set path key v t = some u) :
    u.toValue.Tidy := by
  refine tidy_change (fun hinner hset => ?_) ht h
  split at hset
  · rw [← Option.some.inj hset]
    exact tidy_put hinner key (.value v) hv
  · cases hset

theorem tidy_openTable (ht : t.toValue.Tidy) (h : openTable path key t = some u) :
    u.toValue.Tidy := by
  refine tidy_change (fun hinner hopen => ?_) ht h
  split at hopen
  · rw [← Option.some.inj hopen]
    exact tidy_put hinner key (.table .header []) tidy_empty
  · next fields hget =>
    rw [← Option.some.inj hopen]
    have hfields : Tidy (.record (fieldValues fields)) := tidy_of_get? hinner hget
    exact tidy_put hinner key (.table .header fields) hfields
  · cases hopen

theorem tidy_openArray (ht : t.toValue.Tidy) (h : openArray path key t = some u) :
    u.toValue.Tidy := by
  refine tidy_change (fun hinner hopen => ?_) ht h
  split at hopen
  · rw [← Option.some.inj hopen]
    refine tidy_put hinner key (.tables _) (tidy_tables_iff.mpr fun fields hfields => ?_)
    rw [List.mem_singleton.mp hfields]
    exact tidy_empty
  · next items hget =>
    rw [← Option.some.inj hopen]
    have hitems := tidy_tables_iff.mp (tidy_of_get? hinner hget)
    refine tidy_put hinner key (.tables _) (tidy_tables_iff.mpr fun fields hfields => ?_)
    rcases List.mem_append.mp hfields with hfields | hfields
    · exact hitems fields hfields
    · rw [List.mem_singleton.mp hfields]
      exact tidy_empty
  · cases hopen

end Table

section Reader
variable {ed : Edition}

theorem tidy_scalar? {cs : List Char} {v : Value} (h : scalar? ed cs = some v) : v.Tidy := by
  unfold scalar? at h
  split at h
  · exact Option.some.inj h ▸ .bool true
  split at h
  · exact Option.some.inj h ▸ .bool false
  split at h
  · next n _ =>
    split at h
    · exact Option.some.inj h ▸ .integer n
    · cases h
  split at h
  · exact Option.some.inj h ▸ .foreign
  split at h
  · rw [← Option.some.inj h]
    exact .record (by simp) fun field hfield => List.mem_singleton.mp hfield ▸ .text _
  · cases h

theorem tidy_readScalar {cs rest : List Char} {v : Value}
    (h : readScalar ed cs = some (v, rest)) : v.Tidy := by
  unfold readScalar at h
  simp only at h
  split at h
  · obtain ⟨w, hw, heq⟩ := Option.map_eq_some_iff.mp h
    cases heq
    exact tidy_scalar? hw
  · obtain ⟨w, hw, heq⟩ := Option.map_eq_some_iff.mp h
    cases heq
    exact tidy_scalar? hw

/-- What so much fuel is enough to read is tidy, and leaves a table tidy that it is put into. -/
structure ReadsTidy (ed : Edition) (fuel : Nat) : Prop where
  value : ∀ {levels : Nat} {cs rest : List Char} {v : Value},
    readValue ed fuel levels cs = some (v, rest) → v.Tidy
  items : ∀ {levels : Nat} {cs rest : List Char} {vs : List Value},
    readItems ed fuel levels cs = some (vs, rest) → ∀ v ∈ vs, v.Tidy
  fields : ∀ {levels : Nat} {t u : Table} {cs rest : List Char}, t.toValue.Tidy →
    readFields ed fuel levels t cs = some (u, rest) → u.toValue.Tidy
  field : ∀ {levels : Nat} {t u : Table} {cs rest : List Char}, t.toValue.Tidy →
    readField ed fuel levels t cs = some (u, rest) → u.toValue.Tidy

theorem readsTidy (fuel : Nat) : ReadsTidy ed fuel := by
  -- The four readers call one another with less fuel, so they share one induction.
  induction fuel with
  | zero =>
    constructor
    · intro levels cs rest v h
      rw [readValue] at h
      cases h
    · intro levels cs rest vs h
      rw [readItems] at h
      cases h
    · intro levels t u cs rest ht h
      rw [readFields] at h
      cases h
    · intro levels t u cs rest ht h
      rw [readField] at h
      cases h
  | succ fuel ih =>
    constructor
    · intro levels cs rest v h
      unfold readValue at h
      split at h
      · obtain ⟨r, hr, heq⟩ := Option.map_eq_some_iff.mp h
        cases heq
        exact .text _
      · obtain ⟨r, hr, heq⟩ := Option.map_eq_some_iff.mp h
        cases heq
        exact .text _
      · split at h
        · cases h
        split at h
        · next items rest hitems =>
          cases h
          exact .list (ih.items hitems)
        · cases h
      · split at h
        · cases h
        split at h
        · cases h
        · cases h
          exact tidy_empty
        split at h
        · next table rest htable =>
          cases h
          exact ih.fields (t := .empty .header) tidy_empty htable
        · cases h
      · exact tidy_readScalar h
    · intro levels cs rest vs h
      rw [readItems] at h
      split at h
      · cases h
      · cases h
        exact fun v hv => absurd hv List.not_mem_nil
      split at h
      · cases h
      next v rest hv =>
      split at h
      · cases h
        exact fun w hw => List.mem_singleton.mp hw ▸ ih.value hv
      · split at h
        · next vs rest hvs =>
          cases h
          exact List.forall_mem_cons.mpr ⟨ih.value hv, ih.items hvs⟩
        · cases h
      · cases h
    · intro levels t u cs rest ht h
      rw [readFields] at h
      split at h
      · cases h
      · next hfield =>
        cases h
        exact ih.field ht hfield
      · next hfield =>
        split at h
        · cases h
        · split at h
          · cases h
            exact ih.field ht hfield
          · cases h
        · exact ih.fields (ih.field ht hfield) h
      · cases h
    · intro levels t u cs rest ht h
      rw [readField] at h
      split at h
      · cases h
      split at h
      · split at h
        · cases h
        next hv =>
        obtain ⟨behind, -, hv⟩ := Option.bind_eq_some_iff.mp hv
        split at h
        · next hset _ =>
          cases h
          exact Table.tidy_set (ih.value hv) ht hset
        · cases h
      · cases h

end Reader

theorem Draft.tidy_setKey {d e : Draft} {path : List String} {key : String} {v : Value}
    (hv : v.Tidy) (hd : d.root.toValue.Tidy) (h : d.setKey path key v = some e) :
    e.root.toValue.Tidy := by
  obtain ⟨root, hroot, rfl⟩ := Option.map_eq_some_iff.mp h
  exact Table.tidy_change (Table.tidy_set hv) hd hroot

theorem tidy_readLine {ed : Edition} {d e : Draft} {cs rest : List Char}
    (hd : d.root.toValue.Tidy) (h : readLine ed d cs = some (e, rest)) : e.root.toValue.Tidy := by
  unfold readLine at h
  split at h
  · split at h
    · split at h
      · next hopen _ =>
        cases h
        exact Table.tidy_openArray hd hopen
      · cases h
    · cases h
  · split at h
    · split at h
      · next hopen _ =>
        cases h
        exact Table.tidy_openTable hd hopen
      · cases h
    · cases h
  · split at h
    · split at h
      · cases h
      next hv =>
      split at h
      · next hset _ =>
        cases h
        exact Draft.tidy_setKey ((readsTidy _).value hv) hd hset
      · cases h
    · cases h

theorem tidy_readLines {ed : Edition} {fuel : Nat} {d e : Draft} {cs : List Char}
    (hd : d.root.toValue.Tidy) (h : readLines ed fuel d cs = some e) : e.root.toValue.Tidy := by
  induction fuel generalizing d cs with
  | zero =>
    rw [readLines] at h
    cases h
  | succ fuel ih =>
    rw [readLines] at h
    split at h
    · cases h
    · cases h
      exact hd
    · split at h
      · next hline => exact ih (tidy_readLine hd hline) h
      · cases h

/-- A document spells a tidy record. -/
theorem tidy_read? {ed : Edition} {s : String} {v : Value} (h : read? ed s = some v) :
    v.Tidy ∧ ∃ fields, v = .record fields := by
  obtain ⟨d, hd, rfl⟩ := Option.map_eq_some_iff.mp h
  exact ⟨tidy_readLines (d := .empty) tidy_empty hd, fieldValues d.root.fields, rfl⟩

end Toml

end ServiceWiring
