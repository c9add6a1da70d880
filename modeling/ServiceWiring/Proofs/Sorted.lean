import Mathlib.Data.List.Nodup
import Mathlib.Data.List.Perm.Subperm
import ServiceWiring.Sorted

/-! Sorted lists stand for sets: putting elements in their places keeps what there is, each once, and
forgets the order in which they came. -/
namespace ServiceWiring.Sorted
variable {α : Type} [Ord α] [Std.LawfulEqOrd α]

theorem mem_insert {a c : α} {items : List α} : c ∈ insert a items ↔ c = a ∨ c ∈ items := by
  induction items with
  | nil => simp [insert]
  | cons b rest ih =>
    rw [insert]
    cases h : compare a b with
    | lt => simp
    | eq =>
      obtain rfl := Std.LawfulEqOrd.eq_of_compare h
      simp
    | gt =>
      simp only [List.mem_cons, ih]
      exact or_left_comm

theorem mem_ofList {c : α} {items : List α} : c ∈ ofList items ↔ c ∈ items := by
  induction items with
  | nil => rfl
  | cons a rest ih =>
    rw [List.mem_cons, ← ih]
    exact mem_insert

variable [Std.TransOrd α]

theorem pairwise_insert (a : α) {items : List α}
    (h : items.Pairwise fun b c => compare b c = .lt) :
    (insert a items).Pairwise fun b c => compare b c = .lt := by
  induction items with
  | nil => simp [insert]
  | cons b rest ih =>
    obtain ⟨hb, hrest⟩ := List.pairwise_cons.mp h
    rw [insert]
    cases hab : compare a b with
    | lt =>
      refine List.pairwise_cons.mpr ⟨fun c hc => ?_, h⟩
      rcases List.mem_cons.mp hc with rfl | hc
      · exact hab
      · exact Std.TransCmp.lt_trans hab (hb c hc)
    | eq => exact h
    | gt =>
      refine List.pairwise_cons.mpr ⟨fun c hc => ?_, ih hrest⟩
      rcases mem_insert.mp hc with rfl | hc
      · exact Std.OrientedCmp.gt_iff_lt.mp hab
      · exact hb c hc

theorem pairwise_ofList (items : List α) :
    (ofList items).Pairwise fun b c => compare b c = .lt := by
  induction items with
  | nil => exact List.Pairwise.nil
  | cons a rest ih => exact pairwise_insert a ih

theorem nodup_ofList (items : List α) : (ofList items).Nodup := by
  refine (pairwise_ofList items).imp fun {a b} h e => ?_
  rw [e, Std.ReflOrd.compare_self] at h
  cases h

theorem length_ofList_le (items : List α) : (ofList items).length ≤ items.length :=
  (List.subperm_of_subset (nodup_ofList items) fun _ => mem_ofList.mp).length_le

/-- Only which elements there are counts. -/
theorem ofList_congr {items others : List α} (h : ∀ c, c ∈ items ↔ c ∈ others) :
    ofList items = ofList others := by
  have hperm : (ofList items).Perm (ofList others) := by
    rw [List.perm_ext_iff_of_nodup (nodup_ofList items) (nodup_ofList others)]
    intro c
    rw [mem_ofList, mem_ofList, h]
  have hantisymm (a b : α) (hab : compare a b = .lt) (hba : compare b a = .lt) : a = b :=
    (Std.OrientedCmp.not_lt_of_lt hab hba).elim
  exact hperm.eq_of_pairwise (fun a b _ _ => hantisymm a b) (pairwise_ofList items)
    (pairwise_ofList others)

end ServiceWiring.Sorted
