import Mathlib.Data.List.Induction
import Mathlib.Data.List.Nodup
import Mathlib.Data.List.Perm.Basic

/-! Lists without their repetitions, each element where it occurs first. -/
namespace ServiceWiring
variable {α : Type} [BEq α] [LawfulBEq α]

theorem eraseDups_concat (as : List α) (a : α) :
    (as ++ [a]).eraseDups = if as.contains a then as.eraseDups else as.eraseDups ++ [a] := by
  rw [List.eraseDups_append, List.cons_removeAll]
  by_cases h : as.contains a <;> simp_all [List.eraseDups_cons]

theorem nodup_eraseDups (as : List α) : as.eraseDups.Nodup := by
  induction as using List.reverseRecOn with
  | nil => simp
  | append_singleton as a ih =>
    rw [eraseDups_concat]
    split
    · exact ih
    · next h =>
      have ha : a ∉ as.eraseDups := by simpa using h
      exact List.nodup_append.mpr ⟨ih, by simp, by rintro b hb c hc rfl; simp_all⟩

/-- Taking the elements key by key takes each of them once. -/
theorem flatMap_filter_perm {β : Type} (key : β → α) {keys : List α} (hn : keys.Nodup)
    (bs : List β) (hk : ∀ b ∈ bs, key b ∈ keys) :
    (keys.flatMap fun k => bs.filter (key · == k)).Perm bs := by
  induction keys generalizing bs with
  | nil =>
    have : bs = [] := List.eq_nil_iff_forall_not_mem.mpr fun b hb => by simpa using hk b hb
    simp [this]
  | cons k keys ih =>
    obtain ⟨hnk, hn⟩ := List.nodup_cons.mp hn
    have hothers : ∀ j ∈ keys, bs.filter (key · == j) =
        (bs.filter fun b => !key b == k).filter (key · == j) := by
      intro j hj
      have hjk : j ≠ k := fun e => hnk (e ▸ hj)
      rw [List.filter_filter]
      refine List.filter_congr fun b _ => ?_
      by_cases hb : key b = j <;> simp [hb, hjk]
    have hrest := ih hn (bs.filter fun b => !key b == k) fun b hb => by
      obtain ⟨hb, hbk⟩ := List.mem_filter.mp hb
      exact (List.mem_cons.mp (hk b hb)).resolve_left (by simpa using hbk)
    rw [List.flatMap_cons, List.flatMap_congr hothers]
    exact (hrest.append_left _).trans (List.filter_append_perm _ bs)

end ServiceWiring
