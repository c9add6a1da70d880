import Mathlib.Data.List.Nodup
import Mathlib.Data.List.Perm.Subperm
import ServiceWiring.Batch.DirectoryName
import ServiceWiring.Proofs.Saving

/-! Names of directories for several units. Each is a name of one directory, whatever the unit is
called, and none is given out twice. -/
namespace ServiceWiring.Batch
open ServiceWiring.Text

/-- A name of one directory, however paths are written. -/
structure IsDirectoryName (name : String) : Prop extends Path.IsPart name where
  backslash_not_mem : '\\' ∉ name.toList

theorem not_mem_replaceChar {c : Char} {replacement : String} (h : c ∉ replacement.toList)
    (s : String) : c ∉ (replaceChar c replacement s).toList := by
  rw [toList_replaceChar, List.mem_flatMap]
  rintro ⟨d, -, hd⟩
  split at hd
  · exact h hd
  · next hne => exact hne (List.mem_singleton.mp hd).symm

theorem not_mem_replaceChar_of_not_mem {c d : Char} {replacement s : String}
    (h : c ∉ replacement.toList) (hs : c ∉ s.toList) :
    c ∉ (replaceChar d replacement s).toList := by
  rw [toList_replaceChar, List.mem_flatMap]
  rintro ⟨e, he, hc⟩
  split at hc
  · exact h hc
  · exact hs (List.mem_singleton.mp hc ▸ he)

theorem isDirectoryName_directoryName (unit manifest : String) :
    IsDirectoryName (directoryName unit manifest) := by
  simp only [directoryName]
  generalize (if isBlankText unit then (Path.stem? manifest).getD "" else trim unit) = name
  have hslash : '/' ∉ (replaceChar '\\' "_" (replaceChar '/' "_" name)).toList :=
    not_mem_replaceChar_of_not_mem (by decide) (not_mem_replaceChar (by decide) name)
  have hbackslash : '\\' ∉ (replaceChar '\\' "_" (replaceChar '/' "_" name)).toList :=
    not_mem_replaceChar (by decide) _
  split
  · exact ⟨⟨⟨by decide, by decide⟩, by decide, by decide⟩, by decide⟩
  · next h =>
    rw [not_or, not_or] at h
    exact ⟨⟨⟨h.2.1, h.2.2⟩, h.1, hslash⟩, hbackslash⟩

theorem toList_numbered (base : String) (k : Nat) :
    (numbered base k).toList = base.toList ++ '-' :: Nat.toDigits 10 k := by
  simp [numbered]

theorem isDirectoryName_numbered {base : String} (h : IsDirectoryName base) (k : Nat) :
    IsDirectoryName (numbered base k) := by
  have hdash : '-' ∈ (numbered base k).toList := by simp [toList_numbered]
  have hdigits : ∀ c ∈ Nat.toDigits 10 k, c.isDigit = true :=
    fun c hc => Nat.isDigit_of_mem_toDigits (by decide) (by decide) hc
  have hother (c : Char) (hbase : c ∉ base.toList) (hc : c.isDigit = false) (hne : c ≠ '-') :
      c ∉ (numbered base k).toList := by
    rw [toList_numbered, List.mem_append, List.mem_cons]
    rintro (hmem | hmem | hmem)
    · exact hbase hmem
    · exact hne hmem
    · rw [hdigits c hmem] at hc
      cases hc
  have hne (other : String) (h : '-' ∉ other.toList) : numbered base k ≠ other :=
    fun e => h (e ▸ hdash)
  exact ⟨⟨⟨hne "." (by decide), hne ".." (by decide)⟩, hne "" (by decide),
    hother '/' h.slash_not_mem (by decide) (by decide)⟩,
    hother '\\' h.backslash_not_mem (by decide) (by decide)⟩

theorem numbered_injective {base : String} {j k : Nat} (h : numbered base j = numbered base k) :
    j = k := by
  have hlists := congrArg String.toList h
  simp only [toList_numbered, List.append_cancel_left_eq, List.cons.injEq, true_and] at hlists
  simpa using congrArg (fun digits => Nat.ofDigitChars 10 digits 0) hlists

theorem numbered_ne (base : String) (k : Nat) : numbered base k ≠ base := by
  intro h
  have hlists := congrArg String.toList h
  simp [toList_numbered] at hlists

theorem nodup_candidates (base : String) (taken : List String) : (candidates base taken).Nodup := by
  rw [candidates, List.nodup_cons]
  constructor
  · rw [List.mem_map]
    rintro ⟨i, -, h⟩
    exact numbered_ne base (i + 2) h
  · refine List.Nodup.map_on ?_ List.nodup_range
    intro i _ j _ h
    exact Nat.add_right_cancel (numbered_injective h)

/-- There are more candidates than names taken. -/
theorem exists_candidate (base : String) (taken : List String) :
    ∃ name ∈ candidates base taken, name ∉ taken := by
  by_contra hall
  have hsub : candidates base taken ⊆ taken := by
    intro name hmem
    by_contra hnot
    exact hall ⟨name, hmem, hnot⟩
  have hle := (List.subperm_of_subset (nodup_candidates base taken) hsub).length_le
  simp only [candidates, List.length_cons, List.length_map, List.length_range] at hle
  omega

theorem freeName_spec (base : String) (taken : List String) :
    freeName base taken ∈ candidates base taken ∧ freeName base taken ∉ taken := by
  obtain ⟨name, hmem, hnot⟩ := exists_candidate base taken
  cases h : (candidates base taken).find? fun name => !taken.contains name with
  | none =>
    have hnone := List.find?_eq_none.mp h name hmem
    simp [hnot] at hnone
  | some found =>
    have hfound := List.find?_some h
    rw [freeName, h, Option.getD_some]
    exact ⟨List.mem_of_find?_eq_some h, by simpa using hfound⟩

example : freeName "A" ["A-2", "A"] = "A-3" := by decide

theorem isDirectoryName_freeName (unit manifest : String) (taken : List String) :
    IsDirectoryName (freeName (directoryName unit manifest) taken) := by
  have hbase := isDirectoryName_directoryName unit manifest
  have hmem := (freeName_spec (directoryName unit manifest) taken).1
  rw [candidates, List.mem_cons, List.mem_map] at hmem
  rcases hmem with h | ⟨i, -, h⟩
  · rwa [h]
  · rw [← h]
    exact isDirectoryName_numbered hbase _

end ServiceWiring.Batch
