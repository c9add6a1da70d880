import ServiceWiring.Text.Case

/-! Words of small letters of ASCII as the lower case of other texts. Only the letters of ASCII come to
them, with one exception: the lower case of the Kelvin sign is a k. -/
namespace ServiceWiring.Text

/-- The small letters that are the lower case of nothing but a letter of ASCII. -/
def isPlainLower (c : Char) : Bool := c.isLower && c != 'k'

private theorem isLower_iff {c : Char} : c.isLower = true ↔ 0x61 ≤ c.toNat ∧ c.toNat ≤ 0x7a := by
  show (decide ('a'.val ≤ c.val) && decide (c.val ≤ 'z'.val)) = true ↔ _
  rw [Bool.and_eq_true, decide_eq_true_iff, decide_eq_true_iff]
  exact and_congr UInt32.le_iff_toNat_le UInt32.le_iff_toNat_le

theorem isPlainLower_of_beyond_ascii {c : Char} (h : 0x80 ≤ c.toNat) : isPlainLower c = false := by
  have hlower : ¬c.isLower = true := by
    rw [isLower_iff]
    omega
  simp [isPlainLower, hlower]

theorem toLower_of_beyond_ascii {c : Char} (h : 0x80 ≤ c.toNat) : c.toLower = c := by
  refine dif_neg ?_
  rintro ⟨-, hupper⟩
  have hsmall : c.toNat ≤ 0x5a := UInt32.le_iff_toNat_le.mp hupper
  omega

private theorem lowered_beyond_ascii : ∀ entry ∈ loweringStrides,
    (0x80 : Int) ≤ entry.1.first + entry.2 ∨
      entry.1.first = 0x212a ∧ entry.1.last = 0x212a ∧ entry.2 = -8383 := by
  decide +kernel

private theorem isPlainLower_ofNat {n : Nat} (h : 0x80 ≤ n) : isPlainLower (Char.ofNat n) = false := by
  by_cases hn : n.isValidChar
  · apply isPlainLower_of_beyond_ascii
    rw [Char.ofNat, dif_pos hn]
    exact h
  · rw [Char.ofNat, dif_neg hn]
    decide

/-- The lower case of a character beyond ASCII has something in it that is no plain small letter. -/
theorem exists_mem_lowerChar {c : Char} (h : 0x80 ≤ c.toNat) :
    ∃ d ∈ lowerChar c, isPlainLower d = false := by
  rw [lowerChar, if_neg (by omega)]
  split
  · exact ⟨'\u0307', by simp, by decide⟩
  · split
    · next stride distance hfind =>
      refine ⟨_, List.mem_singleton.mpr rfl, ?_⟩
      have hcontains := List.find?_some hfind
      simp only [Stride.contains, Bool.and_eq_true, decide_eq_true_eq] at hcontains
      obtain ⟨⟨hfirst, hlast⟩, -⟩ := hcontains
      rcases lowered_beyond_ascii _ (List.mem_of_find?_eq_some hfind) with hbeyond | ⟨hf, hl, hd⟩
      · apply isPlainLower_ofNat
        simp only at hbeyond
        omega
      · simp only at hf hl hd
        have hcode : (c.toNat + distance).toNat = 0x6b := by omega
        rw [hcode]
        decide
    · exact ⟨c, List.mem_singleton_self c, isPlainLower_of_beyond_ascii h⟩

theorem lowerChars_of_ascii {cs : List Char} (h : ∀ c ∈ cs, c.toNat < 0x80) :
    lowerChars cs = cs.map Char.toLower := by
  induction cs with
  | nil => rfl
  | cons c cs ih =>
    obtain ⟨hc, hcs⟩ := List.forall_mem_cons.mp h
    have hrest := ih hcs
    rw [lowerChars] at hrest ⊢
    rw [List.flatMap_cons, hrest, lowerChar, if_pos hc, List.map_cons, List.singleton_append]

/-- For a word of plain small letters it is enough to ignore the case of ASCII. -/
theorem lowerChars_eq_iff {cs word : List Char} (hword : ∀ c ∈ word, isPlainLower c = true) :
    lowerChars cs = word ↔ cs.map Char.toLower = word := by
  by_cases hall : ∃ c ∈ cs, 0x80 ≤ c.toNat
  · obtain ⟨c, hc, hbeyond⟩ := hall
    constructor
    · rintro rfl
      obtain ⟨d, hd, hplain⟩ := exists_mem_lowerChar hbeyond
      rw [hword d (List.mem_flatMap.mpr ⟨c, hc, hd⟩)] at hplain
      cases hplain
    · rintro rfl
      have hplain := hword c.toLower (List.mem_map_of_mem hc)
      rw [toLower_of_beyond_ascii hbeyond, isPlainLower_of_beyond_ascii hbeyond] at hplain
      cases hplain
  · rw [lowerChars_of_ascii fun c hc => Nat.lt_of_not_le fun h => hall ⟨c, hc, h⟩]

end ServiceWiring.Text
