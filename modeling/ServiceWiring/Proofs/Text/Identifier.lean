import ServiceWiring.Proofs.Text.SnakeCase
import ServiceWiring.Text.Identifier

/-! Identifiers in snake case. Lower case keeps letters letters, with one exception, and underscores at
the beginning are lost, so that an identifier stays one only if a letter comes behind them. -/
namespace ServiceWiring.Text

/-- Some interval goes on from the first code point to the last, the intervals being in order. -/
private def spans : List (Nat × Nat) → Nat → Nat → Bool
  | [], _, _ => false
  | i :: rest, first, last =>
    match Nat.ble last i.2 with
    | true => Nat.ble i.1 first
    | false => spans rest first last

private theorem inIntervals_of_spans {intervals : List (Nat × Nat)} {first last n : Nat}
    (h : spans intervals first last = true) (hfirst : first ≤ n) (hlast : n ≤ last) :
    inIntervals intervals n = true := by
  induction intervals with
  | nil => cases h
  | cons i rest ih =>
    rw [inIntervals, List.any_cons]
    rw [spans] at h
    split at h
    · next hi =>
      have hbegin := Nat.le_of_ble_eq_true h
      have hend := Nat.le_of_ble_eq_true hi
      have hmem : (decide (i.1 ≤ n) && decide (n ≤ i.2)) = true := by
        simp only [Bool.and_eq_true, decide_eq_true_eq]
        omega
      rw [hmem, Bool.true_or]
    · rw [← inIntervals, ih h, Bool.or_true]

/-- The code points of a stride, one by one. -/
private def Stride.codes (s : Stride) : List Nat :=
  (List.range ((s.last - s.first) / s.step + 1)).map fun k => s.first + s.step * k

private theorem Stride.mem_codes {s : Stride} {n : Nat} (h : s.contains n = true) : n ∈ s.codes := by
  simp only [Stride.contains, Bool.and_eq_true, decide_eq_true_eq, beq_iff_eq] at h
  obtain ⟨⟨hfirst, hlast⟩, hstep⟩ := h
  have hn := Nat.div_add_mod (n - s.first) s.step
  have hle : (n - s.first) / s.step ≤ (s.last - s.first) / s.step := Nat.div_le_div_right (by omega)
  refine List.mem_map.mpr ⟨(n - s.first) / s.step, List.mem_range.mpr (by omega), ?_⟩
  omega

/-- Letters, those of ASCII included. -/
private def letterIntervals : List (Nat × Nat) := (0x41, 0x5a) :: (0x61, 0x7a) :: alphabeticIntervals

private theorem alphabetic_lowering : (loweringStrides.all fun entry =>
    spans alphabeticIntervals entry.1.first entry.1.last ||
      entry.1.codes.all fun n => spans alphabeticIntervals n n) = true := by decide +kernel

private theorem alphabetic_lowered : (loweringStrides.all fun entry =>
    spans letterIntervals (entry.1.first + entry.2).toNat (entry.1.last + entry.2).toNat) =
      true := by decide +kernel

private theorem alphabetic_ascii :
    ∀ n < 0x80, (0x41 ≤ n ∧ n ≤ 0x5a) ∨ (0x61 ≤ n ∧ n ≤ 0x7a) → (Char.ofNat n).isAlpha = true := by
  decide

private theorem toLower_ascii : ∀ n < 0x80, (Char.ofNat n).toLower.toNat < 0x80 ∧
    (Char.ofNat n).toLower.isAlpha = (Char.ofNat n).isAlpha ∧
    (Char.ofNat n).toLower.isDigit = (Char.ofNat n).isDigit := by decide

private theorem alphabetic_bounds : ∀ i ∈ alphabeticIntervals,
    0x80 ≤ i.1 ∧ (i.2 < 0xd800 ∨ 0xdfff < i.1 ∧ i.2 < 0x110000) := by decide +kernel

private theorem numeric_beyond_ascii : ∀ i ∈ numericIntervals, 0x80 ≤ i.1 := by decide +kernel

private theorem inIntervals_ascii {intervals : List (Nat × Nat)}
    (h : ∀ i ∈ intervals, 0x80 ≤ i.1) {n : Nat} (hn : n < 0x80) :
    inIntervals intervals n = false := by
  rw [inIntervals, List.any_eq_false]
  intro i hi
  have := h i hi
  simp only [Bool.and_eq_true, decide_eq_true_eq]
  omega

theorem isAlphabetic_of_ascii {c : Char} (h : c.toNat < 0x80) : isAlphabetic c = c.isAlpha := by
  rw [isAlphabetic, inIntervals_ascii (fun i hi => (alphabetic_bounds i hi).1) h, Bool.or_false]

theorem isNumeric_of_ascii {c : Char} (h : c.toNat < 0x80) : isNumeric c = c.isDigit := by
  rw [isNumeric, inIntervals_ascii numeric_beyond_ascii h, Bool.or_false]

theorem isAlphanumeric_of_ascii {c : Char} (h : c.toNat < 0x80) :
    isAlphanumeric c = (c.isAlpha || c.isDigit) := by
  rw [isAlphanumeric, isAlphabetic_of_ascii h, isNumeric_of_ascii h]

theorem isIdentifierPart_of_ascii {c : Char} (h : c.toNat < 0x80) :
    isIdentifierPart c = (c.isAlpha || c.isDigit || c == '_') := by
  rw [isIdentifierPart, isAlphanumeric_of_ascii h]

theorem isAlphanumeric_of_alphabetic {c : Char} (h : isAlphabetic c = true) :
    isAlphanumeric c = true := by
  rw [isAlphanumeric, h, Bool.true_or]

/-- Sigma and its form at the end of a word are letters, as is the capital I with a dot. The dot itself
is none. -/
private theorem isAlphabetic_special :
    isAlphabetic 'Σ' = true ∧ isAlphabetic 'ς' = true ∧ isAlphabetic '\u0130' = true ∧
      isIdentifierPart '\u0307' = false := by decide +kernel

private theorem toNat_ofNat {n : Nat} (h : n < 0xd800 ∨ 0xdfff < n ∧ n < 0x110000) :
    (Char.ofNat n).toNat = n := by
  have hn : n.isValidChar := h
  rw [Char.ofNat, dif_pos hn]
  rfl

/-- The code points of letters are characters. -/
private theorem isAlphabetic_ofNat {n : Nat} (h : inIntervals letterIntervals n = true) :
    isAlphabetic (Char.ofNat n) = true := by
  rw [inIntervals, letterIntervals, List.any_cons, List.any_cons, Bool.or_eq_true,
    Bool.or_eq_true] at h
  simp only [Bool.and_eq_true, decide_eq_true_eq] at h
  rw [isAlphabetic, Bool.or_eq_true]
  rcases h with hupper | hlower | hother
  · exact .inl (alphabetic_ascii n (by omega) (.inl hupper))
  · exact .inl (alphabetic_ascii n (by omega) (.inr hlower))
  · right
    obtain ⟨i, hi, hn⟩ := List.any_eq_true.mp hother
    have hvalid := (alphabetic_bounds i hi).2
    simp only [Bool.and_eq_true, decide_eq_true_eq] at hn
    rw [toNat_ofNat (by omega)]
    exact hother

/-- What has a lower case of its own is a letter, and so is that lower case. -/
private theorem isAlphabetic_of_lowering {c : Char} {entry : Stride × Int}
    (hentry : entry ∈ loweringStrides) (hc : entry.1.contains c.toNat = true) :
    isAlphabetic c = true ∧ isAlphabetic (Char.ofNat (c.toNat + entry.2).toNat) = true := by
  have hcode := hc
  simp only [Stride.contains, Bool.and_eq_true, decide_eq_true_eq] at hcode
  obtain ⟨⟨hfirst, hlast⟩, -⟩ := hcode
  constructor
  · rw [isAlphabetic, Bool.or_eq_true]
    right
    have hsource := List.all_eq_true.mp alphabetic_lowering entry hentry
    rcases (Bool.or_eq_true _ _).mp hsource with hspans | hcodes
    · exact inIntervals_of_spans hspans hfirst hlast
    · have hspans := List.all_eq_true.mp hcodes c.toNat (Stride.mem_codes hc)
      exact inIntervals_of_spans hspans (Nat.le_refl _) (Nat.le_refl _)
  · have hspans := List.all_eq_true.mp alphabetic_lowered entry hentry
    exact isAlphabetic_ofNat (inIntervals_of_spans hspans (by omega) (by omega))

/-- A letter or digit has one for its lower case, unless it is a capital I with a dot. Letters stay
letters and digits stay digits. -/
theorem exists_lowerChar {c : Char} (hc : isAlphanumeric c = true) (hne : c ≠ '\u0130') :
    ∃ d, lowerChar c = [d] ∧ isAlphanumeric d = true ∧ isAlphabetic d = isAlphabetic c := by
  rw [lowerChar, if_neg hne]
  split
  · next hascii =>
    have hlower := toLower_ascii c.toNat hascii
    rw [Char.ofNat_toNat] at hlower
    obtain ⟨hsmall, halpha, hdigit⟩ := hlower
    have hletter : isAlphabetic c.toLower = isAlphabetic c := by
      rw [isAlphabetic_of_ascii hsmall, isAlphabetic_of_ascii hascii, halpha]
    refine ⟨c.toLower, rfl, ?_, hletter⟩
    rw [isAlphanumeric, hletter, isNumeric_of_ascii hsmall, hdigit, ← isNumeric_of_ascii hascii]
    exact hc
  · split
    · next stride distance hfind =>
      have hcontains := List.find?_some hfind
      obtain ⟨hletter, hlower⟩ :=
        isAlphabetic_of_lowering (List.mem_of_find?_eq_some hfind) hcontains
      refine ⟨_, rfl, ?_, hlower.trans hletter.symm⟩
      rw [isAlphanumeric, hlower, Bool.true_or]
    · exact ⟨c, rfl, hc, rfl⟩

theorem mem_lowerChar {c d : Char} (hc : isAlphanumeric c = true) (hd : d ∈ lowerChar c) :
    isAlphanumeric d = true ∨ c = '\u0130' ∧ d = '\u0307' := by
  by_cases hne : c = '\u0130'
  · subst hne
    have hlower : lowerChar '\u0130' = ['i', '\u0307'] := by decide
    rw [hlower] at hd
    rcases List.mem_cons.mp hd with rfl | hd
    · exact .inl ((isAlphanumeric_of_ascii (by decide)).trans (by decide))
    · exact .inr ⟨rfl, List.mem_singleton.mp hd⟩
  · obtain ⟨e, hlower, he, -⟩ := exists_lowerChar hc hne
    rw [hlower] at hd
    exact .inl (List.mem_singleton.mp hd ▸ he)

theorem isAlphanumeric_of_part {c : Char} (hc : isIdentifierPart c = true) :
    isAlphanumeric c = true ↔ c ≠ '_' := by
  have hmark : isAlphanumeric '_' = false :=
    (isAlphanumeric_of_ascii (by decide)).trans (by decide)
  constructor
  · rintro h rfl
    rw [hmark] at h
    cases h
  · intro hne
    simpa [isIdentifierPart, hne] using hc

theorem isIdentifierStart_of_alphanumeric {c : Char} (hc : isAlphanumeric c = true) :
    isIdentifierStart c = isAlphabetic c := by
  have hpart : isIdentifierPart c = true := by simp [isIdentifierPart, hc]
  have hne : c ≠ '_' := (isAlphanumeric_of_part hpart).mp hc
  simp [isIdentifierStart, hne]

/-- Every character of an identifier is a letter, a digit or an underscore. -/
theorem isIdentifierPart_of_mem {cs : List Char} (h : isIdentifierChars cs = true) {c : Char}
    (hc : c ∈ cs) : isIdentifierPart c = true := by
  cases cs with
  | nil => cases hc
  | cons first rest =>
    rw [isIdentifierChars, Bool.and_eq_true] at h
    rcases List.mem_cons.mp hc with rfl | hc
    · have hstart := h.1
      rw [isIdentifierStart, Bool.or_eq_true] at hstart
      rw [isIdentifierPart, isAlphanumeric, Bool.or_eq_true, Bool.or_eq_true]
      exact hstart.imp_left .inl
    · exact List.all_eq_true.mp h.2 c hc

namespace SnakeCase

/-- The lower case of a capital I with a dot is an i and a dot, which belongs to no identifier. -/
theorem dot_mem_lowerWord {word : List Char} (h : '\u0130' ∈ word) : '\u0307' ∈ lowerWord word := by
  have hdot : '\u0307' ∈ lowerChar '\u0130' := by decide
  fun_induction lowerWord word with
  | case1 => cases h
  | case2 => cases List.mem_singleton.mp h
  | case3 c _ =>
    obtain rfl := List.mem_singleton.mp h
    exact hdot
  | case4 c cs _ ih =>
    rcases List.mem_cons.mp h with rfl | h
    · exact List.mem_append_left _ hdot
    · exact List.mem_append_right _ (ih h)

/-- A word in lower case begins with a letter if it did before. -/
theorem exists_lowerWord_cons {c : Char} (hc : isAlphanumeric c = true) (hne : c ≠ '\u0130')
    (cs : List Char) : ∃ d ds, lowerWord (c :: cs) = d :: ds ∧ isAlphanumeric d = true ∧
      isAlphabetic d = isAlphabetic c := by
  obtain ⟨d, hlower, hd, hletter⟩ := exists_lowerChar hc hne
  cases cs with
  | nil =>
    by_cases hsigma : c = 'Σ'
    · subst hsigma
      obtain ⟨hcapital, hfinal, -⟩ := isAlphabetic_special
      exact ⟨'ς', [], rfl, isAlphanumeric_of_alphabetic hfinal, hfinal.trans hcapital.symm⟩
    · exact ⟨d, [], by rw [lowerWord, if_neg hsigma, hlower], hd, hletter⟩
  | cons next rest =>
    refine ⟨d, lowerWord (next :: rest), ?_, hd, hletter⟩
    rw [lowerWord, hlower, List.singleton_append]
    simp

theorem toList_convert (s : String) :
    (convert s).toList = unpieces '_' ((words s.toList).map lowerWord) :=
  String.toList_ofList

theorem dot_mem_convert {s : String} (h : '\u0130' ∈ s.toList) : '\u0307' ∈ (convert s).toList := by
  have hwords : '\u0130' ∈ (words s.toList).flatten := by
    rw [flatten_words]
    obtain ⟨-, -, hletter, -⟩ := isAlphabetic_special
    exact List.mem_filter.mpr ⟨h, isAlphanumeric_of_alphabetic hletter⟩
  obtain ⟨word, hword, hdot⟩ := List.mem_flatten.mp hwords
  rw [toList_convert]
  exact mem_unpieces_of_mem (List.mem_map_of_mem hword) (dot_mem_lowerWord hdot)

/-- What a text has in snake case is made of letters, digits, underscores, and the dots of capital
I. -/
theorem mem_convert {s : String} {d : Char} (hd : d ∈ (convert s).toList) :
    isIdentifierPart d = true ∨ '\u0130' ∈ s.toList ∧ d = '\u0307' := by
  rw [toList_convert] at hd
  rw [isIdentifierPart, Bool.or_eq_true, beq_iff_eq]
  rcases mem_unpieces hd with hd | ⟨part, hpart, hd⟩
  · exact .inl (.inr hd)
  · obtain ⟨word, hword, rfl⟩ := List.mem_map.mp hpart
    rcases mem_of_mem_lowerWord hd with rfl | ⟨c, hc, hd⟩
    · exact .inl (.inl (isAlphanumeric_of_alphabetic isAlphabetic_special.2.1))
    · obtain ⟨hmem, hletter⟩ := mem_of_mem_words hword hc
      rcases mem_lowerChar hletter hd with hpart | ⟨rfl, hdot⟩
      · exact .inl (.inl hpart)
      · exact .inr ⟨hmem, hdot⟩

theorem not_mem_convert {d : Char} (h : isIdentifierPart d = false) (hne : d ≠ '\u0307')
    (s : String) : d ∉ (convert s).toList := by
  intro hd
  rcases mem_convert hd with hpart | ⟨-, hdot⟩
  · rw [h] at hpart
    cases hpart
  · exact hne hdot

/-- A text in snake case is one line. -/
theorem newline_not_mem_convert (s : String) : '\n' ∉ (convert s).toList :=
  not_mem_convert ((isIdentifierPart_of_ascii (by decide)).trans (by decide)) (by decide) s

/-- A text in snake case begins with a letter exactly if the first letter or digit is a letter. -/
theorem head?_convert {s : String} (hdot : '\u0130' ∉ s.toList) :
    match s.toList.find? isAlphanumeric with
    | none => (convert s).toList = []
    | some c => ∃ d ds, (convert s).toList = d :: ds ∧ isAlphanumeric d = true ∧
        isAlphabetic d = isAlphabetic c := by
  rw [← List.head?_filter, ← flatten_words, toList_convert]
  cases hcut : words s.toList with
  | nil => rfl
  | cons word rest =>
    have hmem : word ∈ words s.toList := hcut ▸ List.mem_cons_self
    obtain ⟨c, cs, rfl⟩ := List.exists_cons_of_ne_nil fun e => nil_not_mem_words s.toList (e ▸ hmem)
    obtain ⟨hs, hc⟩ := mem_of_mem_words hmem (List.mem_cons_self (a := c))
    have hne : c ≠ '\u0130' := fun e => hdot (e ▸ hs)
    obtain ⟨d, ds, hlower, hd, hletter⟩ := exists_lowerWord_cons hc hne cs
    have hhead : (unpieces '_' (lowerWord (c :: cs) :: rest.map lowerWord)).head? = some d := by
      rw [head?_unpieces (by simp [hlower]), hlower, List.head?_cons]
    obtain ⟨tail, htail⟩ := List.head?_eq_some_iff.mp hhead
    exact ⟨d, tail, htail, hd, hletter⟩

/-- The first character of a name that is no underscore is a letter, and no character is a capital I
with a dot. -/
def Lasting (s : String) : Prop :=
  (s.toList.find? (· ≠ '_')).any isAlphabetic = true ∧ '\u0130' ∉ s.toList

instance (s : String) : Decidable (Lasting s) := inferInstanceAs (Decidable (_ ∧ _))

/-- A name of letters, digits and underscores is an identifier in snake case exactly if it is
lasting. -/
theorem isIdentifier_convert_iff {s : String} (hs : ∀ c ∈ s.toList, isIdentifierPart c = true) :
    isIdentifier (convert s) = true ↔ Lasting s := by
  have hfirst : s.toList.find? isAlphanumeric = s.toList.find? (· ≠ '_') := by
    rw [← List.head?_filter, ← List.head?_filter]
    congr 1
    refine List.filter_congr fun c hc => ?_
    rw [Bool.eq_iff_iff, isAlphanumeric_of_part (hs c hc), decide_eq_true_eq]
  rw [Lasting, isIdentifier, ← hfirst]
  by_cases hdot : '\u0130' ∈ s.toList
  · have hpart : isIdentifierChars (convert s).toList = false := by
      rw [Bool.eq_false_iff]
      intro h
      obtain ⟨-, -, -, hmark⟩ := isAlphabetic_special
      rw [isIdentifierPart_of_mem h (dot_mem_convert hdot)] at hmark
      cases hmark
    simp [hpart, hdot]
  · have hhead := head?_convert hdot
    cases hfind : s.toList.find? isAlphanumeric with
    | none =>
      rw [hfind] at hhead
      simp [hhead, isIdentifierChars]
    | some c =>
      rw [hfind] at hhead
      obtain ⟨d, ds, hconvert, hd, hletter⟩ := hhead
      have hparts : ds.all isIdentifierPart = true := List.all_eq_true.mpr fun e he =>
        (mem_convert (hconvert ▸ List.mem_cons_of_mem d he)).resolve_right fun h => hdot h.1
      rw [hconvert, isIdentifierChars, hparts, isIdentifierStart_of_alphanumeric hd, hletter]
      simp [hdot]

end SnakeCase

end ServiceWiring.Text
