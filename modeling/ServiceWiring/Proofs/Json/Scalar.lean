import Mathlib.Tactic.SplitIfs
import ServiceWiring.Json.Reader
import ServiceWiring.Json.Writer
import ServiceWiring.Proofs.Text.Literal

/-! Strings and integers in JSON text, read back as they were written. -/
namespace ServiceWiring.Json
open ServiceWiring.Text

section Strings
variable {rest after : List Char} {us : List Unit16}

theorem readUnits_short {e c : Char} (he : shortEscape? e = some c)
    (h : readUnits rest = .ok (us, after)) :
    readUnits ('\\' :: e :: rest) = .ok (.char c :: us, after) := by
  have hu : e ≠ 'u' := by
    rintro rfl
    cases he
  rw [readUnits, he, h]
  · rfl
  · exact fun _ _ _ _ _ hne => absurd hne hu

/-- The code of a control character has two digits behind two zeros. -/
theorem hexNumber?_control : ∀ n < 0x20,
    (if n < 0x10 then ['0'] else []) ++ hexDigits n = [(n / 16).digitChar, (n % 16).digitChar] ∧
      hexNumber? ['0', '0', (n / 16).digitChar, (n % 16).digitChar] = some n := by decide

theorem ofCode_toNat (c : Char) : Unit16.ofCode c.toNat = .char c := by
  simp [Unit16.ofCode, charOfCode?_toNat]

theorem readUnits_control {c : Char} (hc : c.toNat < 0x20)
    (h : readUnits rest = .ok (us, after)) :
    readUnits ('\\' :: 'u' :: '0' :: '0' ::
        ((if c.toNat < 0x10 then ['0'] else []) ++ hexDigits c.toNat ++ rest)) =
      .ok (.char c :: us, after) := by
  obtain ⟨hdigits, hnumber⟩ := hexNumber?_control c.toNat hc
  simp only [hdigits, List.cons_append, List.nil_append]
  rw [readUnits, hnumber, h, ← ofCode_toNat]
  rfl

theorem readUnits_plain {c : Char} (hquote : c ≠ '"') (hback : c ≠ '\\') (hc : ¬c.toNat < 0x20)
    (h : readUnits rest = .ok (us, after)) :
    readUnits (c :: rest) = .ok (.char c :: us, after) := by
  rw [readUnits, if_neg hc, h]
  · rfl
  · exact fun hne => absurd hne hquote
  · exact fun hne => absurd hne hback
  · exact fun _ _ _ _ _ hne => absurd hne hback
  · exact fun _ _ hne => absurd hne hback

/-- One step: the escape of a character is read as that character. -/
theorem readUnits_escape (c : Char) (h : readUnits rest = .ok (us, after)) :
    readUnits (escape c ++ rest) = .ok (.char c :: us, after) := by
  unfold escape
  split_ifs with hquote hback hb hf hn hr ht hcontrol hsmall
  · exact readUnits_short (by rw [hquote]; rfl) h
  · exact readUnits_short (by rw [hback]; rfl) h
  · exact readUnits_short (hb ▸ rfl) h
  · exact readUnits_short (hf ▸ rfl) h
  · exact readUnits_short (hn ▸ rfl) h
  · exact readUnits_short (hr ▸ rfl) h
  · exact readUnits_short (ht ▸ rfl) h
  · have hread := readUnits_control hcontrol h
    rwa [if_pos hsmall] at hread
  · have hread := readUnits_control hcontrol h
    rwa [if_neg hsmall] at hread
  · exact readUnits_plain hquote hback hcontrol h

theorem readUnits_escapes (cs rest : List Char) :
    readUnits (cs.flatMap escape ++ '"' :: rest) = .ok (cs.map .char, rest) := by
  induction cs with
  | nil => rfl
  | cons c cs ih =>
    rw [List.flatMap_cons, List.append_assoc]
    exact readUnits_escape c ih

theorem combine_chars (cs : List Char) : Unit16.combine (cs.map .char) = some cs := by
  induction cs with
  | nil => rfl
  | cons c cs ih => simp [Unit16.combine, ih]

/-- A string is read back, whatever stands behind its closing quote. -/
theorem readString_escapes (s : String) (rest : List Char) :
    readString (s.toList.flatMap escape ++ '"' :: rest) = .ok (some s, rest) := by
  simp [readString, readUnits_escapes, combine_chars]

end Strings

section Integers

/-- Nothing follows, or what follows a value in a list or a record. -/
def Ends (rest : List Char) : Prop := ∀ c ∈ rest.head?, c = ',' ∨ c = '\n'

theorem Ends.cases {rest : List Char} (h : Ends rest) :
    rest = [] ∨ ∃ cs, rest = ',' :: cs ∨ rest = '\n' :: cs := by
  cases rest with
  | nil => exact .inl rfl
  | cons c cs =>
    rcases h c rfl with rfl | rfl
    · exact .inr ⟨cs, .inl rfl⟩
    · exact .inr ⟨cs, .inr rfl⟩

theorem readFraction_of_ends {rest : List Char} (h : Ends rest) :
    readFraction rest = .ok (false, rest) := by
  rcases h.cases with rfl | ⟨cs, rfl | rfl⟩
  · rfl
  · rfl
  · rfl

theorem isDigit_of_mem_toDigits {n : Nat} {c : Char} (h : c ∈ Nat.toDigits 10 n) :
    c.isDigit = true :=
  Nat.isDigit_of_mem_toDigits (by decide) (by decide) h

theorem exists_toDigits (n : Nat) : ∃ d ds, Nat.toDigits 10 n = d :: ds ∧ d.isDigit = true := by
  obtain ⟨d, ds, hdigits⟩ := List.exists_cons_of_ne_nil (Nat.toDigits_ne_nil (n := n) (b := 10))
  exact ⟨d, ds, hdigits, isDigit_of_mem_toDigits (hdigits ▸ List.mem_cons_self)⟩

theorem digits_apart {rest : List Char} (n : Nat) (h : Ends rest) :
    (Nat.toDigits 10 n ++ rest).takeWhile Char.isDigit = Nat.toDigits 10 n ∧
      (Nat.toDigits 10 n ++ rest).dropWhile Char.isDigit = rest := by
  have hdigits : ∀ c ∈ Nat.toDigits 10 n, c.isDigit = true := fun c => isDigit_of_mem_toDigits
  have hrest : rest.takeWhile Char.isDigit = [] ∧ rest.dropWhile Char.isDigit = rest := by
    rcases h.cases with rfl | ⟨cs, rfl | rfl⟩ <;> simp
  rw [List.takeWhile_append_of_pos hdigits, List.dropWhile_append_of_pos hdigits, hrest.1, hrest.2,
    List.append_nil]
  exact ⟨rfl, rfl⟩

theorem digitsValue_toDigits (n : Nat) : digitsValue (Nat.toDigits 10 n) = n :=
  Nat.ofDigitChars_toDigits (by decide) (by decide)

/-- Only zero begins with a zero. -/
theorem eq_zero_of_head?_toDigits {n : Nat} (h : (Nat.toDigits 10 n).head? = some '0') : n = 0 := by
  induction n using Nat.strongRecOn with
  | ind n ih =>
    by_cases hn : n < 10
    · rw [Nat.toDigits_of_lt_base hn] at h
      have hone : ∀ m < 10, [m.digitChar].head? = some '0' → m = 0 := by decide
      exact hone n hn h
    · obtain ⟨d, ds, hquotient, -⟩ := exists_toDigits (n / 10)
      rw [Nat.toDigits_of_base_le (by decide) (by omega), hquotient] at h
      have hzero := ih (n / 10) (by omega) (by rw [hquotient]; exact h)
      omega

theorem readMagnitude_toDigits (negative : Bool) (n : Nat) {rest : List Char} (hrest : Ends rest)
    (hsign : negative = true → n ≠ 0) :
    readMagnitude negative (Nat.toDigits 10 n ++ rest) =
      .ok (.integer (if negative then -(n : Int) else n), rest) := by
  obtain ⟨htake, hdrop⟩ := digits_apart n hrest
  have hempty : (Nat.toDigits 10 n).isEmpty = false := by simp [Nat.toDigits_ne_nil]
  have hzero : ¬((Nat.toDigits 10 n).head? = some '0' ∧ 1 < (Nat.toDigits 10 n).length) := by
    rintro ⟨hhead, hlength⟩
    rw [eq_zero_of_head?_toDigits hhead] at hlength
    exact absurd hlength (by decide)
  have hnegative : ¬(negative = true ∧ n = 0) := fun h => hsign h.1 h.2
  unfold readMagnitude
  simp [htake, hdrop, hempty, hzero, readFraction_of_ends hrest, digitsValue_toDigits, hnegative]

theorem exists_integerChars (n : Int) :
    ∃ c cs, integerChars n = c :: cs ∧ (c = '-' ∨ c.isDigit = true) := by
  obtain ⟨d, ds, hdigits, hd⟩ := exists_toDigits n.natAbs
  unfold integerChars
  split
  · exact ⟨'-', _, rfl, .inl rfl⟩
  · exact ⟨d, ds, hdigits, .inr hd⟩

/-- An integer is read back where nothing behind it could belong to it. -/
theorem readNumber_integerChars (n : Int) {rest : List Char} (hrest : Ends rest) :
    readNumber (integerChars n ++ rest) = .ok (.integer n, rest) := by
  unfold integerChars
  split
  · next hn =>
    have hread := readMagnitude_toDigits true n.natAbs hrest fun _ => by omega
    rw [if_pos rfl, show -(n.natAbs : Int) = n by omega] at hread
    exact hread
  · next hn =>
    have hread := readMagnitude_toDigits false n.natAbs hrest nofun
    rw [if_neg Bool.false_ne_true, show (n.natAbs : Int) = n by omega] at hread
    rw [List.nil_append, readNumber, hread]
    intro cs hcs
    obtain ⟨d, ds, hdigits, hd⟩ := exists_toDigits n.natAbs
    rw [hdigits, List.cons_append] at hcs
    rw [(List.cons.inj hcs).1] at hd
    cases hd

end Integers

end ServiceWiring.Json
