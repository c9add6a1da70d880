import Mathlib.Tactic.SplitIfs
import ServiceWiring.Text.Quoted

/-! Quoted literals are one line of text, and reading a literal gives back the text in it. What stands
between its quotes follows a grammar, by which no quote but the last ends it. -/
namespace ServiceWiring.Text

theorem hexValue_digitChar : ∀ v < 16, hexValue v.digitChar = some v := by decide

theorem digitChar_ne_brace : ∀ v < 16, v.digitChar ≠ '}' := by decide

theorem digitChar_ne_newline : ∀ v < 16, v.digitChar ≠ '\n' := by decide

theorem mem_hexDigits {n : Nat} {c : Char} (h : c ∈ hexDigits n) : ∃ v < 16, c = v.digitChar := by
  induction n using Nat.strongRecOn with
  | ind n ih =>
    unfold hexDigits at h ih
    by_cases hn : n < 16
    · rw [Nat.toDigits_of_lt_base hn] at h
      exact ⟨n, hn, List.mem_singleton.mp h⟩
    · rw [Nat.toDigits_of_base_le (by decide) (by omega)] at h
      rcases List.mem_append.mp h with h | h
      · exact ih (n / 16) (by omega) h
      · exact ⟨n % 16, Nat.mod_lt n (by decide), List.mem_singleton.mp h⟩

theorem hexNumber?_concat {digits : List Char} {n v : Nat} {c : Char}
    (hn : hexNumber? digits = some n) (hv : hexValue c = some v) :
    hexNumber? (digits ++ [c]) = some (16 * n + v) := by
  cases digits with
  | nil => cases hn
  | cons d digits =>
    simp only [hexNumber?, List.cons_append] at hn ⊢
    rw [← List.cons_append, List.foldlM_append, hn]
    simp [hv]

/-- The digits of a number spell it. -/
theorem hexNumber?_hexDigits (n : Nat) : hexNumber? (hexDigits n) = some n := by
  induction n using Nat.strongRecOn with
  | ind n ih =>
    unfold hexDigits at ih ⊢
    by_cases hn : n < 16
    · rw [Nat.toDigits_of_lt_base hn]
      simp [hexNumber?, hexValue_digitChar n hn]
    · have hdigit := hexValue_digitChar (n % 16) (Nat.mod_lt n (by decide))
      rw [Nat.toDigits_of_base_le (by decide) (by omega),
        hexNumber?_concat (ih (n / 16) (by omega)) hdigit, Nat.div_add_mod]

theorem length_hexDigits_le (c : Char) : (hexDigits c.toNat).length ≤ 6 := by
  have hc : c.toNat < 0x110000 := by
    rcases c.valid with h | h
    · exact Nat.lt_trans h (by decide)
    · exact h.2
  rw [hexDigits, Nat.length_toDigits_le_iff (by decide) (by decide)]
  omega

private theorem exists_hexValue_of_foldlM {digits : List Char} {start n : Nat}
    (h : digits.foldlM (fun n c => (hexValue c).map (16 * n + ·)) start = some n) {c : Char}
    (hc : c ∈ digits) : ∃ v, hexValue c = some v := by
  induction digits generalizing start with
  | nil => cases hc
  | cons d digits ih =>
    rw [List.foldlM_cons] at h
    obtain ⟨next, hd, hrest⟩ := Option.bind_eq_some_iff.mp h
    rcases List.mem_cons.mp hc with rfl | hc
    · obtain ⟨v, hv, -⟩ := Option.map_eq_some_iff.mp hd
      exact ⟨v, hv⟩
    · exact ih hrest hc

/-- Only digits spell numbers. -/
theorem exists_hexValue_of_hexNumber? {digits : List Char} {n : Nat}
    (h : hexNumber? digits = some n) {c : Char} (hc : c ∈ digits) : ∃ v, hexValue c = some v := by
  cases digits with
  | nil => cases hc
  | cons d digits => exact exists_hexValue_of_foldlM h hc

theorem charOfCode?_toNat (c : Char) : charOfCode? c.toNat = some c := by
  unfold charOfCode?
  rw [dif_pos (show c.toNat.isValidChar from c.valid)]
  rfl

namespace Quoted

private theorem inside_digit {m v : Nat} (h : v < 16) (rest : List Char) :
    inside (.digits m) (v.digitChar :: rest) = inside (.digits (16 * m + v)) rest := by
  simp [inside, digitChar_ne_brace v h, hexValue_digitChar v h]

/-- The digits of a number are read as that number. -/
private theorem inside_hexDigits (n : Nat) (rest : List Char) :
    inside (.digits 0) (hexDigits n ++ rest) = inside (.digits n) rest := by
  induction n using Nat.strongRecOn generalizing rest with
  | ind n ih =>
    unfold hexDigits at ih ⊢
    by_cases hn : n < 16
    · rw [Nat.toDigits_of_lt_base hn, List.singleton_append, inside_digit hn]
      simp
    · rw [Nat.toDigits_of_base_le (by decide) (by omega), List.append_assoc,
        ih (n / 16) (by omega), List.singleton_append, inside_digit (Nat.mod_lt n (by decide)),
        Nat.div_add_mod]

/-- One step: the escape of a character is read as that character. -/
theorem inside_escape (c : Char) (rest : List Char) :
    inside .plain (escape c ++ rest) = (inside .plain rest).map (c :: ·) := by
  unfold escape
  split_ifs with h0 ht hn hr hq hb hh
  · subst h0; rfl
  · subst ht; rfl
  · subst hn; rfl
  · subst hr; rfl
  · subst hq; rfl
  · subst hb; rfl
  · simp only [List.cons_append, List.append_assoc, List.nil_append]
    rw [inside, if_neg (by decide), if_pos rfl]
    simp only [inside, reduceIte, Char.reduceEq]
    rw [inside_hexDigits]
    simp [inside, charOfCode?_toNat]
  · simp [inside, hq, hb]

theorem inside_escapes (cs : List Char) :
    inside .plain (cs.flatMap escape ++ ['"']) = some cs := by
  induction cs with
  | nil => rfl
  | cons c cs ih => rw [List.flatMap_cons, List.append_assoc, inside_escape, ih, Option.map_some]

theorem decode_encode (s : String) : decode (encode s) = some s := by
  simp [decode, encode, inside_escapes]

/-- No escape has a line feed in it. -/
theorem newline_not_mem_escape (c : Char) : '\n' ∉ escape c := by
  have hdigits : '\n' ∉ hexDigits c.toNat := by
    intro h
    obtain ⟨v, hv, he⟩ := mem_hexDigits h
    exact digitChar_ne_newline v hv he.symm
  unfold escape
  split_ifs with h0 ht hn <;> simp [Ne.symm, *]

theorem newline_not_mem_encode (s : String) : '\n' ∉ (encode s).toList := by
  simp [encode, newline_not_mem_escape]

/-- The letters that follow a backslash, with the characters that they stand for. -/
def escapeLetters : List (Char × Char) :=
  [('0', '\x00'), ('t', '\t'), ('n', '\n'), ('r', '\r'), ('"', '"'), ('\\', '\\')]

/-- What may stand between the quotes of a literal, with the text that it stands for. Quotes,
backslashes and the ends of lines stand nowhere by themselves. -/
inductive StandsFor : List Char → List Char → Prop where
  | nil : StandsFor [] []
  | plain {c : Char} {inner text : List Char} (hc : c ∉ ['"', '\\', '\n', '\r'])
      (h : StandsFor inner text) : StandsFor (c :: inner) (c :: text)
  | letter {l c : Char} {inner text : List Char} (hl : (l, c) ∈ escapeLetters)
      (h : StandsFor inner text) : StandsFor ('\\' :: l :: inner) (c :: text)
  | code {c : Char} {digits inner text : List Char} (hlength : digits.length ≤ 6)
      (hdigits : hexNumber? digits = some c.toNat) (h : StandsFor inner text) :
      StandsFor ('\\' :: 'u' :: '{' :: (digits ++ '}' :: inner)) (c :: text)

theorem StandsFor.escape (c : Char) {inner text : List Char} (h : StandsFor inner text) :
    StandsFor (escape c ++ inner) (c :: text) := by
  unfold Quoted.escape
  split_ifs with h0 ht hn hr hq hb hh
  · exact .letter (by simp [escapeLetters, h0]) h
  · exact .letter (by simp [escapeLetters, ht]) h
  · exact .letter (by simp [escapeLetters, hn]) h
  · exact .letter (by simp [escapeLetters, hr]) h
  · exact .letter (by simp [escapeLetters, hq]) h
  · exact .letter (by simp [escapeLetters, hb]) h
  · simpa using StandsFor.code (length_hexDigits_le c) (hexNumber?_hexDigits c.toNat) h
  · exact .plain (by simp [hn, hr, hq, hb]) h

theorem standsFor_escapes (text : List Char) : StandsFor (text.flatMap Quoted.escape) text := by
  induction text with
  | nil => exact .nil
  | cons c text ih => exact ih.escape c

/-- What follows the first quote that no backslash escapes. -/
def behindQuote? : List Char → Option (List Char)
  | [] => none
  | '"' :: cs => some cs
  | '\\' :: _ :: cs => behindQuote? cs
  | _ :: cs => behindQuote? cs

theorem behindQuote?_append {start : List Char} (hstart : ∀ c ∈ start, c ≠ '"' ∧ c ≠ '\\')
    (rest : List Char) : behindQuote? (start ++ rest) = behindQuote? rest := by
  induction start with
  | nil => rfl
  | cons c start ih =>
    obtain ⟨⟨hquote, hbackslash⟩, hrest⟩ := List.forall_mem_cons.mp hstart
    rw [List.cons_append, behindQuote?, ih hrest]
    · exact hquote
    · rintro _ _ rfl
      exact absurd rfl hbackslash

/-- A literal goes on to its own last quote, whatever stands behind. -/
theorem StandsFor.behindQuote? {inner text : List Char} (h : StandsFor inner text)
    (rest : List Char) : behindQuote? (inner ++ '"' :: rest) = some rest := by
  induction h with
  | nil => rfl
  | @plain c inner text hc h ih =>
    have hstart : ∀ d ∈ [c], d ≠ '"' ∧ d ≠ '\\' := by
      simp_all
    exact (behindQuote?_append hstart (inner ++ '"' :: rest)).trans ih
  | letter hl h ih => exact ih
  | @code c digits inner text hlength hdigits h ih =>
    have hstart : ∀ d ∈ '{' :: (digits ++ ['}']), d ≠ '"' ∧ d ≠ '\\' := by
      have hhex : ∀ d ∈ digits, d ≠ '"' ∧ d ≠ '\\' := by
        intro d hd
        obtain ⟨v, hv⟩ := exists_hexValue_of_hexNumber? hdigits hd
        constructor <;> rintro rfl <;> cases hv
      simp only [List.mem_cons, List.mem_append, List.not_mem_nil, or_false]
      rintro d (rfl | hd | rfl)
      · decide
      · exact hhex d hd
      · decide
    have hskip := behindQuote?_append hstart (inner ++ '"' :: rest)
    simp only [List.cons_append, List.append_assoc, List.nil_append] at hskip ⊢
    exact hskip.trans ih

/-- A literal that stands for a text: one line between quotes, of which only the last ends it. -/
structure IsLiteral (literal text : String) : Prop where
  quoted : ∃ inner, literal.toList = '"' :: (inner ++ ['"']) ∧ StandsFor inner text.toList ∧
    ∀ rest, behindQuote? (inner ++ '"' :: rest) = some rest
  newline_not_mem : '\n' ∉ literal.toList
  decoded : decode literal = some text

theorem isLiteral_encode (s : String) : IsLiteral (encode s) s := by
  have hinner := standsFor_escapes s.toList
  have hquoted : (encode s).toList = '"' :: (s.toList.flatMap escape ++ ['"']) :=
    String.toList_ofList
  exact ⟨⟨_, hquoted, hinner, hinner.behindQuote?⟩, newline_not_mem_encode s, decode_encode s⟩

theorem encode_injective : Function.Injective encode := by
  intro s t h
  have hdecoded := decode_encode s
  rw [h, decode_encode t] at hdecoded
  exact (Option.some.inj hdecoded).symm

end Quoted

end ServiceWiring.Text
