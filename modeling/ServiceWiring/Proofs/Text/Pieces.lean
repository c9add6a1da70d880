import ServiceWiring.Text.Pieces

/-! Pieces of texts: what stands in them, and what putting them together again makes of them. -/
namespace ServiceWiring.Text
variable {separator : Char}

theorem pieces_of_not_mem {cs : List Char} (h : separator ∉ cs) : pieces separator cs = [cs] := by
  induction cs with
  | nil => rfl
  | cons c cs ih =>
    obtain ⟨hc, hcs⟩ := List.ne_and_not_mem_of_not_mem_cons h
    simp [pieces, Ne.symm hc, ih hcs]

/-- The pieces on both sides of a separator are independent. -/
theorem pieces_append_separator (cs rest : List Char) :
    pieces separator (cs ++ separator :: rest) = pieces separator cs ++ pieces separator rest := by
  induction cs with
  | nil => simp [pieces]
  | cons c cs ih =>
    obtain ⟨first, others, hcut⟩ := List.exists_cons_of_ne_nil (pieces_ne_nil separator cs)
    rw [hcut] at ih
    by_cases hc : c = separator <;> simp [pieces, hc, ih, hcut]

theorem pieces_append {part : List Char} (h : separator ∉ part) (rest : List Char) :
    pieces separator (part ++ separator :: rest) = part :: pieces separator rest := by
  rw [pieces_append_separator, pieces_of_not_mem h, List.singleton_append]

theorem lastIndex?_of_not_mem {c : Char} {cs : List Char} (h : c ∉ cs) : lastIndex? c cs = none := by
  rw [lastIndex?, Option.map_eq_none_iff, List.findIdx?_eq_none_iff]
  intro d hd
  rw [beq_eq_false_iff_ne]
  rintro rfl
  exact h (List.mem_reverse.mp hd)

theorem lastIndex?_append {c : Char} (before : List Char) {after : List Char} (h : c ∉ after) :
    lastIndex? c (before ++ c :: after) = some before.length := by
  have hafter : ∀ d ∈ after.reverse, (d == c) = false := by
    intro d hd
    rw [beq_eq_false_iff_ne]
    rintro rfl
    exact h (List.mem_reverse.mp hd)
  have hfound : (after.reverse ++ c :: before.reverse).findIdx? (· == c) = some after.length := by
    rw [List.findIdx?_append, List.findIdx?_eq_none_iff.mpr hafter]
    simp [List.findIdx?_cons]
  rw [lastIndex?]
  simp only [List.reverse_append, List.reverse_cons, List.append_assoc, List.singleton_append,
    hfound, Option.map_some, List.length_append, List.length_cons, Option.some.injEq]
  omega

/-- A character that stands in a text stands there for a last time. -/
theorem exists_last_of_mem {c : Char} {cs : List Char} (h : c ∈ cs) :
    ∃ before after, cs = before ++ c :: after ∧ c ∉ after := by
  obtain ⟨before, after, hcs, hbefore⟩ := List.eq_append_cons_of_mem (List.mem_reverse.mpr h)
  refine ⟨after.reverse, before.reverse, ?_, fun hmem => hbefore (List.mem_reverse.mp hmem)⟩
  simpa using congrArg List.reverse hcs

/-- The last piece is what comes behind the last separator, or else the whole text. -/
theorem getLastD_pieces_eq_iff {cs last : List Char} (h : separator ∉ last) :
    (pieces separator cs).getLastD [] = last ↔
      cs = last ∨ ∃ lead, cs = lead ++ separator :: last := by
  have hbehind {after : List Char} (hafter : separator ∉ after) (lead : List Char) :
      (pieces separator (lead ++ separator :: after)).getLastD [] = after := by
    rw [pieces_append_separator, pieces_of_not_mem hafter, List.getLastD_concat]
  have halone {text : List Char} (htext : separator ∉ text) :
      (pieces separator text).getLastD [] = text := by
    rw [pieces_of_not_mem htext]
    rfl
  constructor
  · rintro rfl
    by_cases hcs : separator ∈ cs
    · obtain ⟨lead, after, rfl, hafter⟩ := exists_last_of_mem hcs
      rw [hbehind hafter]
      exact .inr ⟨lead, rfl⟩
    · rw [halone hcs]
      exact .inl rfl
  · rintro (rfl | ⟨lead, rfl⟩)
    · exact halone h
    · exact hbehind h lead

/-- A piece is made of characters of the text, and has no separator. -/
theorem mem_of_mem_pieces {cs piece : List Char} {d : Char} (hp : piece ∈ pieces separator cs)
    (hd : d ∈ piece) : d ∈ cs ∧ d ≠ separator := by
  induction cs generalizing piece with
  | nil => simp_all [pieces]
  | cons c cs ih =>
    obtain ⟨first, rest, hcut⟩ := List.exists_cons_of_ne_nil (pieces_ne_nil separator cs)
    have hkept : ∀ p ∈ pieces separator cs, d ∈ p → d ∈ c :: cs ∧ d ≠ separator :=
      fun p hp hd => (ih hp hd).imp_left (List.mem_cons_of_mem c)
    rw [hcut] at hkept
    simp only [pieces, hcut] at hp
    split at hp
    · rcases List.mem_cons.mp hp with rfl | hp
      · cases hd
      · exact hkept piece hp hd
    · next hc =>
      rcases List.mem_cons.mp hp with rfl | hp
      · rcases List.mem_cons.mp hd with rfl | hd
        · exact ⟨List.mem_cons_self, hc⟩
        · exact hkept first List.mem_cons_self hd
      · exact hkept piece (List.mem_cons_of_mem first hp) hd

theorem unpieces_cons (part : List Char) {parts : List (List Char)} (h : parts ≠ []) :
    unpieces separator (part :: parts) = part ++ separator :: unpieces separator parts := by
  obtain ⟨next, rest, rfl⟩ := List.exists_cons_of_ne_nil h
  simp [unpieces, List.intercalate]

theorem unpieces_concat {parts : List (List Char)} (h : parts ≠ []) (last : List Char) :
    unpieces separator (parts ++ [last]) = unpieces separator parts ++ separator :: last := by
  induction parts with
  | nil => exact absurd rfl h
  | cons part parts ih =>
    rw [List.cons_append, unpieces_cons part (by simp)]
    cases parts with
    | nil => simp [unpieces, List.intercalate]
    | cons next rest =>
      rw [ih (List.cons_ne_nil next rest), unpieces_cons part (List.cons_ne_nil next rest)]
      simp

/-- Parts without separators are found again. -/
theorem pieces_unpieces {parts : List (List Char)} (h : parts ≠ [])
    (hparts : ∀ part ∈ parts, separator ∉ part) :
    pieces separator (unpieces separator parts) = parts := by
  induction parts with
  | nil => exact absurd rfl h
  | cons part rest ih =>
    have hpart := hparts part List.mem_cons_self
    cases rest with
    | nil => simpa [unpieces] using pieces_of_not_mem hpart
    | cons next rest =>
      have hrest :=
        ih (List.cons_ne_nil next rest) fun p hp => hparts p (List.mem_cons_of_mem part hp)
      rw [unpieces_cons part (List.cons_ne_nil next rest), pieces_append hpart, hrest]

theorem unpieces_ne_nil {parts : List (List Char)} (h : parts ≠ []) (hparts : [] ∉ parts) :
    unpieces separator parts ≠ [] := by
  obtain ⟨part, rest, rfl⟩ := List.exists_cons_of_ne_nil h
  have hpart : part ≠ [] := fun e => hparts (e ▸ List.mem_cons_self)
  cases rest with
  | nil => simpa [unpieces] using hpart
  | cons next rest => simp [unpieces_cons part, hpart]

theorem mem_unpieces {d : Char} {parts : List (List Char)}
    (hd : d ∈ unpieces separator parts) : d = separator ∨ ∃ part ∈ parts, d ∈ part := by
  induction parts with
  | nil => simp [unpieces] at hd
  | cons part rest ih =>
    cases rest with
    | nil => exact .inr ⟨part, List.mem_cons_self, by simpa [unpieces] using hd⟩
    | cons next rest =>
      rw [unpieces_cons part (List.cons_ne_nil next rest)] at hd
      rcases List.mem_append.mp hd with hd | hd
      · exact .inr ⟨part, List.mem_cons_self, hd⟩
      · rcases List.mem_cons.mp hd with hd | hd
        · exact .inl hd
        · rcases ih hd with hd | ⟨p, hp, hd⟩
          · exact .inl hd
          · exact .inr ⟨p, List.mem_cons_of_mem part hp, hd⟩

theorem mem_unpieces_of_mem {d : Char} {parts : List (List Char)} {part : List Char}
    (hpart : part ∈ parts) (hd : d ∈ part) : d ∈ unpieces separator parts := by
  induction parts with
  | nil => cases hpart
  | cons first rest ih =>
    cases rest with
    | nil =>
      obtain rfl := List.mem_singleton.mp hpart
      simpa [unpieces] using hd
    | cons next rest =>
      rw [unpieces_cons first (List.cons_ne_nil next rest)]
      rcases List.mem_cons.mp hpart with rfl | hpart
      · exact List.mem_append_left _ hd
      · exact List.mem_append_right _ (List.mem_cons_of_mem separator (ih hpart))

/-- What is put together begins as its first part does. -/
theorem head?_unpieces {part : List Char} (h : part ≠ []) (parts : List (List Char)) :
    (unpieces separator (part :: parts)).head? = part.head? := by
  cases parts with
  | nil => simp [unpieces]
  | cons next rest =>
    obtain ⟨d, ds, rfl⟩ := List.exists_cons_of_ne_nil h
    rw [unpieces_cons (d :: ds) (List.cons_ne_nil next rest)]
    rfl

theorem toList_replaceChar (c : Char) (replacement s : String) :
    (replaceChar c replacement s).toList =
      s.toList.flatMap fun d => if d = c then replacement.toList else [d] :=
  String.toList_ofList

theorem replaceChar_append (c : Char) (replacement s t : String) :
    replaceChar c replacement (s ++ t) =
      replaceChar c replacement s ++ replaceChar c replacement t := by
  apply String.toList_injective
  simp [toList_replaceChar]

theorem replaceChar_self {c : Char} {replacement : String} (h : replacement.toList = [c])
    (s : String) : replaceChar c replacement s = s := by
  apply String.toList_injective
  have hsame : (fun d => if d = c then replacement.toList else [d]) = fun d => [d] := by
    funext d
    split
    · next e => rw [h, e]
    · rfl
  rw [toList_replaceChar, hsame, List.flatMap_singleton']

private theorem eq_of_flatMap_replaced {c mark : Char} {rest cs ds : List Char} (hcs : mark ∉ cs)
    (hds : mark ∉ ds) (h : (cs.flatMap fun d => if d = c then mark :: rest else [d]) =
      ds.flatMap fun d => if d = c then mark :: rest else [d]) : cs = ds := by
  induction cs generalizing ds with
  | nil =>
    cases ds with
    | nil => rfl
    | cons d ds => by_cases hd : d = c <;> simp [hd] at h
  | cons a cs ih =>
    obtain ⟨ha, hcs⟩ := List.ne_and_not_mem_of_not_mem_cons hcs
    cases ds with
    | nil => by_cases ha : a = c <;> simp [ha] at h
    | cons d ds =>
      obtain ⟨hd, hds⟩ := List.ne_and_not_mem_of_not_mem_cons hds
      by_cases hac : a = c <;> by_cases hdc : d = c
      · simp only [List.flatMap_cons, hac, hdc, if_true, List.append_cancel_left_eq] at h
        rw [hac, hdc, ih hcs hds h]
      · simp [hac, hdc, hd] at h
      · simp [hac, hdc, Ne.symm ha] at h
      · simp only [List.flatMap_cons, hac, hdc, if_false, List.cons_append, List.nil_append,
          List.cons.injEq] at h
        rw [h.1, ih hcs hds h.2]

/-- Replacing can be undone in texts without the mark that every replacement begins with. -/
theorem replaceChar_injective {c mark : Char} {replacement s t : String}
    (hr : replacement.toList.head? = some mark) (hs : mark ∉ s.toList) (ht : mark ∉ t.toList)
    (h : replaceChar c replacement s = replaceChar c replacement t) : s = t := by
  obtain ⟨rest, hrest⟩ := List.head?_eq_some_iff.mp hr
  have hlists := congrArg String.toList h
  simp only [toList_replaceChar, hrest] at hlists
  exact String.toList_injective (eq_of_flatMap_replaced hs ht hlists)

end ServiceWiring.Text
