import ServiceWiring.Proofs.Json.Scalar

/-! JSON text of whole values. What is laid out over lines is read back, for every value that JSON has a
notation for. -/
namespace ServiceWiring.Json
open ServiceWiring.Text

/-- JSON has a notation for the value, and for all values in it. -/
inductive Notated : Value → Prop where
  | null : Notated .null
  | bool (b : Bool) : Notated (.bool b)
  | integer (n : Int) : Notated (.integer n)
  | text (s : String) : Notated (.text s)
  | list {items : List Value} : (∀ v ∈ items, Notated v) → Notated (.list items)
  | record {fields : List (String × Value)} : (∀ field ∈ fields, Notated field.2) →
      Notated (.record fields)

section Blanks

theorem skipBlank_newLine (depth : Nat) (cs : List Char) :
    skipBlank (newLine depth ++ cs) = skipBlank cs := by
  refine List.dropWhile_append_of_pos fun c hc => ?_
  rcases List.mem_cons.mp hc with rfl | hc
  · rfl
  · rw [List.eq_of_mem_replicate hc]
    rfl

theorem skipBlank_of_visible {c : Char} {cs : List Char} (h : isBlank c = false) :
    skipBlank (c :: cs) = c :: cs := by
  simp [skipBlank, h]

theorem readValue_congr {cs ds : List Char} (fuel : Nat) (h : skipBlank cs = skipBlank ds) :
    readValue fuel cs = readValue fuel ds := by
  cases fuel with
  | zero => rfl
  | succ fuel => rw [readValue, readValue, h]

theorem readValue_newLine (fuel depth : Nat) (cs : List Char) :
    readValue fuel (newLine depth ++ cs) = readValue fuel cs :=
  readValue_congr fuel (skipBlank_newLine depth cs)

theorem ends_newLine (depth : Nat) (cs : List Char) : Ends (newLine depth ++ cs) := by
  intro c hc
  exact .inr (Option.some.inj hc).symm

theorem ends_comma (cs : List Char) : Ends (',' :: cs) := by
  intro c hc
  exact .inl (Option.some.inj hc).symm

/-- What an integer begins with is nothing else in JSON. -/
theorem numeral_ne {c d : Char} (hc : c = '-' ∨ c.isDigit = true)
    (hd : ¬(d = '-' ∨ d.isDigit = true)) : c ≠ d := fun e => hd (e ▸ hc)

theorem isBlank_numeral {c : Char} (hc : c = '-' ∨ c.isDigit = true) : isBlank c = false := by
  have hspace : c ≠ ' ' := numeral_ne hc (by decide)
  have hfeed : c ≠ '\n' := numeral_ne hc (by decide)
  have htab : c ≠ '\t' := numeral_ne hc (by decide)
  have hreturn : c ≠ '\r' := numeral_ne hc (by decide)
  simp [isBlank, hspace, hfeed, htab, hreturn]

/-- The text of a value begins with something to see, that does not close a list. -/
theorem exists_prettyChars {v : Value} (depth : Nat) (h : Notated v) :
    ∃ c cs, prettyChars depth v = c :: cs ∧ isBlank c = false ∧ c ≠ ']' := by
  cases h with
  | null => exact ⟨_, _, rfl, rfl, by decide⟩
  | bool b => cases b <;> exact ⟨_, _, rfl, rfl, by decide⟩
  | text s => exact ⟨_, _, rfl, rfl, by decide⟩
  | @list items => cases items <;> exact ⟨'[', _, rfl, rfl, by decide⟩
  | @record fields => cases fields <;> exact ⟨'{', _, rfl, rfl, by decide⟩
  | integer n =>
    obtain ⟨c, cs, hn, hc⟩ := exists_integerChars n
    exact ⟨c, cs, hn, isBlank_numeral hc, numeral_ne hc (by decide)⟩

end Blanks

/-- The value is read back from its text wherever that stands, by any fuel that the text is shorter
than. -/
def Restored (v : Value) : Prop :=
  ∀ depth fuel rest, (prettyChars depth v).length < fuel → Ends rest →
    readValue fuel (prettyChars depth v ++ rest) = .ok (v, rest)

theorem Restored.intro {v : Value} (h : ∀ depth fuel rest, (prettyChars depth v).length ≤ fuel →
    Ends rest → readValue (fuel + 1) (prettyChars depth v ++ rest) = .ok (v, rest)) :
    Restored v := by
  intro depth fuel rest hfuel hrest
  obtain ⟨fuel, rfl⟩ := Nat.exists_eq_succ_of_ne_zero (Nat.ne_zero_of_lt hfuel)
  exact h depth fuel rest (Nat.le_of_lt_succ hfuel) hrest

section Scalars

theorem restored_null : Restored .null := by
  refine .intro fun depth fuel rest _ _ => ?_
  simp [prettyChars, readValue, skipBlank, isBlank]

theorem restored_bool (b : Bool) : Restored (.bool b) := by
  refine .intro fun depth fuel rest _ _ => ?_
  cases b <;> simp [prettyChars, readValue, skipBlank, isBlank]

theorem restored_text (s : String) : Restored (.text s) := by
  refine .intro fun depth fuel rest _ _ => ?_
  simp [prettyChars, quote, readValue, skipBlank, isBlank, readString_escapes]

theorem readValue_numeral {c : Char} (fuel : Nat) (cs : List Char)
    (hc : c = '-' ∨ c.isDigit = true) :
    readValue (fuel + 1) (c :: cs) = readNumber (c :: cs) := by
  have hnull : c ≠ 'n' := numeral_ne hc (by decide)
  have htrue : c ≠ 't' := numeral_ne hc (by decide)
  have hfalse : c ≠ 'f' := numeral_ne hc (by decide)
  have hquote : c ≠ '"' := numeral_ne hc (by decide)
  have hlist : c ≠ '[' := numeral_ne hc (by decide)
  have hrecord : c ≠ '{' := numeral_ne hc (by decide)
  rw [readValue, skipBlank_of_visible (isBlank_numeral hc)]
  split
  -- every other case is that of a text beginning with what no integer begins with
  case h_8 heq =>
    obtain ⟨rfl, rfl⟩ := List.cons.inj heq
    exact if_pos hc
  all_goals simp_all

theorem restored_integer (n : Int) : Restored (.integer n) := by
  refine .intro fun depth fuel rest _ hrest => ?_
  obtain ⟨c, cs, hn, hc⟩ := exists_integerChars n
  have hread := readNumber_integerChars n hrest
  rw [hn, List.cons_append] at hread
  rw [prettyChars, hn, List.cons_append, readValue_numeral fuel _ hc, hread]

end Scalars

section Lists

/-- A list that is not empty is read by its members. -/
theorem readValue_list {c : Char} {cs rest : List Char} (fuel : Nat)
    (h : skipBlank rest = c :: cs) (hc : c ≠ ']') :
    readValue (fuel + 1) ('[' :: rest) =
      (readItems fuel rest).map fun p => (.list p.1, p.2) := by
  rw [readValue, skipBlank_of_visible (by rfl)]
  simp only [h]
  split
  · next heq => exact absurd (List.cons.inj heq).1 hc
  · next heq => cases heq
  · cases readItems fuel rest <;> rfl

theorem ends_prettyItems (depth outer : Nat) (vs : List Value) (rest : List Char) :
    Ends (prettyItems depth vs ++ (newLine outer ++ rest)) := by
  cases vs with
  | nil => exact ends_newLine outer rest
  | cons v vs => exact ends_comma _

/-- The members of a list are read back, one after another. -/
theorem readItems_prettyItems {v : Value} {vs : List Value} (hv : Restored v)
    (hvs : ∀ w ∈ vs, Restored w) (depth outer fuel : Nat) (rest : List Char)
    (hfuel : (prettyChars depth v).length + (prettyItems depth vs).length + 1 < fuel) :
    readItems fuel (newLine depth ++ (prettyChars depth v ++ (prettyItems depth vs ++
      (newLine outer ++ ']' :: rest)))) = .ok (v :: vs, rest) := by
  induction vs generalizing v fuel with
  | nil =>
    obtain ⟨fuel, rfl⟩ := Nat.exists_eq_succ_of_ne_zero (Nat.ne_zero_of_lt hfuel)
    rw [readItems, readValue_newLine,
      hv depth fuel _ (by omega) (ends_prettyItems depth outer [] _)]
    simp [prettyItems, skipBlank_newLine, skipBlank_of_visible, isBlank]
  | cons w vs ih =>
    obtain ⟨fuel, rfl⟩ := Nat.exists_eq_succ_of_ne_zero (Nat.ne_zero_of_lt hfuel)
    -- the comma and the line feed pay for the step
    have hlength : (prettyItems depth (w :: vs)).length =
        1 + (newLine depth).length + (prettyChars depth w).length +
          (prettyItems depth vs).length := by
      simp [prettyItems]
      omega
    have hpos : 0 < (newLine depth).length := by simp [newLine]
    have hrest := ih (hvs w List.mem_cons_self) (fun u hu => hvs u (List.mem_cons_of_mem w hu)) fuel
      (by omega)
    rw [readItems, readValue_newLine,
      hv depth fuel _ (by omega) (ends_prettyItems depth outer (w :: vs) _)]
    simp [prettyItems, skipBlank_of_visible, isBlank, hrest]

theorem restored_list {items : List Value} (hnotated : ∀ v ∈ items, Notated v)
    (hitems : ∀ v ∈ items, Restored v) : Restored (.list items) := by
  refine .intro fun depth fuel rest hfuel _ => ?_
  cases items with
  | nil => simp [prettyChars, readValue, skipBlank, isBlank]
  | cons v vs =>
    obtain ⟨c, cs, hv, hvisible, hc⟩ :=
      exists_prettyChars (depth + 1) (hnotated v List.mem_cons_self)
    have hlength : (prettyChars depth (.list (v :: vs))).length =
        2 + (newLine (depth + 1)).length + (prettyChars (depth + 1) v).length +
          (prettyItems (depth + 1) vs).length + (newLine depth).length := by
      simp [prettyChars]
      omega
    have hread := readItems_prettyItems (hitems v List.mem_cons_self)
      (fun w hw => hitems w (List.mem_cons_of_mem v hw)) (depth + 1) depth fuel rest (by omega)
    have hskip (after : List Char) : skipBlank (newLine (depth + 1) ++
        (prettyChars (depth + 1) v ++ after)) = c :: (cs ++ after) := by
      rw [skipBlank_newLine, hv, List.cons_append, skipBlank_of_visible hvisible]
    simp only [prettyChars, List.cons_append, List.append_assoc, List.nil_append]
    rw [readValue_list fuel (hskip _) hc, hread]
    rfl

end Lists

section Records

/-- A record that is not empty is read by its fields. -/
theorem readValue_record {c : Char} {cs rest : List Char} (fuel : Nat)
    (h : skipBlank rest = c :: cs) (hc : c ≠ '}') :
    readValue (fuel + 1) ('{' :: rest) =
      (readFields fuel rest).map fun p => (recordOf p.1, p.2) := by
  rw [readValue, skipBlank_of_visible (by rfl)]
  simp only [h]
  split
  · next heq => exact absurd (List.cons.inj heq).1 hc
  · next heq => cases heq
  · cases readFields fuel rest <;> rfl

theorem recordOf_texts (fields : List (String × Value)) :
    recordOf (fields.map fun field => (some field.1, field.2)) = .record fields := by
  have hkeys : (fields.map fun field => (some field.1, field.2)).mapM
      (fun field => field.1.map (·, field.2)) = some fields := by
    induction fields with
    | nil => rfl
    | cons field rest ih => simp [ih]
  rw [recordOf, hkeys]

theorem ends_prettyFields (depth outer : Nat) (fields : List (String × Value)) (rest : List Char) :
    Ends (prettyFields depth fields ++ (newLine outer ++ rest)) := by
  cases fields with
  | nil => exact ends_newLine outer rest
  | cons field fields => exact ends_comma _

/-- One step: a field is read up to the end of its value, and is the last before a brace. -/
theorem readFields_field (key : String) {v : Value} (hv : Restored v) {depth fuel : Nat}
    {after : List Char} (hfuel : (prettyChars depth v).length < fuel) (hafter : Ends after) :
    (∀ rest, skipBlank after = '}' :: rest →
      readFields (fuel + 1) (newLine depth ++ (quote key ++ ':' :: ' ' ::
          (prettyChars depth v ++ after))) = .ok ([(some key, v)], rest)) ∧
    ∀ next fields rest, skipBlank after = ',' :: next →
      readFields fuel next = .ok (fields, rest) →
      readFields (fuel + 1) (newLine depth ++ (quote key ++ ':' :: ' ' ::
          (prettyChars depth v ++ after))) = .ok ((some key, v) :: fields, rest) := by
  have hspace (cs : List Char) : skipBlank (' ' :: cs) = skipBlank cs := rfl
  have hread : readValue fuel (' ' :: (prettyChars depth v ++ after)) = .ok (v, after) :=
    (readValue_congr fuel (hspace _)).trans (hv depth fuel after hfuel hafter)
  rw [readFields, skipBlank_newLine, quote, List.cons_append, skipBlank_of_visible (by rfl)]
  simp only [List.append_assoc, List.cons_append, List.nil_append, readString_escapes]
  rw [skipBlank_of_visible (by rfl)]
  refine ⟨fun rest hclose => ?_, fun next fields rest hcomma hnext => ?_⟩
  · simp only [hread, hclose]
  · simp only [hread, hcomma, hnext]

/-- The fields of a record are read back, one after another. -/
theorem readFields_prettyFields (key : String) {v : Value} {fields : List (String × Value)}
    (hv : Restored v) (hfields : ∀ field ∈ fields, Restored field.2) (depth outer fuel : Nat)
    (rest : List Char)
    (hfuel : (prettyChars depth v).length + (prettyFields depth fields).length + 1 < fuel) :
    readFields fuel (newLine depth ++ (quote key ++ ':' :: ' ' :: (prettyChars depth v ++
      (prettyFields depth fields ++ (newLine outer ++ '}' :: rest))))) =
      .ok (((key, v) :: fields).map fun field => (some field.1, field.2), rest) := by
  induction fields generalizing key v fuel with
  | nil =>
    obtain ⟨fuel, rfl⟩ := Nat.exists_eq_succ_of_ne_zero (Nat.ne_zero_of_lt hfuel)
    refine (readFields_field key hv (by omega) (ends_prettyFields depth outer [] _)).1 rest ?_
    rw [prettyFields, List.nil_append, skipBlank_newLine, skipBlank_of_visible (by rfl)]
  | cons field fields ih =>
    obtain ⟨fuel, rfl⟩ := Nat.exists_eq_succ_of_ne_zero (Nat.ne_zero_of_lt hfuel)
    obtain ⟨next, w⟩ := field
    have hlength : (prettyChars depth w).length + (prettyFields depth fields).length + 2 <
        (prettyFields depth ((next, w) :: fields)).length := by
      simp [prettyFields, newLine, quote]
      omega
    have hw : Restored w := hfields (next, w) List.mem_cons_self
    have hrest := ih next hw (fun field hmem => hfields field (List.mem_cons_of_mem _ hmem)) fuel
      (by omega)
    refine (readFields_field key hv (by omega)
      (ends_prettyFields depth outer ((next, w) :: fields) _)).2 _ _ rest
        (skipBlank_of_visible (by rfl)) ?_
    simpa [prettyFields] using hrest

theorem restored_record {fields : List (String × Value)}
    (hfields : ∀ field ∈ fields, Restored field.2) : Restored (.record fields) := by
  refine .intro fun depth fuel rest hfuel _ => ?_
  cases fields with
  | nil => simp [prettyChars, readValue, skipBlank, isBlank]
  | cons field fields =>
    obtain ⟨key, v⟩ := field
    have hlength : (prettyChars (depth + 1) v).length +
        (prettyFields (depth + 1) fields).length + 2 <
          (prettyChars depth (.record ((key, v) :: fields))).length := by
      simp [prettyChars, newLine, quote]
      omega
    have hv : Restored v := hfields (key, v) List.mem_cons_self
    have hread := readFields_prettyFields key hv
      (fun field hmem => hfields field (List.mem_cons_of_mem _ hmem)) (depth + 1) depth fuel rest
      (by omega)
    have hskip (after : List Char) : skipBlank (newLine (depth + 1) ++ (quote key ++ after)) =
        '"' :: (key.toList.flatMap escape ++ ['"'] ++ after) := by
      rw [skipBlank_newLine, quote, List.cons_append, skipBlank_of_visible (by rfl)]
    simp only [prettyChars, List.cons_append, List.append_assoc, List.nil_append]
    rw [readValue_record fuel (hskip _) (by decide), hread]
    exact congrArg (fun v => Except.ok (v, rest)) (recordOf_texts _)

end Records

theorem Notated.restored {v : Value} (h : Notated v) : Restored v := by
  induction h with
  | null => exact restored_null
  | bool b => exact restored_bool b
  | integer n => exact restored_integer n
  | text s => exact restored_text s
  | list hnotated ih => exact restored_list hnotated ih
  | record _ ih => exact restored_record ih

/-- The text of a value is read as that value, blanks behind it or not. -/
theorem readChars_prettyChars {v : Value} (h : Notated v) {rest : List Char} (hrest : Ends rest)
    (hblank : skipBlank rest = []) : readChars (prettyChars 0 v ++ rest) = .ok v := by
  have hfuel : (prettyChars 0 v).length < (prettyChars 0 v ++ rest).length + 1 := by
    rw [List.length_append]
    omega
  rw [readChars, h.restored 0 _ rest hfuel hrest]
  simp [hblank]

theorem read_pretty {v : Value} (h : Notated v) : read (pretty v) = .ok v := by
  have hread : readChars (prettyChars 0 v ++ []) = .ok v := readChars_prettyChars h nofun rfl
  rw [List.append_nil] at hread
  rwa [read, pretty, String.toList_ofList]

/-- A text may be printed as a line of its own. -/
theorem read_pretty_newline {v : Value} (h : Notated v) : read (pretty v ++ "\n") = .ok v := by
  rw [read, pretty, String.toList_append, String.toList_ofList]
  exact readChars_prettyChars h (ends_newLine 0 []) rfl

end ServiceWiring.Json
