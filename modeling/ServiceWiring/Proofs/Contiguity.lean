import ServiceWiring.Proofs.Grouping

/-! Lists by keys. Gathering puts elements of one key side by side, and leaves alone what stands so
already. A list that is put together from parts with keys of their own stands so from the start. -/
namespace ServiceWiring
variable {α β : Type}

/-- Elements of one key stand side by side: between two of them there is no other. -/
def Contiguous (key : β → α) : List β → Prop
  | [] => True
  | b :: rest => rest.Pairwise (fun c d => key d = key b → key c = key b) ∧ Contiguous key rest

theorem contiguous_cons_cons_of_eq {key : β → α} {b c : β} (rest : List β) (h : key b = key c) :
    Contiguous key (b :: c :: rest) ↔ Contiguous key (c :: rest) := by
  refine ⟨And.right, fun hc => ⟨List.pairwise_cons.mpr ⟨fun _ _ _ => h.symm, ?_⟩, hc⟩⟩
  rw [h]
  exact hc.1

theorem contiguous_cons_cons_of_ne {key : β → α} {b c : β} (rest : List β) (h : key b ≠ key c) :
    Contiguous key (b :: c :: rest) ↔
      (∀ d ∈ c :: rest, key d ≠ key b) ∧ Contiguous key (c :: rest) := by
  refine and_congr_left fun _ => ⟨fun hfirst => ?_, fun hother => ?_⟩
  · obtain ⟨hc, -⟩ := List.pairwise_cons.mp hfirst
    rintro d hd e
    rcases List.mem_cons.mp hd with rfl | hd
    · exact h e.symm
    · exact h (hc d hd e).symm
  · exact List.pairwise_of_forall_mem_list fun _ _ d hd e => absurd e (hother d hd)

/-- Elements of a key of their own may stand before any others. -/
theorem contiguous_append {key : β → α} {k : α} {bs cs : List β} (hbs : ∀ b ∈ bs, key b = k)
    (hcs : ∀ c ∈ cs, key c ≠ k) : Contiguous key (bs ++ cs) ↔ Contiguous key cs := by
  induction bs with
  | nil => rfl
  | cons b bs ih =>
    have hb : key b = k := hbs b List.mem_cons_self
    have hbs : ∀ c ∈ bs, key c = k := fun c hc => hbs c (List.mem_cons_of_mem b hc)
    have hfirst : (bs ++ cs).Pairwise fun c d => key d = key b → key c = key b := by
      rw [hb]
      refine List.pairwise_append.mpr ⟨?_, ?_, fun c hc d _ _ => hbs c hc⟩
      · exact List.pairwise_of_forall_mem_list fun c hc d _ _ => hbs c hc
      · exact List.pairwise_of_forall_mem_list fun c _ d hd e => absurd e (hcs d hd)
    rw [List.cons_append, Contiguous, and_iff_right hfirst, ih hbs]

/-- Parts that each have a key of their own stand contiguously. -/
theorem contiguous_flatMap {γ : Type} {key : β → α} {keyOf : γ → α} {part : γ → List β}
    {cs : List γ} (hpart : ∀ c ∈ cs, ∀ b ∈ part c, key b = keyOf c) (hcs : (cs.map keyOf).Nodup) :
    Contiguous key (cs.flatMap part) := by
  induction cs with
  | nil => trivial
  | cons c cs ih =>
    obtain ⟨hc, hcs⟩ := List.nodup_cons.mp hcs
    have hrest : ∀ d ∈ cs, ∀ b ∈ part d, key b = keyOf d :=
      fun d hd => hpart d (List.mem_cons_of_mem c hd)
    rw [List.flatMap_cons, contiguous_append (hpart c List.mem_cons_self)]
    · exact ih hrest hcs
    · intro b hb e
      obtain ⟨d, hd, hb⟩ := List.mem_flatMap.mp hb
      exact hc (List.mem_map.mpr ⟨d, hd, (hrest d hd b hb).symm.trans e⟩)

/-- Some elements stand before all others exactly when taking them out to the front changes
nothing. -/
theorem filter_append_filter_eq_iff (p : β → Bool) (bs : List β) :
    bs.filter p ++ bs.filter (!p ·) = bs ↔ bs.Pairwise fun c d => p d = true → p c = true := by
  constructor
  · intro h
    rw [← h]
    refine List.pairwise_append.mpr ⟨?_, ?_, fun c hc _ _ _ => (List.mem_filter.mp hc).2⟩
    · exact List.pairwise_of_forall_mem_list fun c hc _ _ _ => (List.mem_filter.mp hc).2
    · refine List.pairwise_of_forall_mem_list fun _ _ d hd e => ?_
      simp [e] at hd
  · intro h
    induction bs with
    | nil => rfl
    | cons b rest ih =>
      obtain ⟨hb, hrest⟩ := List.pairwise_cons.mp h
      cases hp : p b with
      | true => simp [hp, ih hrest]
      | false =>
        have hnone : ∀ c ∈ rest, p c = false := by
          intro c hc
          by_contra hpc
          simp [hb c hc (by simpa using hpc)] at hp
        have hempty : rest.filter p = [] := by simpa using hnone
        have hall : rest.filter (!p ·) = rest := by simpa using hnone
        simp [hp, hempty, hall]

section Gathered
variable [BEq α] [LawfulBEq α] {key : β → α}

/-- The elements key by key, the keys in the order of their first elements. -/
def gathered (key : β → α) (bs : List β) : List β :=
  (bs.map key).eraseDups.flatMap fun k => bs.filter (key · == k)

theorem mem_gathered {bs : List β} {b : β} : b ∈ gathered key bs ↔ b ∈ bs := by
  simp only [gathered, List.mem_flatMap, List.mem_eraseDups, List.mem_filter, beq_iff_eq]
  constructor
  · rintro ⟨_, _, hb, _⟩
    exact hb
  · intro hb
    exact ⟨key b, List.mem_map_of_mem hb, hb, rfl⟩

theorem gathered_cons (b : β) (rest : List β) :
    gathered key (b :: rest) =
      b :: (rest.filter (key · == key b) ++ gathered key (rest.filter (!key · == key b))) := by
  have hothers : ∀ k ∈ ((rest.filter (!key · == key b)).map key).eraseDups,
      (b :: rest).filter (key · == k) =
        (rest.filter (!key · == key b)).filter (key · == k) := by
    intro k hk
    obtain ⟨c, hc, rfl⟩ := List.mem_map.mp (List.mem_eraseDups.mp hk)
    have hne : key c ≠ key b := by simpa using (List.mem_filter.mp hc).2
    rw [List.filter_cons_of_neg (by simpa using hne.symm), List.filter_filter]
    refine List.filter_congr fun d _ => ?_
    by_cases hd : key d = key c <;> simp [hd, hne]
  rw [gathered, List.map_cons, List.eraseDups_cons, List.filter_map, List.flatMap_cons,
    List.filter_cons_of_pos (by simp), List.cons_append]
  congr 2
  exact List.flatMap_congr hothers

/-- Taking some elements to the front and gathering the others changes nothing exactly when those
stand in front and the others are gathered. -/
theorem filter_append_gathered_eq_iff (p : β → Bool) (bs : List β) :
    bs.filter p ++ gathered key (bs.filter (!p ·)) = bs ↔
      (bs.Pairwise fun c d => p d = true → p c = true) ∧
        gathered key (bs.filter (!p ·)) = bs.filter (!p ·) := by
  constructor
  · intro h
    have hothers : gathered key (bs.filter (!p ·)) = bs.filter (!p ·) := by
      have hfront : (bs.filter p).filter (!p ·) = [] := by simp
      have hkept : (gathered key (bs.filter (!p ·))).filter (!p ·) =
          gathered key (bs.filter (!p ·)) :=
        List.filter_eq_self.mpr fun b hb => (List.mem_filter.mp (mem_gathered.mp hb)).2
      have hfiltered := congrArg (List.filter (!p ·)) h
      rwa [List.filter_append, hfront, hkept, List.nil_append] at hfiltered
    rw [hothers] at h
    exact ⟨(filter_append_filter_eq_iff p bs).mp h, hothers⟩
  · rintro ⟨hfirst, hothers⟩
    rw [hothers]
    exact (filter_append_filter_eq_iff p bs).mpr hfirst

theorem gathered_eq_iff (bs : List β) : gathered key bs = bs ↔ Contiguous key bs := by
  -- What is left to gather behind the first key is a filtered list, hence induction on the length.
  induction hn : bs.length using Nat.strongRecOn generalizing bs with
  | ind n ih =>
    cases bs with
    | nil => simp [gathered, Contiguous]
    | cons b rest =>
      have hlength : (rest.filter (!key · == key b)).length < n := by
        have := List.length_filter_le (!key · == key b) rest
        simp only [List.length_cons] at hn
        omega
      have hsame : ∀ c ∈ rest.filter (key · == key b), key c = key b :=
        fun c hc => by simpa using (List.mem_filter.mp hc).2
      have hother : ∀ c ∈ rest.filter (!key · == key b), key c ≠ key b :=
        fun c hc => by simpa using (List.mem_filter.mp hc).2
      rw [gathered_cons, List.cons_eq_cons, and_iff_right rfl, filter_append_gathered_eq_iff,
        ih _ hlength _ rfl, Contiguous, ← contiguous_append hsame hother]
      simp only [beq_iff_eq]
      refine and_congr_right fun hfirst => ?_
      rw [(filter_append_filter_eq_iff (key · == key b) rest).mpr (by simpa using hfirst)]

end Gathered

section Parts
variable [BEq α] [LawfulBEq α] {γ : Type} {key : β → α} {keyOf : γ → α} {part : γ → List β}
  {cs : List γ}

/-- Parts have elements of their keys only. -/
theorem filter_flatMap_of_not_mem (hpart : ∀ c ∈ cs, ∀ b ∈ part c, key b = keyOf c) {k : α}
    (hk : k ∉ cs.map keyOf) : (cs.flatMap part).filter (key · == k) = [] := by
  refine List.filter_eq_nil_iff.mpr fun b hb hkey => hk ?_
  obtain ⟨c, hc, hb⟩ := List.mem_flatMap.mp hb
  exact List.mem_map.mpr ⟨c, hc, (hpart c hc b hb).symm.trans (eq_of_beq hkey)⟩

/-- Where each part has its own key, the elements of a key are those of its part. -/
theorem filter_flatMap_of_mem (hpart : ∀ c ∈ cs, ∀ b ∈ part c, key b = keyOf c)
    (hcs : (cs.map keyOf).Nodup) {c : γ} (hc : c ∈ cs) :
    (cs.flatMap part).filter (key · == keyOf c) = part c := by
  induction cs with
  | nil => cases hc
  | cons d cs ih =>
    obtain ⟨hd, hcs⟩ := List.nodup_cons.mp hcs
    have hpartd : ∀ b ∈ part d, key b = keyOf d := hpart d List.mem_cons_self
    have hrest : ∀ c ∈ cs, ∀ b ∈ part c, key b = keyOf c :=
      fun c hc => hpart c (List.mem_cons_of_mem d hc)
    rw [List.flatMap_cons, List.filter_append]
    rcases List.mem_cons.mp hc with rfl | hc
    · have hall : (part c).filter (key · == keyOf c) = part c :=
        List.filter_eq_self.mpr fun b hb => by simpa using hpartd b hb
      rw [hall, filter_flatMap_of_not_mem hrest hd, List.append_nil]
    · have hnone : (part d).filter (key · == keyOf c) = [] :=
        List.filter_eq_nil_iff.mpr fun b hb hkey =>
          hd (List.mem_map.mpr ⟨c, hc, (eq_of_beq hkey).symm.trans (hpartd b hb)⟩)
      rw [hnone, List.nil_append]
      exact ih hrest hcs hc

theorem eraseDups_sublist_of_eq {as : List α} {k : α} (h : ∀ a ∈ as, a = k) :
    as.eraseDups.Sublist [k] := by
  cases as with
  | nil => exact List.nil_sublist [k]
  | cons a as =>
    obtain rfl := h a List.mem_cons_self
    have hrest : as.filter (!· == a) = [] :=
      List.filter_eq_nil_iff.mpr fun b hb => by simp [h b (List.mem_cons_of_mem a hb)]
    rw [List.eraseDups_cons, hrest, List.eraseDups_nil]

/-- The keys come first part by part. -/
theorem eraseDups_flatMap_sublist (hpart : ∀ c ∈ cs, ∀ b ∈ part c, key b = keyOf c)
    (hcs : (cs.map keyOf).Nodup) :
    ((cs.flatMap part).map key).eraseDups.Sublist (cs.map keyOf) := by
  induction cs with
  | nil => simp
  | cons c cs ih =>
    obtain ⟨hc, hcs⟩ := List.nodup_cons.mp hcs
    have hrest : ∀ d ∈ cs, ∀ b ∈ part d, key b = keyOf d :=
      fun d hd => hpart d (List.mem_cons_of_mem c hd)
    have hfirst : ∀ k ∈ (part c).map key, k = keyOf c := by
      intro k hk
      obtain ⟨b, hb, rfl⟩ := List.mem_map.mp hk
      exact hpart c List.mem_cons_self b hb
    have happart : ((cs.flatMap part).map key).removeAll ((part c).map key) =
        (cs.flatMap part).map key := by
      refine List.filter_eq_self.mpr fun k hk => ?_
      obtain ⟨b, hb, rfl⟩ := List.mem_map.mp hk
      obtain ⟨d, hd, hb⟩ := List.mem_flatMap.mp hb
      have hne : key b ∉ (part c).map key := fun hmem =>
        hc (List.mem_map.mpr ⟨d, hd, (hrest d hd b hb).symm.trans (hfirst _ hmem)⟩)
      simpa using hne
    rw [List.flatMap_cons, List.map_append, List.eraseDups_append, happart, List.map_cons]
    exact (eraseDups_sublist_of_eq hfirst).append (ih hrest hcs)

end Parts

/-- Lists with the same keys, and with the same elements of each key in the same order, are equal. -/
theorem eq_of_map_key_eq [BEq α] [LawfulBEq α] {key : β → α} {bs cs : List β}
    (hkeys : bs.map key = cs.map key)
    (hparts : ∀ k, bs.filter (key · == k) = cs.filter (key · == k)) : bs = cs := by
  induction bs generalizing cs with
  | nil => exact (List.map_eq_nil_iff.mp hkeys.symm).symm
  | cons b bs ih =>
    cases cs with
    | nil => cases hkeys
    | cons c cs =>
      obtain ⟨hkey, hrest⟩ := List.cons_eq_cons.mp hkeys
      have hfirst : b = c := by
        have := hparts (key b)
        simp only [List.filter_cons, hkey, beq_self_eq_true, if_true] at this
        exact (List.cons_eq_cons.mp this).1
      subst hfirst
      refine congrArg (b :: ·) (ih hrest fun k => ?_)
      have := hparts k
      simp only [List.filter_cons] at this
      split at this
      · exact (List.cons_eq_cons.mp this).2
      · exact this

end ServiceWiring
