import Mathlib.Data.List.Nodup
import ServiceWiring.Value

/-! Values that are read back as they were written: texts, lists of things, and records with fields that
may be left out. -/
namespace ServiceWiring.Value
variable {α : Type}

/-- Things in order are read back as they were written. Whatever is read is in order, so that writing
it and reading it once more changes nothing. -/
structure Faithful (inOrder : α → Prop) (write : α → Value) (read : Value → Option α) : Prop where
  read_write : ∀ a, inOrder a → read (write a) = some a
  inOrder_of_read : ∀ v a, read v = some a → inOrder a
  reread : ∀ v, ((read v).bind fun a => read (write a)) = read v

section Lists
variable {read : Value → Option α} {write : α → Value}

theorem mapM_map_write {as : List α} (h : ∀ a ∈ as, read (write a) = some a) :
    (as.map write).mapM read = some as := by
  induction as with
  | nil => rfl
  | cons a rest ih =>
    have hrest := ih fun b hb => h b (List.mem_cons_of_mem a hb)
    simp [h a List.mem_cons_self, hrest]

theorem exists_read_of_mapM {vs : List Value} {as : List α} (h : vs.mapM read = some as) :
    ∀ a ∈ as, ∃ v ∈ vs, read v = some a := by
  induction vs generalizing as with
  | nil =>
    cases h
    exact fun a ha => absurd ha List.not_mem_nil
  | cons v rest ih =>
    simp only [List.mapM_cons, Option.bind_eq_bind, Option.bind_eq_some_iff, Option.pure_def,
      Option.some.injEq] at h
    obtain ⟨b, hb, bs, hbs, rfl⟩ := h
    intro a ha
    rcases List.mem_cons.mp ha with rfl | ha
    · exact ⟨v, List.mem_cons_self, hb⟩
    · obtain ⟨w, hw, hread⟩ := ih hbs a ha
      exact ⟨w, List.mem_cons_of_mem v hw, hread⟩

end Lists

namespace Faithful
variable {inOrder : α → Prop} {write : α → Value} {read : Value → Option α}

theorem intro (hwrite : ∀ a, inOrder a → read (write a) = some a)
    (hread : ∀ v a, read v = some a → inOrder a) : Faithful inOrder write read := by
  refine ⟨hwrite, hread, fun v => ?_⟩
  cases h : read v with
  | none => rfl
  | some a => exact hwrite a (hread v a h)

/-- Where everything is in order, only reading back is to be shown. -/
theorem ofAll (hwrite : ∀ a, read (write a) = some a) : Faithful (fun _ => True) write read :=
  .intro (fun a _ => hwrite a) fun _ _ _ => trivial

/-- Things in order that are written alike are the same. -/
theorem write_injective (h : Faithful inOrder write read) {a b : α} (ha : inOrder a) (hb : inOrder b)
    (he : write a = write b) : a = b :=
  Option.some.inj ((h.read_write a ha).symm.trans (he ▸ h.read_write b hb))

theorem string : Faithful (fun _ => True) .text string? := .ofAll fun _ => rfl

theorem listOf (h : Faithful inOrder write read) :
    Faithful (fun as => ∀ a ∈ as, inOrder a) (fun as => .list (as.map write)) (listOf? read) := by
  refine .intro (fun as has => mapM_map_write fun a ha => h.read_write a (has a ha)) ?_
  intro v as hread
  cases v with
  | list items =>
    intro a ha
    obtain ⟨w, -, hw⟩ := exists_read_of_mapM hread a ha
    exact h.inOrder_of_read w a hw
  | plain s =>
    unfold listOf? at hread
    split at hread
    · simp_all
    · cases hread
      simp
    · cases hread
  | _ => cases hread

/-- A count that fits into a word of 64 bits. -/
theorem count : Faithful (fun n : Nat => n < 0x10000000000000000) (fun n => .integer n) count? := by
  refine .intro (fun n hn => ?_) fun v n h => ?_
  · have hrange : (0 : Int) ≤ n ∧ (n : Int) < 0x10000000000000000 := by omega
    rw [count?, if_pos hrange, Int.toNat_natCast]
  · unfold count? at h
    split at h
    · obtain ⟨hrange, hn⟩ := Option.ite_none_right_eq_some.mp h
      have := Option.some.inj hn
      omega
    · cases h

theorem orNull : Faithful (fun _ => True) (ofOption .text) (orNull? string?) :=
  .ofAll fun o => by cases o <;> rfl

section Fields
variable {f : Field} {a : α}

theorem required_given (h : Faithful inOrder write read) (ha : inOrder a) :
    (Field.given (write a)).required read = some a := h.read_write a ha

theorem inOrder_of_required (h : Faithful inOrder write read) (hf : f.required read = some a) :
    inOrder a := by
  cases f with
  | given v => exact h.inOrder_of_read v a hf
  | absent => cases hf
  | ended => cases hf

theorem inOrder_of_withDefault (h : Faithful inOrder write read) {fallback : α}
    (hfallback : inOrder fallback) (hf : f.withDefault fallback read = some a) : inOrder a := by
  cases f with
  | given v => exact h.inOrder_of_read v a hf
  | absent => exact Option.some.inj hf ▸ hfallback
  | ended => exact Option.some.inj hf ▸ hfallback

end Fields

end Faithful

/-- What is found of a field that is written or left out. -/
def Field.ofGiven : Option Value → Field
  | some v => .given v
  | none => .absent

/-- The fields of a record in the order of their names, without those that are left out. -/
def namedFields (names : List String) (given : List (Option Value)) : List (String × Value) :=
  (names.zip given).filterMap fun p => p.2.map (p.1, ·)

theorem fst_mem_of_mem_namedFields {names : List String} {given : List (Option Value)}
    {field : String × Value} (h : field ∈ namedFields names given) : field.1 ∈ names := by
  obtain ⟨p, hp, hfield⟩ := List.mem_filterMap.mp h
  obtain ⟨v, -, rfl⟩ := Option.map_eq_some_iff.mp hfield
  exact (List.of_mem_zip hp).1

theorem namedFields_cons (name : String) (g : Option Value) (names : List String)
    (given : List (Option Value)) :
    namedFields (name :: names) (g :: given) =
      (g.map (name, ·)).toList ++ namedFields names given := by
  cases g <;> rfl

/-- Each field is found under its own name. -/
theorem ofRecord?_namedFields {names : List String} (hnames : names.Nodup)
    {given : List (Option Value)} {name : String} {g : Option Value}
    (h : (name, g) ∈ names.zip given) :
    Field.ofRecord? (namedFields names given) name = some (.ofGiven g) := by
  have hfound : (namedFields names given).filter (·.1 == name) = (g.map (name, ·)).toList := by
    induction names generalizing given with
    | nil => cases h
    | cons first names ih =>
      obtain ⟨hfirst, hnames⟩ := List.nodup_cons.mp hnames
      cases given with
      | nil => cases h
      | cons g' given =>
        rw [namedFields_cons, List.filter_append]
        rcases List.mem_cons.mp h with he | h
        · cases he
          have hrest : (namedFields names given).filter (·.1 == name) = [] := by
            refine List.filter_eq_nil_iff.mpr fun field hfield hname => hfirst ?_
            exact eq_of_beq hname ▸ fst_mem_of_mem_namedFields hfield
          cases g <;> simp [hrest]
        · have hne : first ≠ name := fun e => hfirst (e ▸ (List.of_mem_zip h).1)
          rw [ih hnames h]
          cases g' <;> simp [hne]
  rw [Field.ofRecord?, hfound]
  cases g <;> rfl

/-- A record is read back field by field. -/
theorem fields?_namedFields (form : ListedFields) (given : List (Option Value))
    {names : List String} (hnames : names.Nodup) (hlength : given.length = names.length) :
    fields? form names (.record (namedFields names given)) = some (given.map .ofGiven) := by
  have hall : ∀ ps : List (String × Option Value), (∀ p ∈ ps, p ∈ names.zip given) →
      (ps.map Prod.fst).mapM (Field.ofRecord? (namedFields names given)) =
        some ((ps.map Prod.snd).map .ofGiven) := by
    intro ps
    induction ps with
    | nil => exact fun _ => rfl
    | cons p ps ih =>
      intro hps
      have hp := ofRecord?_namedFields hnames (hps p List.mem_cons_self)
      have hrest := ih fun q hq => hps q (List.mem_cons_of_mem p hq)
      simp [hp, hrest]
  have hzip := hall (names.zip given) fun _ hp => hp
  rwa [List.map_fst_zip (by omega), List.map_snd_zip (by omega)] at hzip

end ServiceWiring.Value
