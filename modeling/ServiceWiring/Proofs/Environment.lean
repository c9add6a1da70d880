import ServiceWiring.Proofs.Setting

/-! What the variables of the environment say of the settings. As long as no two of them are for the
same setting, it does not matter in which order they stand. -/
namespace ServiceWiring
open ServiceWiring.Text

namespace Settings.Variable

theorem word_ne_null (cs : List Char) : word cs ≠ .null := by
  rw [word]
  split
  · exact Value.noConfusion
  · split <;> exact Value.noConfusion

theorem solid_word (cs : List Char) : (word cs).Solid := by
  rw [word]
  split
  · trivial
  · split <;> trivial

/-- What so much fuel is enough to read is not null, and neither is any field of it. -/
structure ReadsSolid (fuel : Nat) : Prop where
  value : ∀ {cs rest : List Char} {v : Value}, readValue fuel cs = some (v, rest) →
    v ≠ .null ∧ v.Solid
  fields : ∀ {cs rest : List Char} {fields : List (String × Value)},
    readFields fuel cs = some (fields, rest) → ∀ field ∈ fields, field.2 ≠ .null

theorem readsSolid (fuel : Nat) : ReadsSolid fuel := by
  induction fuel with
  | zero =>
    constructor
    · intro cs rest v h
      rw [readValue] at h
      cases h
    · intro cs rest fields h
      rw [readFields] at h
      cases h
  | succ fuel ih =>
    constructor
    · intro cs rest v h
      rw [readValue] at h
      obtain ⟨r, hr, he⟩ := Option.map_eq_some_iff.mp h
      cases he
      split at hr
      · cases hr
        exact ⟨Value.noConfusion, trivial⟩
      · cases hr
        exact ⟨Value.noConfusion, trivial⟩
      · obtain ⟨q, -, rfl⟩ := Option.map_eq_some_iff.mp hr
        exact ⟨Value.noConfusion, trivial⟩
      · cases hr
        exact ⟨Value.noConfusion, trivial⟩
      · cases hr
      · obtain ⟨q, -, rfl⟩ := Option.map_eq_some_iff.mp hr
        exact ⟨Value.noConfusion, trivial⟩
      · obtain ⟨q, hq, rfl⟩ := Option.map_eq_some_iff.mp hr
        exact ⟨Value.noConfusion, ih.fields hq⟩
      · cases hr
        exact ⟨word_ne_null _, solid_word _⟩
    · intro cs rest fields h
      unfold readFields at h
      split at h
      · cases h
        exact fun field hfield => absurd hfield List.not_mem_nil
      split at h
      · cases h
      split at h
      · split at h
        · next hv =>
          cases h
          exact fun field hfield => List.mem_singleton.mp hfield ▸ (ih.value hv).1
        · next hv =>
          obtain ⟨r, hr, he⟩ := Option.map_eq_some_iff.mp h
          cases he
          exact List.forall_mem_cons.mpr ⟨(ih.value hv).1, ih.fields hr⟩
        · cases h
      · cases h

/-- No variable spells a record with a field that is null. -/
theorem solid_read (s : String) : (read s).Solid := by
  rw [read]
  split
  · next h => exact ((readsSolid _).value h).2
  · trivial

end Settings.Variable

section Names

theorem dropWhile_eq_self {α : Type} {p : α → Bool} {as : List α}
    (h : ∀ a ∈ as.head?, p a = false) : as.dropWhile p = as := by
  cases as with
  | nil => rfl
  | cons a as => exact List.dropWhile_cons_of_neg (by simp [h a rfl])

theorem trimChars_of_ends {cs : List Char} (hhead : ∀ c ∈ cs.head?, isBlank c = false)
    (hlast : ∀ c ∈ cs.getLast?, isBlank c = false) : trimChars cs = cs := by
  rw [trimChars, dropWhile_eq_self hhead, dropWhile_eq_self, List.reverse_reverse]
  rwa [List.head?_reverse]

namespace Setting

/-- The name of a setting's variable behind the family: part and key in capitals. -/
def capitals (x : Setting) : String :=
  x.part.name.map Char.toUpper ++ "__" ++ x.key.map Char.toUpper

/-- The usual name of a setting's variable. -/
def variableName (family : String) (x : Setting) : String := family ++ "_" ++ x.capitals

theorem toList_capitals (x : Setting) : x.capitals.toList =
    x.part.name.toList.map Char.toUpper ++ ['_', '_'] ++ x.key.toList.map Char.toUpper := by
  rw [capitals, String.toList_append, String.toList_append, String.toList_map, String.toList_map]
  rfl

theorem pieces_capitals (x : Setting) :
    pieces '.' ((Settings.Variable.dotted (trimChars x.capitals.toList)).map Char.toLower) =
      x.path.map String.toList := by
  rw [toList_capitals]
  cases x <;> decide +kernel

theorem getLast?_capitals (x : Setting) :
    ∃ last, x.capitals.toList.getLast? = some last ∧ isBlank last = false := by
  rw [toList_capitals]
  cases x <;> exact ⟨_, rfl, by decide⟩

/-- A variable of the usual name is for its setting, unless the family begins with white space. -/
theorem keys?_variableName {family : String}
    (hfamily : ∀ c ∈ family.toList.head?, isBlank c = false) (x : Setting) :
    Settings.Variable.keys? family (x.variableName family) = some x.path := by
  have hname : (x.variableName family).toList = (family.toList ++ ['_']) ++ x.capitals.toList := by
    rw [variableName, String.toList_append, String.toList_append]
    rfl
  have htrim : trimChars (x.variableName family).toList = (x.variableName family).toList := by
    apply trimChars_of_ends
    · rw [hname]
      cases hfamily' : family.toList with
      | nil => exact fun c hc => Option.some.inj hc ▸ by decide
      | cons first rest => exact fun c hc => hfamily c (hfamily' ▸ hc)
    · intro c hc
      obtain ⟨last, hlast, hblank⟩ := x.getLast?_capitals
      rw [hname, List.getLast?_append, hlast] at hc
      exact Option.some.inj hc ▸ hblank
  have hfull : ¬ (x.path.map String.toList).contains [] = true := by
    cases x <;> decide +kernel
  rw [Settings.Variable.keys?, htrim, hname, List.take_left, List.drop_left, if_pos rfl]
  dsimp only
  rw [pieces_capitals, if_neg hfull, List.map_map]
  simp [Function.comp_def]

end Setting

end Names

namespace Settings

/-- The keys of a variable lead to no setting, neither to one nor to anything above or below one. -/
def Aside (keys : List String) : Prop := ∀ x : Setting, ¬ keys <+: x.path ∧ ¬ x.path <+: keys

/-- Every variable of the family is for a setting or leads to none, and no two are for the same. -/
structure Orderly (family : String) (environment : List (String × String)) : Prop where
  known : ∀ v ∈ environment, ∀ keys ∈ Variable.keys? family v.1,
    (∃ x : Setting, keys = x.path) ∨ Aside keys
  distinct : environment.Pairwise fun v w => ∀ x : Setting,
    Variable.keys? family v.1 = some x.path → Variable.keys? family w.1 ≠ some x.path

/-- What the variable of a setting holds, if there is one. -/
def valueOf? (family : String) (environment : List (String × String)) (x : Setting) :
    Option String :=
  (environment.find? fun v => Variable.keys? family v.1 == some x.path).map Prod.snd

/-- Whether the environment has a variable for anything in a part. -/
def isNamed (family : String) (environment : List (String × String)) (part : Part) : Bool :=
  environment.any fun v => (Variable.keys? family v.1).any fun keys => keys.head? == some part.name

section Layer
variable {family : String} {environment : List (String × String)} {v : String × String}
  {keys : List String} {part : Part} {x : Setting}

theorem Orderly.of_concat (h : Orderly family (environment ++ [v])) : Orderly family environment :=
  ⟨fun w hw => h.known w (List.mem_append_left [v] hw), (List.pairwise_append.mp h.distinct).1⟩

/-- Nothing has been said before of what the last variable is for. -/
theorem Orderly.valueOf?_eq_none (h : Orderly family (environment ++ [v]))
    (hkeys : Variable.keys? family v.1 = some x.path) : valueOf? family environment x = none := by
  rw [valueOf?, Option.map_eq_none_iff, List.find?_eq_none]
  intro w hw he
  have hlater := (List.pairwise_append.mp h.distinct).2.2 w hw v (List.mem_singleton.mpr rfl) x
  exact hlater (eq_of_beq he) hkeys

theorem valueOf?_concat_of_ne (hkeys : Variable.keys? family v.1 ≠ some x.path) :
    valueOf? family (environment ++ [v]) x = valueOf? family environment x := by
  have hnot : (Variable.keys? family v.1 == some x.path) = false := beq_eq_false_iff_ne.mpr hkeys
  rw [valueOf?, valueOf?, List.find?_append]
  simp [hnot]

theorem valueOf?_concat_of_eq (hkeys : Variable.keys? family v.1 = some x.path)
    (hnone : valueOf? family environment x = none) :
    valueOf? family (environment ++ [v]) x = some v.2 := by
  rw [valueOf?, Option.map_eq_none_iff] at hnone
  rw [valueOf?, List.find?_append, hnone]
  simp [hkeys]

theorem isNamed_concat (family : String) (environment : List (String × String))
    (v : String × String) (part : Part) :
    isNamed family (environment ++ [v]) part = (isNamed family environment part ||
      (Variable.keys? family v.1).any fun keys => keys.head? == some part.name) := by
  simp [isNamed]

/-- What a part of the environment's layer is: nothing if no variable is for it, or else a record with
what its settings' variables spell. -/
inductive SaidBy (family : String) (environment : List (String × String)) (part : Part) :
    Option Value → Prop
  | nothing (hnamed : isNamed family environment part = false)
    (hvalues : ∀ x ∈ part.settings, valueOf? family environment x = none) :
    SaidBy family environment part none
  | fields {fields : List (String × Value)} (hnamed : isNamed family environment part = true)
    (hkeys : (fields.map Prod.fst).Nodup)
    (hvalues : ∀ x ∈ part.settings,
      fields.lookup x.key = (valueOf? family environment x).map Variable.read) :
    SaidBy family environment part (some (.record fields))

theorem environmentLayer_concat (family : String) (environment : List (String × String))
    (v : String × String) :
    environmentLayer family (environment ++ [v]) =
      match Variable.keys? family v.1 with
      | some keys => merge (environmentLayer family environment) (nested keys (Variable.read v.2))
      | none => environmentLayer family environment :=
  List.foldl_append

/-- A variable for something else says nothing of a part. -/
theorem SaidBy.concat_other {said : Option Value} (h : SaidBy family environment part said)
    (hother : ∀ keys ∈ Variable.keys? family v.1, keys.head? ≠ some part.name) :
    SaidBy family (environment ++ [v]) part said := by
  have hnamed : isNamed family (environment ++ [v]) part = isNamed family environment part := by
    rw [isNamed_concat]
    cases hkeys : Variable.keys? family v.1 with
    | none => exact Bool.or_false _
    | some keys =>
      have hhead : (keys.head? == some part.name) = false :=
        beq_eq_false_iff_ne.mpr (hother keys hkeys)
      rw [Option.any_some, hhead, Bool.or_false]
  have hvalues : ∀ x ∈ part.settings,
      valueOf? family (environment ++ [v]) x = valueOf? family environment x := by
    intro x hx
    apply valueOf?_concat_of_ne
    intro hkeys
    exact hother x.path hkeys (congrArg (some ∘ Part.name) (Setting.mem_settings_iff.mp hx))
  cases h with
  | nothing hnone hvalue =>
    exact .nothing (hnamed ▸ hnone) fun x hx => (hvalues x hx).trans (hvalue x hx)
  | fields hsome hkeys hvalue =>
    exact .fields (hnamed ▸ hsome) hkeys fun x hx => (hvalues x hx) ▸ hvalue x hx

/-- A variable that leads into a setting is for it. -/
theorem Orderly.keys_eq_path (h : Orderly family (environment ++ [v]))
    (hkeys : Variable.keys? family v.1 = some keys) (hx : x.path <+: keys) : keys = x.path := by
  rcases h.known v (List.mem_append_right _ List.mem_cons_self) keys hkeys with ⟨y, rfl⟩ | haside
  · exact (hx.eq_of_length rfl).symm
  · exact absurd hx (haside x).2

/-- No variable is for a whole part. -/
theorem Orderly.exists_key (h : Orderly family (environment ++ [v])) {rest : List String}
    (hkeys : Variable.keys? family v.1 = some (part.name :: rest)) :
    ∃ key more, rest = key :: more := by
  cases rest with
  | cons key more => exact ⟨key, more, rfl⟩
  | nil =>
    rcases h.known v (List.mem_append_right _ List.mem_cons_self) _ hkeys with ⟨y, hy⟩ | haside
    · cases (List.cons.inj hy).2
    · cases part with
      | generator => exact absurd ⟨[Setting.dialect.key], rfl⟩ (haside .dialect).1
      | logging => exact absurd ⟨[Setting.level.key], rfl⟩ (haside .level).1

/-- A variable for something in a part says it of that part. -/
theorem SaidBy.concat_within {said : Option Value} (h : SaidBy family environment part said)
    (horderly : Orderly family (environment ++ [v])) {key : String} {rest : List String}
    (hkeys : Variable.keys? family v.1 = some (part.name :: key :: rest)) :
    SaidBy family (environment ++ [v]) part
      (overlay said (some (.record [(key, nested rest (Variable.read v.2))]))) := by
  have hnamed : isNamed family (environment ++ [v]) part = true := by
    rw [isNamed_concat, hkeys]
    simp
  have hvalues : ∀ x ∈ part.settings,
      (valueOf? family (environment ++ [v]) x).map Variable.read =
        if x.key = key then
          overlay ((valueOf? family environment x).map Variable.read)
            (some (nested rest (Variable.read v.2)))
        else (valueOf? family environment x).map Variable.read := by
    intro x hx
    have hpart : x.part = part := Setting.mem_settings_iff.mp hx
    by_cases hkey : x.key = key
    -- The variable leads into this setting, so it is for it, and no earlier one is.
    · have hpath : part.name :: key :: rest = x.path := by
        apply horderly.keys_eq_path hkeys
        rw [Setting.path, hpart, hkey]
        exact ⟨rest, rfl⟩
      have hrest : rest = [] := by
        rw [Setting.path] at hpath
        exact (List.cons.inj (List.cons.inj hpath).2).2
      rw [hpath] at hkeys
      have hnone := horderly.valueOf?_eq_none hkeys
      rw [valueOf?_concat_of_eq hkeys hnone, hnone, if_pos hkey, hrest]
      exact congrArg some (merge_null _).symm
    · have hne : Variable.keys? family v.1 ≠ some x.path := by
        rw [hkeys]
        intro he
        exact hkey (List.cons.inj (List.cons.inj (Option.some.inj he)).2).1.symm
      rw [valueOf?_concat_of_ne hne, if_neg hkey]
  cases h with
  | nothing hnone hvalue =>
    refine .fields hnamed (List.pairwise_singleton _ _) fun x hx => ?_
    rw [hvalues x hx, hvalue x hx, Keyed.lookup_cons_eq]
    split
    · exact congrArg some (merge_null _).symm
    · rfl
  | fields hsome hnodup hvalue =>
    refine .fields hnamed (nodup_mergeFields hnodup _) fun x hx => ?_
    rw [lookup_mergeFields_single, hvalue x hx, hvalues x hx]

/-- What the environment says, part by part. -/
theorem environmentLayer_says (h : Orderly family environment) :
    ∃ fields, environmentLayer family environment = .record fields ∧
      (fields.map Prod.fst).Nodup ∧
      ∀ part : Part, SaidBy family environment part (fields.lookup part.name) := by
  induction environment using List.reverseRecOn with
  | nil => exact ⟨[], rfl, List.nodup_nil, fun part => .nothing rfl fun x hx => rfl⟩
  | append_singleton environment v ih =>
    obtain ⟨fields, hlayer, hnodup, hsaid⟩ := ih h.of_concat
    rw [environmentLayer_concat, hlayer]
    cases hkeys : Variable.keys? family v.1 with
    | none =>
      refine ⟨fields, rfl, hnodup, fun part => (hsaid part).concat_other fun keys hmem => ?_⟩
      rw [hkeys] at hmem
      cases hmem
    | some keys =>
      cases keys with
      | nil =>
        rcases h.known v (List.mem_append_right _ List.mem_cons_self) [] hkeys with ⟨y, hy⟩ | haside
        · cases hy
        · exact absurd List.nil_prefix (haside .dialect).1
      | cons first rest =>
        refine ⟨_, rfl, nodup_mergeFields hnodup _, fun part => ?_⟩
        show SaidBy _ _ _ ((mergeFields fields [(first, nested rest (Variable.read v.2))]).lookup _)
        rw [lookup_mergeFields_single]
        by_cases hpart : part.name = first
        · subst hpart
          obtain ⟨key, rest, rfl⟩ := h.exists_key hkeys
          rw [if_pos rfl]
          exact (hsaid part).concat_within h hkeys
        · rw [if_neg hpart]
          refine (hsaid part).concat_other fun keys hmem => ?_
          rw [hkeys] at hmem
          cases hmem
          exact fun he => hpart (Option.some.inj he).symm

end Layer

end Settings

end ServiceWiring
