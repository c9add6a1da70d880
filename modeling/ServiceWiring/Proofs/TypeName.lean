import Mathlib.Data.List.DropRight
import Mathlib.Data.List.TakeWhile
import ServiceWiring.DeclaredType
import ServiceWiring.Proofs.Text.Pieces

/-! Names of types that a host can write. Each has one qualified form, and no other name has it. -/
namespace ServiceWiring
open ServiceWiring.Text

/-- What is left after trimming has nothing to trim. -/
theorem Text.trimChars_trimChars (cs : List Char) : trimChars (trimChars cs) = trimChars cs := by
  have htrim (ds : List Char) : trimChars ds = (ds.dropWhile isBlank).rdropWhile isBlank := rfl
  have hkept : (trimChars cs).dropWhile isBlank = trimChars cs := by
    rw [List.dropWhile_eq_self_iff]
    intro hpos
    have hkeeps : trimChars cs <+: cs.dropWhile isBlank := List.rdropWhile_prefix isBlank _
    rw [hkeeps.getElem hpos]
    exact List.dropWhile_get_zero_not isBlank cs (hpos.trans_le hkeeps.length_le)
  rw [htrim (trimChars cs), hkept, htrim cs, List.rdropWhile_idempotent]

namespace TypeName

/-- There is a text that the name is read from. -/
def Parsed (t : TypeName) : Prop := ∃ s, parse? s = some t

/-- The segments of a name that is read from a text: those of the namespace, the last one, and its
generic arguments as they stand in the text. -/
structure Segments (cs : List Char) (t : TypeName) (spaces : List (List Char))
    (last arguments : List Char) : Prop where
  text : cs = unpieces '.' (spaces ++ [last]) ++ arguments
  segments_ne_nil : [] ∉ spaces ++ [last]
  dot_not_mem : ∀ segment ∈ spaces ++ [last], '.' ∉ segment
  angle_not_mem : ∀ segment ∈ spaces ++ [last], '<' ∉ segment
  arguments_apart : arguments.takeWhile (· ≠ '<') = []
  space : t.space.toList = unpieces '.' spaces
  simple : t.simple.toList = last ++ arguments

/-- The characters of a name before its generic arguments. -/
def headOf (s : String) : List Char := s.toList.takeWhile (· ≠ '<')

/-- The generic arguments of a name, with what follows them. -/
def argumentsOf (s : String) : List Char := s.toList.dropWhile (· ≠ '<')

theorem headOf_append_argumentsOf (s : String) : headOf s ++ argumentsOf s = s.toList :=
  List.takeWhile_append_dropWhile

theorem angle_not_mem_headOf (s : String) : '<' ∉ headOf s := by
  intro h
  simpa using List.mem_takeWhile_imp h

theorem takeWhile_argumentsOf (s : String) : (argumentsOf s).takeWhile (· ≠ '<') = [] := by
  rw [List.takeWhile_eq_nil_iff]
  intro hl
  exact List.dropWhile_get_zero_not _ _ hl

theorem head?_append_argumentsOf {cs : List Char} (s : String) (h : '<' ∉ cs) :
    ((cs ++ argumentsOf s).isEmpty || (cs ++ argumentsOf s).head? == some '<') = cs.isEmpty := by
  cases cs with
  | nil =>
    have harguments := takeWhile_argumentsOf s
    cases ha : argumentsOf s with
    | nil => rfl
    | cons c rest =>
      rw [ha, List.takeWhile_cons] at harguments
      have hc : c = '<' := by
        by_contra hne
        simp [hne] at harguments
      simp [hc]
  | cons c cs =>
    have hc : c ≠ '<' := fun e => h (e ▸ List.mem_cons_self)
    simp [hc]

theorem take_findIdx_eq_headOf (s : String) :
    s.toList.take (s.toList.findIdx (· == '<')) = headOf s := by
  have hsame : (fun c : Char => c == '<') = fun c => !decide (c ≠ '<') := by
    funext c
    by_cases hc : c = '<' <;> simp [hc]
  rw [headOf, List.takeWhile_eq_take_findIdx_not, hsame]

/-- The segments of a text between the dots before its generic arguments. -/
def segmentsOf (s : String) : List (List Char) := pieces '.' (headOf s)

theorem toList_trim (s : String) : (trim s).toList = trimChars s.toList := String.toList_ofList

/-- The last dot before the generic arguments is behind all segments but the last, so that cutting at
it is as good as cutting at every dot. -/
theorem parse?_eq (s : String) :
    parse? s =
      if [] ∈ segmentsOf (trim s) then none
      else some
        { space := String.ofList (unpieces '.' (segmentsOf (trim s)).dropLast)
          simple := String.ofList
            ((segmentsOf (trim s)).getLastD [] ++ argumentsOf (trim s)) } := by
  have hangle := angle_not_mem_headOf (trim s)
  have hcut := headOf_append_argumentsOf (trim s)
  unfold parse?
  simp only [← toList_trim, take_findIdx_eq_headOf]
  by_cases hdot : '.' ∈ headOf (trim s)
  · obtain ⟨before, last, hhead, hlast⟩ := exists_last_of_mem hdot
    have hsplit : (trim s).toList = before ++ '.' :: (last ++ argumentsOf (trim s)) := by
      rw [← hcut, hhead]
      simp
    have hlastAngle : '<' ∉ last := by
      intro h
      exact hangle (hhead ▸ List.mem_append_right before (List.mem_cons_of_mem '.' h))
    have hdrop : (trim s).toList.drop (before.length + 1) = last ++ argumentsOf (trim s) := by
      rw [hsplit, ← List.drop_drop, List.drop_left, List.drop_one, List.tail_cons]
    have htake : (trim s).toList.take before.length = before := by rw [hsplit, List.take_left]
    have hindex : lastIndex? '.' (headOf (trim s)) = some before.length := by
      rw [hhead, lastIndex?_append before hlast]
    have hsegments : segmentsOf (trim s) = pieces '.' before ++ [last] := by
      rw [segmentsOf, hhead, pieces_append_separator, pieces_of_not_mem hlast]
    have hempty : (last.isEmpty || (pieces '.' before).any List.isEmpty) = true ↔
        [] ∈ pieces '.' before ++ [last] := by simp [or_comm]
    simp only [hindex, hsegments, hdrop, htake, head?_append_argumentsOf _ hlastAngle, hempty]
    simp [unpieces_pieces]
  · have hplain := head?_append_argumentsOf (trim s) hangle
    rw [hcut] at hplain
    have hsegments : segmentsOf (trim s) = [headOf (trim s)] := pieces_of_not_mem hdot
    simp only [lastIndex?_of_not_mem hdot, hsegments, hplain]
    simp [unpieces, hcut]

theorem segments_of_parse? {s : String} {t : TypeName} (h : parse? s = some t) :
    ∃ spaces last arguments, Segments (trimChars s.toList) t spaces last arguments := by
  let segments := segmentsOf (trim s)
  have hne : segments ≠ [] := pieces_ne_nil _ _
  have hlast : segments.getLastD [] = segments.getLast hne := by
    rw [List.getLastD_eq_getLast?, List.getLast?_eq_some_getLast hne, Option.getD_some]
  have hconcat : segments.dropLast ++ [segments.getLast hne] = segments :=
    List.dropLast_concat_getLast hne
  rw [parse?_eq] at h
  split at h
  · cases h
  · next hempty =>
    have ht := Option.some.inj h
    subst ht
    refine ⟨segments.dropLast, segments.getLast hne, argumentsOf (trim s), ?_⟩
    constructor
    · rw [hconcat, ← toList_trim, ← headOf_append_argumentsOf (trim s)]
      exact congrArg (· ++ argumentsOf (trim s)) (unpieces_pieces '.' (headOf (trim s))).symm
    · rw [hconcat]
      exact hempty
    · rw [hconcat]
      exact fun segment hs hd => (mem_of_mem_pieces hs hd).2 rfl
    · rw [hconcat]
      exact fun segment hs hd => angle_not_mem_headOf _ (mem_of_mem_pieces hs hd).1
    · exact takeWhile_argumentsOf (trim s)
    · exact String.toList_ofList
    · rw [String.toList_ofList, ← hlast]

variable {t u : TypeName}

/-- The qualified form of a name is the text that it is read from, without the blanks around it. -/
theorem toList_qualified_of_parse? {s : String} (h : parse? s = some t) :
    t.qualified.toList = trimChars s.toList := by
  obtain ⟨spaces, last, arguments, hs⟩ := segments_of_parse? h
  rw [hs.text, qualified]
  by_cases hspaces : spaces = []
  · subst hspaces
    have hglobal : t.isGlobal = true := by
      simpa [isGlobal, unpieces] using hs.space
    simp [hglobal, hs.simple, unpieces]
  · have hne : unpieces '.' spaces ≠ [] :=
      unpieces_ne_nil hspaces fun hmem => hs.segments_ne_nil (List.mem_append_left _ hmem)
    have hglobal : t.isGlobal = false := by
      rw [isGlobal, beq_eq_false_iff_ne]
      intro e
      exact hne (by rw [← hs.space, e]; rfl)
    rw [unpieces_concat hspaces]
    simp [hglobal, hs.space, hs.simple]

/-- Different names that hosts write have different qualified forms. -/
theorem qualified_injective (ht : t.Parsed) (hu : u.Parsed) (h : t.qualified = u.qualified) :
    t = u := by
  obtain ⟨s, hs⟩ := ht
  obtain ⟨s', hs'⟩ := hu
  have htrimmed : trimChars s.toList = trimChars s'.toList := by
    rw [← toList_qualified_of_parse? hs, ← toList_qualified_of_parse? hs', h]
  have hparse : parse? s = parse? s' := by
    unfold parse?
    rw [htrimmed]
  exact Option.some.inj (hs.symm.trans (hparse.trans hs'))

/-- A simple name has no dots but those of its generic arguments. -/
theorem dot_not_mem_headOf_simple (ht : t.Parsed) : '.' ∉ headOf t.simple := by
  obtain ⟨s, hs⟩ := ht
  obtain ⟨spaces, last, arguments, hs⟩ := segments_of_parse? hs
  have hmem : last ∈ spaces ++ [last] := by simp
  have hlast : ∀ c ∈ last, (c ≠ '<') := fun c hc e => hs.angle_not_mem last hmem (e ▸ hc)
  rw [headOf, hs.simple, List.takeWhile_append_of_pos (by simpa using hlast), hs.arguments_apart,
    List.append_nil]
  exact hs.dot_not_mem last hmem

/-- The qualified form of a name in a namespace has a dot before its generic arguments. -/
theorem dot_mem_headOf_qualified (ht : t.Parsed) (hglobal : t.isGlobal = false) :
    '.' ∈ headOf t.qualified := by
  obtain ⟨s, hs⟩ := ht
  obtain ⟨spaces, last, arguments, hs⟩ := segments_of_parse? hs
  have hspace : ∀ c ∈ t.space.toList, c ≠ '<' := by
    rintro c hc rfl
    rw [hs.space] at hc
    rcases mem_unpieces hc with hc | ⟨segment, hmem, hc⟩
    · cases hc
    · exact hs.angle_not_mem segment (List.mem_append_left _ hmem) hc
  have hqualified : t.qualified.toList = t.space.toList ++ '.' :: t.simple.toList := by
    simp [qualified, hglobal]
  rw [headOf, hqualified, List.takeWhile_append_of_pos (by simpa using hspace)]
  simp

/-- The namespace of a name that is not global has segments that are neither empty nor generic. -/
theorem segments_of_space {s : String} (h : parse? s = some t) (hglobal : t.space ≠ "") :
    ∀ segment ∈ pieces '.' t.space.toList, segment ≠ [] ∧ '<' ∉ segment := by
  obtain ⟨spaces, last, arguments, hs⟩ := segments_of_parse? h
  have hspaces : spaces ≠ [] := by
    rintro rfl
    exact hglobal (String.toList_injective hs.space)
  have hdots : ∀ segment ∈ spaces, '.' ∉ segment :=
    fun segment hmem => hs.dot_not_mem segment (List.mem_append_left _ hmem)
  rw [hs.space, pieces_unpieces hspaces hdots]
  intro segment hmem
  refine ⟨?_, hs.angle_not_mem segment (List.mem_append_left _ hmem)⟩
  rintro rfl
  exact hs.segments_ne_nil (List.mem_append_left _ hmem)

/-- The qualified form of a name is read back as that name. -/
theorem parse?_qualified {s : String} (h : parse? s = some t) : parse? t.qualified = some t := by
  have hsame : trimChars t.qualified.toList = trimChars s.toList := by
    rw [toList_qualified_of_parse? h, trimChars_trimChars]
  rw [← h]
  unfold parse?
  rw [hsame]

/-- A text is a name when none of its segments is empty. The name is the trimmed text, cut before its
last segment, and is the only name with that qualified form. -/
theorem parse_exact (s : String) :
    ((parse? s).isSome ↔ ∀ segment ∈ segmentsOf (trim s), segment ≠ []) ∧
      ∀ t, parse? s = some t →
        t.space = String.ofList (unpieces '.' (segmentsOf (trim s)).dropLast) ∧
          t.simple =
            String.ofList ((segmentsOf (trim s)).getLastD [] ++ argumentsOf (trim s)) ∧
          t.qualified = trim s ∧
          (t.space = "" ∨
            ∀ segment ∈ pieces '.' t.space.toList, segment ≠ [] ∧ '<' ∉ segment) ∧
          parse? t.qualified = some t ∧
          (∀ u, u.Parsed → u.qualified = t.qualified → u = t) ∧
          ∀ a b : DeclaredType, a.name = t → b.name.Parsed → a.groupName = b.groupName →
            a.name = b.name := by
  constructor
  · rw [parse?_eq]
    split
    · next hempty =>
      simp only [Option.isSome_none, Bool.false_eq_true, false_iff]
      exact fun h => h [] hempty rfl
    · next hempty =>
      simp only [Option.isSome_some, true_iff]
      rintro _ hmem rfl
      exact hempty hmem
  · intro t ht
    have hparts := ht
    rw [parse?_eq] at hparts
    split at hparts
    · cases hparts
    · obtain rfl := Option.some.inj hparts
      refine ⟨rfl, rfl, ?_, ?_, parse?_qualified ht, ?_, ?_⟩
      · apply String.toList_injective
        rw [toList_qualified_of_parse? ht, toList_trim]
      · exact or_iff_not_imp_left.mpr (segments_of_space ht)
      · intro u hu h
        exact qualified_injective hu ⟨s, ht⟩ h
      · intro a b ha hb h
        exact qualified_injective (ha ▸ ⟨s, ht⟩) hb h

example : parse? " App.Data.Repo<App.Item> " = some ⟨"App.Data", "Repo<App.Item>"⟩ := by
  decide +kernel

end TypeName

end ServiceWiring
