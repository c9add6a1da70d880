import ServiceWiring.Mark.Resolution
import ServiceWiring.Proofs.Text.Lowering
import ServiceWiring.Proofs.Text.Pieces
import ServiceWiring.Proofs.TypeName
import ServiceWiring.Proofs.VisibleKinds

/-! How kinds and slots are spelled. A tag stands for a kind with or without a namespace before it and
with or without the customary suffix behind it, and in no other way. The name of an argument stands for a
slot in any case and with any underscores and hyphens in it. -/
namespace ServiceWiring
open ServiceWiring.Text

section Tags
variable {tag name : String}

/-- A name without the customary suffix is the normal form of the tags that end in it, with or without
the suffix. -/
theorem normalTag_eq_iff (hname : name ≠ "") (hsuffix : ¬tagSuffix.toList <:+ name.toList) :
    normalTag tag = name ↔
      (pieces '.' (trimChars tag.toList)).getLastD [] = name.toList ∨
        (pieces '.' (trimChars tag.toList)).getLastD [] = name.toList ++ tagSuffix.toList := by
  have hlength : 0 < name.toList.length :=
    List.length_pos_of_ne_nil fun h => hname (String.toList_injective h)
  have hofList (cs : List Char) : String.ofList cs = name ↔ cs = name.toList := by
    constructor
    · rintro rfl
      exact String.toList_ofList.symm
    · rintro rfl
      exact String.ofList_toList
  rw [normalTag]
  generalize (pieces '.' (trimChars tag.toList)).getLastD [] = simple
  simp only [List.isSuffixOf_iff_suffix]
  split
  · next hlong =>
    have hcut := List.suffix_iff_eq_append.mp hlong.1
    rw [hofList]
    constructor
    · intro h
      rw [h] at hcut
      exact .inr hcut.symm
    · rintro (rfl | rfl)
      · exact absurd hlong.1 hsuffix
      · exact List.append_cancel_right hcut
  · next hshort =>
    rw [hofList]
    constructor
    · exact .inl
    · rintro (h | rfl)
      · exact h
      · refine absurd ⟨List.suffix_append _ _, ?_⟩ hshort
        rw [List.length_append]
        omega

namespace Kind

/-- A tag is the one of the kind, with any namespace before it and the customary suffix behind it, or
without. White space around all of it does not count. -/
def SpelledBy (kind : Kind) (tag : String) : Prop :=
  ∃ lead ending : String, (lead = "" ∨ ∃ space, lead = space ++ ".") ∧
    (ending = "" ∨ ending = "Attribute") ∧ trim tag = lead ++ kind.tag ++ ending

theorem ofTag?_eq_some_iff_normalTag {kind : Kind} : ofTag? tag = some kind ↔ normalTag tag = kind.tag := by
  rw [ofTag?_eq_named?, named?_eq_some_iff, eq_comm]

/-- What stands at the end of a tag, alone or behind a dot. -/
private theorem getLastD_eq_iff {last : String} (h : '.' ∉ last.toList) :
    (pieces '.' (trimChars tag.toList)).getLastD [] = last.toList ↔
      ∃ lead : String, (lead = "" ∨ ∃ space, lead = space ++ ".") ∧ trim tag = lead ++ last := by
  rw [getLastD_pieces_eq_iff h, ← TypeName.toList_trim]
  constructor
  · rintro (halone | ⟨lead, hlead⟩)
    · exact ⟨"", .inl rfl, by simpa using String.toList_injective halone⟩
    · refine ⟨String.ofList lead ++ ".", .inr ⟨_, rfl⟩, String.toList_injective ?_⟩
      simp [hlead]
  · rintro ⟨lead, rfl | ⟨space, rfl⟩, htrim⟩
    · left
      simp [htrim]
    · right
      exact ⟨space.toList, by simp [htrim]⟩

theorem ofTag?_eq_some_iff {kind : Kind} : ofTag? tag = some kind ↔ kind.SpelledBy tag := by
  have hname : kind.tag ≠ "" := by cases kind <;> decide
  have hsuffix : ¬tagSuffix.toList <:+ kind.tag.toList := by cases kind <;> decide
  have hdot : '.' ∉ kind.tag.toList ∧ '.' ∉ (kind.tag ++ tagSuffix).toList := by
    cases kind <;> decide
  rw [ofTag?_eq_some_iff_normalTag, normalTag_eq_iff hname hsuffix, ← String.toList_append,
    getLastD_eq_iff hdot.1, getLastD_eq_iff hdot.2]
  constructor
  · rintro (⟨lead, hlead, htrim⟩ | ⟨lead, hlead, htrim⟩)
    · exact ⟨lead, "", hlead, .inl rfl, by rw [htrim, String.append_empty]⟩
    · exact ⟨lead, tagSuffix, hlead, .inr rfl, by rw [htrim, String.append_assoc]⟩
  · rintro ⟨lead, ending, hlead, rfl | rfl, htrim⟩
    · exact .inl ⟨lead, hlead, by rw [htrim, String.append_empty]⟩
    · exact .inr ⟨lead, hlead, by rw [htrim, String.append_assoc]; rfl⟩

end Kind

end Tags

namespace Slot

/-- The names of a slot. -/
def words : Slot → List String
  | .lifetime => ["lifetime"]
  | .mode => ["mode"]
  | .contracts => ["interfaces"]
  | .label => ["label", "preprocessorlabel"]

/-- A name is one of the slot, but for underscores, hyphens and capital letters of ASCII. -/
def SpelledBy (slot : Slot) (name : String) : Prop :=
  ∃ word ∈ slot.words, (name.toList.filter fun c => c ≠ '_' ∧ c ≠ '-').map Char.toLower = word.toList

theorem isPlainLower_of_mem_words {slot : Slot} {word : String} (h : word ∈ slot.words) :
    ∀ c ∈ word.toList, isPlainLower c = true := by
  have hwords : slot.words.all (fun word => word.toList.all isPlainLower) = true := by
    cases slot <;> decide
  exact List.all_eq_true.mp (List.all_eq_true.mp hwords word h)

theorem ofName?_eq_some_iff {slot : Slot} {name : String} :
    ofName? name = some slot ↔ slot.SpelledBy name := by
  have hwords : slot.SpelledBy name ↔ ∃ word ∈ slot.words,
      lowerChars (name.toList.filter fun c => c ≠ '_' ∧ c ≠ '-') = word.toList := by
    refine exists_congr fun word => and_congr_right fun hword => ?_
    exact (lowerChars_eq_iff (isPlainLower_of_mem_words hword)).symm
  rw [hwords, ofName?]
  generalize lowerChars (name.toList.filter fun c => c ≠ '_' ∧ c ≠ '-') = key
  split
  · next h => subst h; cases slot <;> decide
  split
  · next h => subst h; cases slot <;> decide
  split
  · next h => subst h; cases slot <;> decide
  split
  · next h => rcases h with rfl | rfl <;> cases slot <;> decide
  · cases slot <;> simp_all [words]

end Slot

/-- Tags and names of arguments are recognized by their spelling and by nothing else. -/
theorem spelling_recognized :
    (∀ (tag : String) (kind : Kind), Kind.ofTag? tag = some kind ↔ kind.SpelledBy tag) ∧
      (∀ (name : String) (slot : Slot), Slot.ofName? name = some slot ↔ slot.SpelledBy name) ∧
      ∀ (kind : Kind) (tag name : String) (value : Argument) (slot : Slot),
        (Mark.mk tag [] [⟨name, value⟩]).feeds kind = [(slot, value)] ↔ slot.SpelledBy name := by
  refine ⟨fun tag kind => Kind.ofTag?_eq_some_iff, fun name slot => Slot.ofName?_eq_some_iff, ?_⟩
  intro kind tag name value slot
  rw [← Slot.ofName?_eq_some_iff]
  cases h : Slot.ofName? name <;> simp [Mark.feeds, h]

end ServiceWiring
