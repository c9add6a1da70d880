import Mathlib.Data.List.SplitBy
import ServiceWiring.Dialect
import ServiceWiring.Proofs.TypeName

/-! Paths in generic arguments. A dialect may put a root before every name of the host; names that stand
among the arguments of others are spelled along with them, without a root of their own. -/
namespace ServiceWiring
open ServiceWiring.Text

namespace Text

theorem mem_of_mem_trimChars {cs : List Char} {c : Char} (h : c ∈ trimChars cs) : c ∈ cs := by
  have hkept := List.mem_reverse.mp ((List.dropWhile_suffix isBlank).mem (List.mem_reverse.mp h))
  exact (List.dropWhile_suffix isBlank).mem hkept

theorem trimChars_of_not_blank {cs : List Char} (h : ∀ c ∈ cs, isBlank c = false) :
    trimChars cs = cs := by
  have hfront (ds : List Char) (hds : ∀ c ∈ ds, isBlank c = false) : ds.dropWhile isBlank = ds := by
    refine List.dropWhile_eq_self_iff.mpr fun hpos => ?_
    simp [hds _ (List.getElem_mem hpos)]
  have hback := hfront cs.reverse fun c hc => h c (List.mem_reverse.mp hc)
  rw [trimChars, hfront cs h, hback, List.reverse_reverse]

theorem replaceChar_ofList_flatten (c : Char) (replacement : String) (parts : List (List Char)) :
    replaceChar c replacement (String.ofList parts.flatten) =
      String.join (parts.map fun part => replaceChar c replacement (String.ofList part)) := by
  induction parts with
  | nil => rfl
  | cons part parts ih =>
    rw [List.flatten_cons, String.ofList_append, replaceChar_append, ih, List.map_cons,
      String.join_cons]

end Text

namespace TypeName

/-- What generic arguments stand between. -/
def isArgumentMark (c : Char) : Bool := c ∈ ['<', '>', ','] || isBlank c

/-- The generic arguments of a name, those of arguments included, cut into marks and what stands
between them. -/
def argumentParts (t : TypeName) : List (List Char) :=
  (argumentsOf t.simple).splitBy fun c d => isArgumentMark c == isArgumentMark d

/-- The type of a namespace that a part names. -/
def path? (part : List Char) : Option TypeName :=
  (parse? (String.ofList part)).filter fun path => !path.isGlobal

/-- The dotted paths among the generic arguments, at every depth. -/
def argumentPaths (t : TypeName) : List TypeName := t.argumentParts.filterMap path?

/-- The name without its generic arguments. -/
def bare (t : TypeName) : TypeName := { t with simple := String.ofList (headOf t.simple) }

variable {t : TypeName} {part : List Char}

theorem simple_eq_append (t : TypeName) :
    t.simple = t.bare.simple ++ String.ofList (argumentsOf t.simple) := by
  rw [bare, ← String.ofList_append, headOf_append_argumentsOf, String.ofList_toList]

theorem qualified_eq_append (t : TypeName) :
    t.qualified = t.bare.qualified ++ String.ofList (argumentsOf t.simple) := by
  have hglobal : t.bare.isGlobal = t.isGlobal := rfl
  have hspace : t.bare.space = t.space := rfl
  rw [qualified, qualified, hglobal, hspace]
  split
  · exact t.simple_eq_append
  · have hsimple := congrArg (t.space ++ "." ++ ·) t.simple_eq_append
    exact hsimple.trans String.append_assoc.symm

/-- Marks and other characters do not mix in a part. -/
theorem isArgumentMark_eq_of_mem (hpart : part ∈ t.argumentParts) {c d : Char} (hc : c ∈ part)
    (hd : d ∈ part) : isArgumentMark c = isArgumentMark d := by
  let same : Char → Char → Prop := fun c d => isArgumentMark c = isArgumentMark d
  have htrans : IsTrans Char same := ⟨fun _ _ _ => Eq.trans⟩
  have hchain : part.IsChain same := by
    simpa [same] using List.isChain_of_mem_splitBy hpart
  have hsymm : Std.Symm same := ⟨fun _ _ => Eq.symm⟩
  have hrefl : ∀ c ∈ part, same c c := fun _ _ => rfl
  exact (List.isChain_iff_pairwise.mp hchain).forall_of_forall hrefl hc hd

/-- A part that has a dot has no marks, and so nothing that reading it would trim. -/
theorem qualified_of_path? (hpart : part ∈ t.argumentParts) {path : TypeName}
    (h : path? part = some path) : path.qualified = String.ofList part := by
  obtain ⟨hparse, hglobal⟩ := Option.filter_eq_some_iff.mp h
  have hqualified := toList_qualified_of_parse? hparse
  rw [String.toList_ofList] at hqualified
  have hhead := dot_mem_headOf_qualified ⟨_, hparse⟩ (by simpa using hglobal)
  have hdot : '.' ∈ part := by
    refine mem_of_mem_trimChars ?_
    rw [← hqualified, ← headOf_append_argumentsOf]
    exact List.mem_append_left _ hhead
  have hblank : ∀ c ∈ part, isBlank c = false := by
    intro c hc
    have hmark : isArgumentMark c = false :=
      (isArgumentMark_eq_of_mem hpart hc hdot).trans (by decide)
    rw [isArgumentMark, Bool.or_eq_false_iff] at hmark
    exact hmark.2
  apply String.toList_injective
  rw [hqualified, trimChars_of_not_blank hblank, String.toList_ofList]

end TypeName

namespace Dialect
open ServiceWiring.TypeName (headOf argumentsOf path?)
variable {t : TypeName} {part : List Char}

/-- A part of generic arguments as it stands in names that this dialect writes. -/
def writtenPart (d : Dialect) (part : List Char) : String :=
  replaceChar '.' d.separator (String.ofList part)

/-- A part of generic arguments with a path written as it is by itself. -/
def rootedPart (d : Dialect) (part : List Char) : String :=
  ((path? part).map d.qualify).getD (d.writtenPart part)

def writtenArguments (d : Dialect) (t : TypeName) : String :=
  String.join (t.argumentParts.map d.writtenPart)

/-- The generic arguments with every path written as it is by itself. -/
def rootedArguments (d : Dialect) (t : TypeName) : String :=
  String.join (t.argumentParts.map d.rootedPart)

theorem writtenArguments_eq (d : Dialect) (t : TypeName) :
    d.writtenArguments t = replaceChar '.' d.separator (String.ofList (argumentsOf t.simple)) := by
  have hcut : t.argumentParts.flatten = argumentsOf t.simple := List.flatten_splitBy _ _
  rw [← hcut, replaceChar_ofList_flatten]
  rfl

/-- Separators are rewritten in the arguments as in what stands before them. -/
theorem shortName_eq_append (d : Dialect) (t : TypeName) :
    d.shortName t = d.shortName t.bare ++ d.writtenArguments t := by
  rw [writtenArguments_eq, shortName, shortName, ← replaceChar_append, ← t.simple_eq_append]

theorem qualify_eq_append (d : Dialect) (t : TypeName) :
    d.qualify t = d.qualify t.bare ++ d.writtenArguments t := by
  rw [writtenArguments_eq, qualify, qualify, String.append_assoc, ← replaceChar_append,
    ← t.qualified_eq_append]

theorem qualify_of_path? (d : Dialect) (hpart : part ∈ t.argumentParts) {path : TypeName}
    (h : path? part = some path) : d.qualify path = d.root ++ d.writtenPart part := by
  rw [qualify, TypeName.qualified_of_path? hpart h, writtenPart]

theorem rootedPart_of_none (d : Dialect) (h : path? part = none) :
    d.rootedPart part = d.writtenPart part := by
  rw [rootedPart, h, Option.map_none, Option.getD_none]

theorem rootedPart_of_some (d : Dialect) (hpart : part ∈ t.argumentParts) {path : TypeName}
    (h : path? part = some path) : d.rootedPart part = d.root ++ d.writtenPart part := by
  rw [rootedPart, h, Option.map_some, Option.getD_some, d.qualify_of_path? hpart h]

private theorem length_join_rootedPart (d : Dialect) {parts : List (List Char)}
    (hparts : ∀ part ∈ parts, part ∈ t.argumentParts) :
    (String.join (parts.map d.rootedPart)).length =
      (String.join (parts.map d.writtenPart)).length +
        d.root.length * (parts.filterMap path?).length := by
  induction parts with
  | nil => rfl
  | cons part parts ih =>
    obtain ⟨hpart, hrest⟩ := List.forall_mem_cons.mp hparts
    simp only [List.map_cons, String.join_cons, String.length_append, ih hrest]
    cases hpath : path? part with
    | none =>
      rw [d.rootedPart_of_none hpath, List.filterMap_cons_none hpath, Nat.add_assoc]
    | some path =>
      rw [d.rootedPart_of_some hpart hpath, List.filterMap_cons_some hpath, String.length_append,
        List.length_cons, Nat.mul_succ]
      omega

/-- Arguments are longer by a root for each of their paths if the paths are written as by
themselves. -/
theorem length_rootedArguments (d : Dialect) (t : TypeName) :
    (d.rootedArguments t).length =
      (d.writtenArguments t).length + d.root.length * t.argumentPaths.length :=
  d.length_join_rootedPart fun _ hpart => hpart

theorem writtenArguments_eq_rootedArguments_iff (d : Dialect) (t : TypeName) :
    d.writtenArguments t = d.rootedArguments t ↔ d.root = "" ∨ t.argumentPaths = [] := by
  constructor
  · intro h
    have hlength := d.length_rootedArguments t
    rw [← h, Nat.left_eq_add, Nat.mul_eq_zero] at hlength
    exact hlength.imp String.length_eq_zero_iff.mp List.length_eq_zero_iff.mp
  · intro h
    refine congrArg String.join (List.map_congr_left fun part hpart => ?_)
    cases hpath : path? part with
    | none => exact (d.rootedPart_of_none hpath).symm
    | some path =>
      have hmem : path ∈ t.argumentPaths := List.mem_filterMap.mpr ⟨part, hpart, hpath⟩
      rcases h with hroot | hnone
      · rw [d.rootedPart_of_some hpart hpath, hroot, String.empty_append]
      · exact absurd hmem (hnone ▸ List.not_mem_nil)

/-- Short and qualified names go on to their generic arguments alike, in which paths are spelled without
the root that each has by itself. So the arguments are as they should be only in a dialect without a
root or if there are no paths among them. -/
theorem argumentPaths_rooted_iff (d : Dialect) (t : TypeName) :
    d.shortName t = d.shortName t.bare ++ d.writtenArguments t ∧
      d.qualify t = d.qualify t.bare ++ d.writtenArguments t ∧
      (∀ part ∈ t.argumentParts, ∀ path, path? part = some path →
        d.qualify path = d.root ++ d.writtenPart part) ∧
      (d.shortName t = d.shortName t.bare ++ d.rootedArguments t ↔
        d.root = "" ∨ t.argumentPaths = []) ∧
      (d.qualify t = d.qualify t.bare ++ d.rootedArguments t ↔
        d.root = "" ∨ t.argumentPaths = []) := by
  have hrooted := d.writtenArguments_eq_rootedArguments_iff t
  have hshort := d.shortName_eq_append t
  have hqualify := d.qualify_eq_append t
  refine ⟨hshort, hqualify, fun part hpart path h => d.qualify_of_path? hpart h, ?_, ?_⟩
  · rw [hshort, ← hrooted, String.append_right_inj]
  · rw [hqualify, ← hrooted, String.append_right_inj]

end Dialect

/-- A name without paths among its arguments. -/
def plainStock : TypeName := ⟨"Shop", "Map<Key, List<Order>>"⟩

/-- A name with paths at two depths of its arguments. -/
def sharedStock : TypeName := ⟨"Shop", "Map<Core.Key, List<Core.Order>>"⟩

theorem plainStock_rooted :
    plainStock.argumentPaths = [] ∧
      Dialect.extensionTrait.qualify plainStock =
        Dialect.extensionTrait.qualify plainStock.bare ++
          Dialect.extensionTrait.rootedArguments plainStock ∧
      Dialect.partialClass.shortName sharedStock =
        Dialect.partialClass.shortName sharedStock.bare ++
          Dialect.partialClass.rootedArguments sharedStock := by
  have hnone : plainStock.argumentPaths = [] := by decide +kernel
  obtain ⟨-, -, -, -, hqualify⟩ := Dialect.extensionTrait.argumentPaths_rooted_iff plainStock
  obtain ⟨-, -, -, hshort, -⟩ := Dialect.partialClass.argumentPaths_rooted_iff sharedStock
  exact ⟨hnone, hqualify.mpr (.inr hnone), hshort.mpr (.inl rfl)⟩

/-- The paths among the arguments are without the root that they have by themselves. -/
theorem sharedStock_unrooted :
    TypeName.parse? "Shop.Map<Core.Key, List<Core.Order>>" = some sharedStock ∧
      sharedStock.argumentPaths = [⟨"Core", "Key"⟩, ⟨"Core", "Order"⟩] ∧
      Dialect.extensionTrait.qualify ⟨"Core", "Order"⟩ = "crate::Core::Order" ∧
      Dialect.extensionTrait.rootedArguments sharedStock =
        "<crate::Core::Key, List<crate::Core::Order>>" ∧
      Dialect.extensionTrait.shortName sharedStock = "Map<Core::Key, List<Core::Order>>" ∧
      Dialect.extensionTrait.qualify sharedStock =
        "crate::Shop::Map<Core::Key, List<Core::Order>>" := by
  decide +kernel

end ServiceWiring
