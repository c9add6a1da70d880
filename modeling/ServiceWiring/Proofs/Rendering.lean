import ServiceWiring.Proofs.Grouping
import ServiceWiring.Proofs.Scanning
import ServiceWiring.Proofs.SingleLines

/-! The text of a document says what the document says: scanning it gives every binding under its
group and its label, and nothing else, in either dialect. -/
namespace ServiceWiring
open ServiceWiring.Text

/-- The statement that adds a binding to the container. -/
def PartialClass.addCall (b : Binding) : String :=
  "services.Add" ++ b.lifetime.name ++ "<" ++ b.service ++ ", " ++ b.implementation ++ ">();"

def ExtensionTrait.verb : Lifetime → String
  | .singleton => "singleton"
  | .scoped => "scoped"
  | .transient => "transient"

/-- The statement that adds a binding to the container. -/
def ExtensionTrait.addCall (b : Binding) : String :=
  "services.add_" ++ verb b.lifetime ++ "::<" ++ b.service ++ ", " ++ b.implementation ++ ">();"

def Dialect.addCall : Dialect → Binding → String
  | .partialClass => PartialClass.addCall
  | .extensionTrait => ExtensionTrait.addCall

def Block.statements (dialect : Dialect) (g : String) (b : Block) : List Statement :=
  b.bindings.map fun binding => ⟨g, b.label, dialect.addCall binding⟩

def Group.statements (dialect : Dialect) (g : Group) : List Statement :=
  g.blocks.flatMap (Block.statements dialect g.name)

/-- What the groups of a document come to, line by line. -/
def Document.statements (dialect : Dialect) (d : Document) : List Statement :=
  d.groups.flatMap (Group.statements dialect)

namespace Dialect
open Standing (outside inside)

/-- The sign that a line of generated text gives. -/
def signOf (dialect : Dialect) (s : Scaffold) (line : Line) : Sign :=
  dialect.sign s (line.chars indentation)

private theorem signOf_hookLine (dialect : Dialect) (s : Scaffold) :
    signOf dialect s (dialect.hookLine s) = .hookCall := by
  rw [signOf, sign, if_pos rfl]

private theorem chars_indentation (line : Line) :
    line.chars indentation = List.replicate (4 * line.depth) ' ' ++ line.text.toList := by
  have hunit : indentation.toList = List.replicate 4 ' ' := by simp [indentation]
  have hunits (n : Nat) :
      (List.replicate n indentation).flatMap String.toList = List.replicate (4 * n) ' ' := by
    induction n with
    | zero => rfl
    | succ n ih =>
      rw [List.replicate_succ, List.flatMap_cons, ih, hunit, List.replicate_append_replicate,
        Nat.mul_succ, Nat.add_comm]
  rw [Line.chars, hunits]

/-- The text does not look further indented than its line is. -/
def Unindented (text : String) : Prop := text.toList.head? ≠ some ' '

instance (text : String) : Decidable (Unindented text) := inferInstanceAs (Decidable (_ ≠ _))

/-- Indentation is dropped whatever its depth. -/
theorem dropWhile_chars {line : Line} (h : Unindented line.text) :
    (line.chars indentation).dropWhile (· == ' ') = line.text.toList := by
  rw [chars_indentation, List.dropWhile_append_of_pos fun d hd => by
    simp [List.eq_of_mem_replicate hd]]
  unfold Unindented at h
  cases htext : line.text.toList with
  | nil => rfl
  | cons c cs =>
    have hc : c ≠ ' ' := fun e => h (by rw [htext, e]; rfl)
    simp [hc]

private theorem exists_cons_of_apart {start : List Char} (h : apart [' '] start = true) :
    ∃ c cs, start = c :: cs ∧ c ≠ ' ' := by
  cases start with
  | nil => cases h
  | cons c cs =>
    refine ⟨c, cs, rfl, fun e => ?_⟩
    simp [apart, e] at h

/-- A text that begins with no space has all of its indentation before it. -/
theorem unindented_append {start : String} (h : apart [' '] start.toList = true) (rest : String) :
    Unindented (start ++ rest) := by
  obtain ⟨c, cs, hcs, hc⟩ := exists_cons_of_apart h
  simpa [Unindented, hcs] using hc

private theorem dropWhile_chars_append {depth : Nat} {start rest : String}
    (hspace : apart [' '] start.toList = true) :
    (Line.chars indentation ⟨depth, start ++ rest⟩).dropWhile (· == ' ') =
      start.toList ++ rest.toList := by
  rw [← String.toList_append]
  exact dropWhile_chars (unindented_append hspace rest)

theorem marks_apart : ∀ dialect : Dialect, LineMark.Apart dialect.marks
  | .partialClass => PartialClass.marks_apart
  | .extensionTrait => ExtensionTrait.marks_apart

theorem marks_unindented (dialect : Dialect) :
    ∀ m ∈ dialect.marks, apart [' '] m.start.toList = true := by
  cases dialect <;> decide

theorem sign_nil (dialect : Dialect) (s : Scaffold) : dialect.sign s [] = .blank := by
  have hne : [] ≠ (dialect.hookLine s).chars indentation := by
    cases dialect <;>
      simp [hookLine, PartialClass.hookLine, ExtensionTrait.hookLine, chars_indentation]
  rw [sign, if_neg hne]
  rfl

theorem signOf_blank (dialect : Dialect) (s : Scaffold) : signOf dialect s .blank = .blank := by
  have hchars : Line.blank.chars indentation = [] := by simp [chars_indentation, Line.blank]
  rw [signOf, hchars, sign_nil]

section Plain
variable {dialect : Dialect} {s : Scaffold} {depth : Nat}

/-- A line that is not the call of the hook gives the sign of the mark that it begins with. -/
theorem signOf_mark {m : LineMark} (hm : m ∈ dialect.marks) {rest : String} {sign : Sign}
    (hread : m.read rest.toList = some sign)
    (hne : Line.chars indentation ⟨depth, m.start ++ rest⟩ ≠
      (dialect.hookLine s).chars indentation) :
    signOf dialect s ⟨depth, m.start ++ rest⟩ = sign := by
  have hspace := dialect.marks_unindented m hm
  obtain ⟨c, cs, hcs, -⟩ := exists_cons_of_apart hspace
  rw [signOf, Dialect.sign, if_neg hne, dropWhile_chars_append hspace]
  exact LineMark.signOf_of_mem dialect.marks_apart hm (by simp [hcs]) hread

theorem signOf_alone {start : String} {sign : Sign}
    (hm : LineMark.alone start sign ∈ dialect.marks)
    (hne : Line.chars indentation ⟨depth, start ++ ""⟩ ≠
      (dialect.hookLine s).chars indentation) : signOf dialect s ⟨depth, start⟩ = sign := by
  have hsign := signOf_mark hm
    (show (LineMark.alone start sign).read "".toList = some sign by simp [LineMark.alone]) hne
  rwa [String.append_empty] at hsign

theorem signOf_other {start : String} (hspace : apart [' '] start.toList = true)
    (h : ∀ m ∈ dialect.marks, apart m.start.toList start.toList = true) {rest : String}
    (hne : Line.chars indentation ⟨depth, start ++ rest⟩ ≠
      (dialect.hookLine s).chars indentation) :
    signOf dialect s ⟨depth, start ++ rest⟩ = .other := by
  obtain ⟨c, cs, hcs, -⟩ := exists_cons_of_apart hspace
  rw [signOf, sign, if_neg hne, dropWhile_chars_append hspace]
  exact LineMark.signOf_of_apart (by simp [hcs]) h rest.toList

end Plain

/-- The bindings of a block are read where the reader stands. -/
private theorem run_bindings {dialect : Dialect} {s : Scaffold} {standing : Standing} {g : String}
    {l : Option String} {line : Binding → Line}
    (hline : ∀ b, signOf dialect s (line b) = .statement (dialect.addCall b))
    (h : ∀ text, standing.advance (.statement text) = some (standing, [⟨g, l, text⟩]))
    (bs : List Binding) :
    standing.run ((bs.map line).map (signOf dialect s)) =
      some (standing, bs.map fun b => ⟨g, l, dialect.addCall b⟩) := by
  have hrun := Standing.run_statements h (bs.map dialect.addCall)
  simpa [Function.comp_def, hline] using hrun

private theorem run_blocks {dialect : Dialect} {s : Scaffold} {g : String}
    {lines : Block → List Line}
    (h : ∀ b, (inside g).run ((lines b).map (signOf dialect s)) =
      some (inside g, b.statements dialect g)) (bs : List Block) :
    (inside g).run ((bs.flatMap lines).map (signOf dialect s)) =
      some (inside g, bs.flatMap (Block.statements dialect g)) := by
  rw [List.map_flatMap]
  exact Standing.run_flatMap fun b _ => h b

end Dialect

namespace PartialClass
open Dialect (signOf indentation)
open Standing (outside inside within)

private theorem binding_eq (b : Binding) : binding b = ⟨2, addCall b⟩ := rfl

/-- The call of the hook is indented more deeply than the lines around the bindings. -/
private theorem chars_ne_hookLine (s : Scaffold) {depth : Nat} (hdepth : depth < 2)
    {start : String} (hspace : apart [' '] start.toList = true) (rest : String) :
    Line.chars indentation ⟨depth, start ++ rest⟩ ≠ (hookLine s).chars indentation := by
  obtain ⟨c, cs, hcs, hc⟩ := Dialect.exists_cons_of_apart hspace
  obtain ⟨n, hn⟩ : ∃ n, 8 = 4 * depth + (n + 1) := ⟨7 - 4 * depth, by omega⟩
  simp only [Dialect.chars_indentation, hookLine, Nat.reduceMul]
  rw [hn, ← List.replicate_append_replicate, List.append_assoc]
  intro e
  have htext := List.append_cancel_left e
  rw [String.toList_append, hcs, List.replicate_succ] at htext
  exact hc (List.cons.inj htext).1

/-- The call of the hook ends otherwise than a statement. -/
private theorem addCall_ne_hookLine (s : Scaffold) (call : String) :
    Line.chars indentation ⟨2, call ++ ">();"⟩ ≠ (hookLine s).chars indentation := by
  intro e
  rw [Dialect.chars_indentation, Dialect.chars_indentation] at e
  have htext := List.append_cancel_left e
  have hhook : (hookLine s).text.toList = (s.hook ++ "(servic").toList ++ "es);".toList := by
    simp [hookLine]
  rw [hhook, String.toList_append] at htext
  have hend := List.append_inj_right' htext (by simp)
  simp at hend

theorem signOf_binding (s : Scaffold) (b : Binding) :
    signOf .partialClass s (binding b) = .statement (addCall b) := by
  let call := b.lifetime.name ++ "<" ++ b.service ++ ", " ++ b.implementation
  have hcall : addCall b = callMark.start ++ (call ++ ">();") := by
    unfold addCall
    simp only [call, callMark, String.append_assoc]
  have hne := addCall_ne_hookLine s (callMark.start ++ call)
  rw [String.append_assoc] at hne
  rw [binding_eq, hcall]
  exact Dialect.signOf_mark (show callMark ∈ marks by simp [marks])
    (by simp only [callMark, String.ofList_toList]) hne

private theorem signOf_region (s : Scaffold) (name : String) :
    signOf .partialClass s ⟨1, "#region " ++ name⟩ = .region name :=
  @Dialect.signOf_mark .partialClass s 1 regionMark List.mem_cons_self name _
    (by simp only [regionMark, String.ofList_toList])
    (chars_ne_hookLine s (by decide) (by decide) name)

private theorem signOf_endRegion (s : Scaffold) :
    signOf .partialClass s ⟨1, "#endregion"⟩ = .endRegion :=
  Dialect.signOf_alone (by simp [Dialect.marks, marks])
    (chars_ne_hookLine s (by decide) (by decide) "")

private theorem signOf_condition (s : Scaffold) (label : String) :
    signOf .partialClass s ⟨1, "#if " ++ label⟩ = .condition label :=
  @Dialect.signOf_mark .partialClass s 1 conditionMark (by simp [Dialect.marks, marks]) label _
    (by simp only [conditionMark, String.ofList_toList])
    (chars_ne_hookLine s (by decide) (by decide) label)

private theorem signOf_endCondition (s : Scaffold) :
    signOf .partialClass s ⟨1, "#endif"⟩ = .endCondition :=
  Dialect.signOf_alone (by simp [Dialect.marks, marks])
    (chars_ne_hookLine s (by decide) (by decide) "")

/-- A line around the bindings that begins with no mark. -/
private theorem signOf_other (s : Scaffold) {depth : Nat} (hdepth : depth < 2) {start : String}
    (hspace : apart [' '] start.toList = true)
    (h : ∀ m ∈ marks, apart m.start.toList start.toList = true) (rest : String) :
    signOf .partialClass s ⟨depth, start ++ rest⟩ = .other :=
  @Dialect.signOf_other .partialClass s depth start hspace h rest
    (chars_ne_hookLine s hdepth hspace rest)

private theorem signOf_closed (s : Scaffold) {depth : Nat} (hdepth : depth < 2) {text : String}
    (hspace : apart [' '] text.toList = true)
    (h : ∀ m ∈ marks, apart m.start.toList text.toList = true) :
    signOf .partialClass s ⟨depth, text⟩ = .other := by
  have hsign := signOf_other s hdepth hspace h ""
  rwa [String.append_empty] at hsign

theorem run_block (s : Scaffold) (g : String) (b : Block) :
    (inside g).run ((block b).map (signOf .partialClass s)) =
      some (inside g, b.statements .partialClass g) := by
  cases hlabel : b.label with
  | none =>
    have hrun := Dialect.run_bindings (signOf_binding s) (fun _ => rfl : ∀ text,
      (inside g).advance (.statement text) = some (inside g, [⟨g, none, text⟩])) b.bindings
    simpa only [block, Block.statements, hlabel] using hrun
  | some l =>
    have hbindings := Dialect.run_bindings (signOf_binding s) (fun _ => rfl : ∀ text,
      (within g l).advance (.statement text) = some (within g l, [⟨g, some l, text⟩])) b.bindings
    have hclosed := Standing.run_append hbindings
      (rfl : (within g l).run [.endCondition, .blank] = some (inside g, []))
    have hblock := Standing.run_cons
      (rfl : (inside g).advance (.condition l) = some (within g l, [])) hclosed
    simpa [block, Block.statements, hlabel, signOf_condition, signOf_endCondition,
      Dialect.signOf_blank] using hblock

theorem run_group (s : Scaffold) (g : Group) :
    outside.run ((group g).map (signOf .partialClass s)) =
      some (outside, g.statements .partialClass) := by
  have hclosed := Standing.run_append (Dialect.run_blocks (run_block s g.name) g.blocks)
    (rfl : (inside g.name).run [.endRegion, .blank] = some (outside, []))
  have hgroup := Standing.run_cons
    (rfl : outside.advance (.region g.name) = some (inside g.name, [])) hclosed
  simpa [group, Group.statements, signOf_region, signOf_endRegion, Dialect.signOf_blank]
    using hgroup

theorem isScaffold_opening (d : Document) (s : Scaffold) :
    ∀ line ∈ opening d s, (signOf .partialClass s line).isScaffold = true := by
  simp (disch := decide) [opening, String.append_assoc, signOf_other, signOf_closed,
    Dialect.signOf_blank, Sign.isScaffold, or_imp, forall_and]

theorem signs_closing (s : Scaffold) :
    (closing s).map (signOf .partialClass s) = [.blank, .hookCall, .other, .other] := by
  have hlines : closing s =
      [.blank, Dialect.hookLine s .partialClass, ⟨1, "\x7d"⟩, ⟨0, "\x7d"⟩] := rfl
  simp (disch := decide) [hlines, Dialect.signOf_hookLine, signOf_closed, Dialect.signOf_blank]

end PartialClass

namespace ExtensionTrait
open Dialect (signOf indentation)
open Standing (outside inside announced within)

private theorem convert_name (l : Lifetime) : SnakeCase.convert l.name = verb l := by
  cases l <;> decide +kernel

private theorem binding_eq (depth : Nat) (b : Binding) : binding depth b = ⟨depth, addCall b⟩ := by
  rw [binding, convert_name]
  rfl

/-- The hook is called through its parent module. -/
private theorem chars_ne_hookLine (s : Scaffold) {depth : Nat} {start : String}
    (hspace : apart [' '] start.toList = true)
    (hsuper : apart "super::".toList start.toList = true) (rest : String) :
    Line.chars indentation ⟨depth, start ++ rest⟩ ≠ (hookLine s).chars indentation := by
  intro e
  have htext := congrArg (List.dropWhile (· == ' ')) e
  rw [Dialect.dropWhile_chars_append hspace, hookLine, String.append_assoc,
    Dialect.dropWhile_chars_append (by decide)] at htext
  have hbehind := behind?_of_apart hsuper rest.toList
  rw [htext, behind?_append] at hbehind
  cases hbehind

theorem signOf_binding (s : Scaffold) (depth : Nat) (b : Binding) :
    signOf .extensionTrait s (binding depth b) = .statement (addCall b) := by
  let call := verb b.lifetime ++ "::<" ++ b.service ++ ", " ++ b.implementation ++ ">();"
  have hcall : addCall b = callMark.start ++ call := by
    unfold addCall
    simp only [call, callMark, String.append_assoc]
  rw [binding_eq, hcall]
  exact Dialect.signOf_mark (show callMark ∈ marks by simp [marks])
    (by simp only [callMark, String.ofList_toList])
    (chars_ne_hookLine s (by decide) (by decide) call)

private theorem signOf_region (s : Scaffold) (name : String) :
    signOf .extensionTrait s ⟨3, "// region: " ++ name⟩ = .region name :=
  @Dialect.signOf_mark .extensionTrait s 3 regionMark List.mem_cons_self name _
    (by simp only [regionMark, String.ofList_toList])
    (chars_ne_hookLine s (by decide) (by decide) name)

private theorem signOf_endRegion (s : Scaffold) :
    signOf .extensionTrait s ⟨3, "// endregion"⟩ = .endRegion :=
  Dialect.signOf_alone (by simp [Dialect.marks, marks])
    (chars_ne_hookLine s (by decide) (by decide) "")

private theorem signOf_attribute (s : Scaffold) (label : String) :
    signOf .extensionTrait s ⟨3, "#[cfg(feature = " ++ Quoted.encode label ++ ")]"⟩ =
      .attribute label := by
  have hread : attributeMark.read (Quoted.encode label ++ ")]").toList =
      some (.attribute label) := by
    simp only [attributeMark, labelOfRest?_encode, Option.map_some]
  rw [String.append_assoc]
  exact @Dialect.signOf_mark .extensionTrait s 3 attributeMark (by simp [Dialect.marks, marks]) _ _
    hread (chars_ne_hookLine s (by decide) (by decide) _)

private theorem signOf_opening (s : Scaffold) :
    signOf .extensionTrait s ⟨3, "\x7b"⟩ = .opening :=
  Dialect.signOf_alone (by simp [Dialect.marks, marks])
    (chars_ne_hookLine s (by decide) (by decide) "")

private theorem signOf_closing (s : Scaffold) (depth : Nat) :
    signOf .extensionTrait s ⟨depth, "\x7d"⟩ = .closing :=
  Dialect.signOf_alone (by simp [Dialect.marks, marks])
    (chars_ne_hookLine s (by decide) (by decide) "")

/-- A line around the bindings that begins with no mark. -/
private theorem signOf_other (s : Scaffold) {depth : Nat} {start : String}
    (hspace : apart [' '] start.toList = true)
    (hsuper : apart "super::".toList start.toList = true)
    (h : ∀ m ∈ marks, apart m.start.toList start.toList = true) (rest : String) :
    signOf .extensionTrait s ⟨depth, start ++ rest⟩ = .other :=
  @Dialect.signOf_other .extensionTrait s depth start hspace h rest
    (chars_ne_hookLine s hspace hsuper rest)

private theorem signOf_closed (s : Scaffold) {depth : Nat} {text : String}
    (hspace : apart [' '] text.toList = true)
    (hsuper : apart "super::".toList text.toList = true)
    (h : ∀ m ∈ marks, apart m.start.toList text.toList = true) :
    signOf .extensionTrait s ⟨depth, text⟩ = .other := by
  have hsign := @signOf_other s depth text hspace hsuper h ""
  rwa [String.append_empty] at hsign

theorem run_block (s : Scaffold) (g : String) (b : Block) :
    (inside g).run ((block b).map (signOf .extensionTrait s)) =
      some (inside g, b.statements .extensionTrait g) := by
  cases hlabel : b.label with
  | none =>
    have hrun := Dialect.run_bindings (signOf_binding s 3) (fun _ => rfl : ∀ text,
      (inside g).advance (.statement text) = some (inside g, [⟨g, none, text⟩])) b.bindings
    simpa only [block, Block.statements, hlabel] using hrun
  | some l =>
    have hbindings := Dialect.run_bindings (signOf_binding s 4) (fun _ => rfl : ∀ text,
      (within g l).advance (.statement text) = some (within g l, [⟨g, some l, text⟩])) b.bindings
    have hclosed := Standing.run_append hbindings
      (rfl : (within g l).run [.closing] = some (inside g, []))
    have hblock := Standing.run_append
      (rfl : (inside g).run [.attribute l, .opening] = some (within g l, [])) hclosed
    simpa [block, Block.statements, hlabel, signOf_attribute, signOf_opening, signOf_closing]
      using hblock

theorem run_group (s : Scaffold) (g : Group) :
    outside.run ((group g).map (signOf .extensionTrait s)) =
      some (outside, g.statements .extensionTrait) := by
  have hclosed := Standing.run_append (Dialect.run_blocks (run_block s g.name) g.blocks)
    (rfl : (inside g.name).run [.endRegion] = some (outside, []))
  have hgroup := Standing.run_cons
    (rfl : outside.advance (.region g.name) = some (inside g.name, [])) hclosed
  simpa [group, Group.statements, signOf_region, signOf_endRegion] using hgroup

theorem isScaffold_opening (d : Document) (s : Scaffold) :
    ∀ line ∈ opening d s, (signOf .extensionTrait s line).isScaffold = true := by
  simp (disch := decide) [opening, String.append_assoc, signOf_other, signOf_closed,
    signOf_closing, Dialect.signOf_blank, Sign.isScaffold, or_imp, forall_and]

theorem signs_closing (s : Scaffold) :
    (closing s).map (signOf .extensionTrait s) =
      [.blank, .hookCall, .closing, .closing, .closing] := by
  have hlines : closing s = [.blank, Dialect.hookLine s .extensionTrait, ⟨2, "\x7d"⟩,
      ⟨1, "\x7d"⟩, ⟨0, "\x7d"⟩] := rfl
  simp [hlines, Dialect.signOf_hookLine, signOf_closing, Dialect.signOf_blank]

end ExtensionTrait

open Standing (outside) in
/-- Groups between scaffold and the call of the hook are read as their statements. -/
private theorem scan_renderAll {dialect : Dialect} {s : Scaffold} {before after : List Line}
    {group : Group → List Line} {groups : List Group} {rest : List Sign}
    (hbefore : ∀ line ∈ before, (dialect.signOf s line).isScaffold = true)
    (hgroup : ∀ g, outside.run ((group g).map (dialect.signOf s)) =
      some (outside, g.statements dialect))
    (hafter : after.map (dialect.signOf s) = .blank :: .hookCall :: rest)
    (hrest : ∀ sign ∈ rest, sign.isScaffold = true)
    (hlines : ∀ line ∈ before ++ groups.flatMap group ++ after, SingleLine line.text) :
    dialect.scan s (Line.renderAll Dialect.indentation (before ++ groups.flatMap group ++ after)) =
      some (groups.flatMap (Group.statements dialect)) := by
  have hpieces := Line.pieces_renderAll (by decide : SingleLine Dialect.indentation) hlines
  have hopening : outside.run (before.map (dialect.signOf s)) = some (outside, []) :=
    Standing.run_scaffold (List.forall_mem_map.mpr hbefore)
  have hgroups : outside.run ((groups.flatMap group).map (dialect.signOf s)) =
      some (outside, groups.flatMap (Group.statements dialect)) := by
    rw [List.map_flatMap]
    exact Standing.run_flatMap fun g _ => hgroup g
  have hblank : outside.run [.blank] = some (outside, []) := rfl
  have hrun := Standing.run_append (Standing.run_append hopening hgroups) hblank
  have hsigns : (pieces '\n' (Line.renderAll Dialect.indentation
      (before ++ groups.flatMap group ++ after)).toList).map (dialect.sign s) =
      (before.map (dialect.signOf s) ++ (groups.flatMap group).map (dialect.signOf s) ++
        [.blank]) ++ .hookCall :: (rest ++ [.blank]) := by
    have hmap (lines : List Line) : (lines.map (Line.chars Dialect.indentation)).map
        (dialect.sign s) = lines.map (dialect.signOf s) := by
      rw [List.map_map]
      rfl
    rw [hpieces, List.map_append, hmap, List.map_append, List.map_append, hafter]
    simp [Dialect.sign_nil]
  have hscaffold : ∀ sign ∈ rest ++ [.blank], sign.isScaffold = true :=
    List.forall_mem_append.mpr ⟨hrest, by decide⟩
  rw [Dialect.scan, hsigns, statementsOfSigns_eq hrun hscaffold]
  simp

/-- In either dialect, a document without line feeds in its names is read as its statements. -/
theorem Dialect.scan_render (dialect : Dialect) {d : Document} {s : Scaffold}
    (hspace : SingleLine d.space) (hs : s.SingleLines) (hd : d.SingleLines) :
    dialect.scan s (dialect.render d s) = some (d.statements dialect) := by
  have hlines := dialect.singleLine_lines hspace hs hd
  cases dialect with
  | partialClass =>
    exact scan_renderAll (PartialClass.isScaffold_opening d s) (PartialClass.run_group s)
      (PartialClass.signs_closing s) (by decide) hlines
  | extensionTrait =>
    exact scan_renderAll (ExtensionTrait.isScaffold_opening d s) (ExtensionTrait.run_group s)
      (ExtensionTrait.signs_closing s) (by decide) hlines

/-- The statement of a registration in the text of a dialect. -/
def statementOf (dialect : Dialect) (rs : List Registration) (r : Registration) : Statement :=
  let names := DisplayNames.ofTypes dialect (rs.flatMap Registration.types)
  ⟨r.group, r.label, dialect.addCall (bindingOf names r)⟩

/-- The statements of a document are those of its registrations, group by group and then label by
label. -/
theorem statements_outlineOf (dialect : Dialect) (s : Scaffold) (rs : List Registration) :
    (outlineOf dialect s rs).statements dialect = (regrouped rs).map (statementOf dialect rs) := by
  have hplace (g : String) (l : Option String) :
      (registrationsAt g l rs).map (statementOf dialect rs) = (registrationsAt g l rs).map fun r =>
        let names := DisplayNames.ofTypes dialect (rs.flatMap Registration.types)
        ⟨g, l, dialect.addCall (bindingOf names r)⟩ := by
    refine List.map_congr_left fun r hr => ?_
    obtain ⟨hr, hl⟩ := List.mem_filter.mp hr
    obtain ⟨-, hg⟩ := List.mem_filter.mp hr
    rw [statementOf, eq_of_beq hg, eq_of_beq hl]
  simp only [outlineOf, Document.statements, Group.statements, Block.statements, groupsOf_eq,
    groupsIn, blocksIn, regrouped, List.flatMap_map, List.map_flatMap, List.map_map, hplace]
  rfl

/-- The text of a document is read as the statements of the registrations that it binds. -/
theorem scan_of_emit {dialect : Dialect} {s : Scaffold} {rs : List Registration} {d : Document}
    (h : emit dialect s rs = some d) (hs : s.SingleLines) (hd : d.SingleLines) :
    dialect.scan s d.text = some (d.statements dialect) ∧
      d.statements dialect = (regrouped rs).map (statementOf dialect rs) := by
  cases rs with
  | nil => cases h
  | cons r rest =>
    obtain rfl := Option.some.inj h
    have houtline : (outlineOf dialect s (r :: rest)).SingleLines := hd
    exact ⟨dialect.scan_render hs.1 hs houtline, statements_outlineOf dialect s (r :: rest)⟩

/-- There is a line in every text. -/
theorem text_ne_empty_of_emit {dialect : Dialect} {s : Scaffold} {rs : List Registration}
    {d : Document} (h : emit dialect s rs = some d) : d.text ≠ "" := by
  cases rs with
  | nil => cases h
  | cons r rest =>
    obtain rfl := Option.some.inj h
    have hlines : dialect.lines (outlineOf dialect s (r :: rest)) s ≠ [] := by
      cases dialect <;>
        simp [Dialect.lines, PartialClass.lines, PartialClass.opening, ExtensionTrait.lines,
          ExtensionTrait.opening]
    obtain ⟨head, htext⟩ := Line.exists_renderAll Dialect.indentation hlines
    have hrender : dialect.render (outlineOf dialect s (r :: rest)) s = head ++ "\n" := htext
    intro hempty
    have hlist := congrArg String.toList (hrender.symm.trans hempty)
    simp at hlist

/-- The texts of registrations say the same in both dialects: scanned line by line, each gives every
registration once, as its own statement under its group and its label, in one order for both. -/
theorem emit_scanned {s : Scaffold} {rs : List Registration} (hrs : rs ≠ [])
    (hs : s.SingleLines) (hd : ∀ dialect d, emit dialect s rs = some d → d.SingleLines) :
    (regrouped rs).Perm rs ∧ ∀ dialect, ∃ d, emit dialect s rs = some d ∧
      dialect.scan s d.text = some (d.statements dialect) ∧
      d.statements dialect = (regrouped rs).map (statementOf dialect rs) := by
  refine ⟨regrouped_perm rs, fun dialect => ?_⟩
  obtain ⟨r, rest, rfl⟩ := List.exists_cons_of_ne_nil hrs
  have hemit : emit dialect s (r :: rest) = some { outlineOf dialect s (r :: rest) with
      text := dialect.render (outlineOf dialect s (r :: rest)) s } := rfl
  exact ⟨_, hemit, scan_of_emit hemit hs (hd dialect _ hemit)⟩

/-- Names that look like the marks of a text. -/
def strayScaffold : Scaffold :=
  { space := "Wiring"
    className := "#endregion"
    entryPoint := "Register\x7b"
    hook := "services.AddScoped<A, B>();"
    container := none }

def strayRegistrations : List Registration :=
  [⟨"#endregion", some "// endregion", ⟨"Shop", "Store"⟩, ⟨"Shop", "Store"⟩, .singleton⟩,
   ⟨"// region: A", some "\"\\)]", ⟨"Shop", "Store"⟩, ⟨"Depot", "Store"⟩, .scoped⟩,
   ⟨"#endregion", none, ⟨"Shop", "Clock"⟩, ⟨"Shop", "Clock"⟩, .transient⟩]

theorem strayRegistrations_scanned :
    ∃ d, emit .extensionTrait strayScaffold strayRegistrations = some d ∧
      Dialect.scan .extensionTrait strayScaffold d.text = some
        [⟨"#endregion", none, "services.add_transient::<Clock, Clock>();"⟩,
         ⟨"#endregion", some "// endregion",
          "services.add_singleton::<crate::Shop::Store, crate::Shop::Store>();"⟩,
         ⟨"// region: A", some "\"\\)]",
          "services.add_scoped::<crate::Shop::Store, crate::Depot::Store>();"⟩] := by
  have hdocuments : ∀ dialect d, emit dialect strayScaffold strayRegistrations = some d →
      d.SingleLines := by
    intro dialect d h
    obtain rfl := Option.some.inj h
    cases dialect <;> decide +kernel
  obtain ⟨d, hd, hscan, hstatements⟩ :=
    (emit_scanned (by decide) (by decide) hdocuments).2 .extensionTrait
  rw [hstatements] at hscan
  exact ⟨d, hd, hscan⟩

end ServiceWiring
