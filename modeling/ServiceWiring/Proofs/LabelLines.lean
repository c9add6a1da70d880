import ServiceWiring.Dialect.Render
import ServiceWiring.Proofs.Text.Line
import ServiceWiring.Proofs.Text.Literal

/-! Labels in an extension trait. A label is written as a literal in a line of its own. The text
around that line does not depend on what the label says, whatever characters it has. -/
namespace ServiceWiring
open ServiceWiring.Text

def Block.unlabelled (b : Block) : Block := { b with label := b.label.map fun _ => "" }

def Group.unlabelled (g : Group) : Group := { g with blocks := g.blocks.map Block.unlabelled }

/-- The document with empty labels in place of those that it has. -/
def Document.unlabelled (d : Document) : Document :=
  { d with groups := d.groups.map Group.unlabelled }

/-- A place for a label: the bindings under it, and the blocks and groups around them. -/
structure LabelPlace where
  before : List Group
  name : String
  above : List Block
  bindings : List Binding
  below : List Block
  after : List Group

def LabelPlace.groups (p : LabelPlace) (label : String) : List Group :=
  p.before ++ ⟨p.name, p.above ++ ⟨some label, p.bindings⟩ :: p.below⟩ :: p.after

/-- The document with a label at a place. -/
def Document.labelledAt (d : Document) (p : LabelPlace) (label : String) : Document :=
  { d with groups := p.groups label }

namespace ExtensionTrait
open Dialect (indentation)

/-- The line of a feature that a literal names. -/
def featureLine (literal : String) : Line := ⟨3, "#[cfg(feature = " ++ literal ++ ")]"⟩

theorem block_some (label : String) (bs : List Binding) :
    block ⟨some label, bs⟩ =
      featureLine (Quoted.encode label) ::
        ⟨3, "\x7b"⟩ :: (bs.map (binding 4) ++ [⟨3, "\x7d"⟩]) := rfl

example : block ⟨some "\")]\n\\", []⟩ =
    [⟨3, "#[cfg(feature = \"\\\")]\\n\\\\\")]"⟩, ⟨3, "\x7b"⟩, ⟨3, "\x7d"⟩] := by decide +kernel

/-- Literals that name features in the same line are the same. -/
theorem featureLine_injective : Function.Injective featureLine := by
  intro a b h
  have htext := congrArg (fun line : Line => line.text.toList) h
  simp only [featureLine, String.toList_append] at htext
  have hliterals := List.append_cancel_left (List.append_cancel_right htext)
  exact String.toList_injective hliterals

theorem height_featureLine (label : String) :
    (featureLine (Quoted.encode label)).height indentation = 1 := by
  have hline : SingleLine (featureLine (Quoted.encode label)).text := by
    simp [featureLine, SingleLine, Quoted.newline_not_mem_encode]
  exact Line.height_eq_one (by decide) hline

theorem heights_block (b : Block) :
    (block b.unlabelled).map (Line.height indentation) =
      (block b).map (Line.height indentation) := by
  obtain ⟨label, bindings⟩ := b
  cases label with
  | none => rfl
  | some label =>
    simp only [Block.unlabelled, Option.map_some, block_some, List.map_cons, height_featureLine]

theorem heights_group (g : Group) :
    (group g.unlabelled).map (Line.height indentation) =
      (group g).map (Line.height indentation) := by
  simp only [group, Group.unlabelled, List.map_append, List.map_cons, List.map_flatMap,
    List.flatMap_map, heights_block]

theorem heights_lines (d : Document) (s : Scaffold) :
    (lines d.unlabelled s).map (Line.height indentation) =
      (lines d s).map (Line.height indentation) := by
  have hopening : opening d.unlabelled s = opening d s := rfl
  rw [lines, hopening]
  simp only [lines, Document.unlabelled, List.map_append, List.map_flatMap, List.flatMap_map,
    heights_group]

/-- A text has as many lines as it would have with empty labels. -/
theorem lineCount_unlabelled (d : Document) (s : Scaffold) :
    lineCount (Dialect.extensionTrait.render d.unlabelled s) =
      lineCount (Dialect.extensionTrait.render d s) :=
  Line.lineCount_renderAll_congr (heights_lines d s)

/-- The lines before the one of a label. -/
def linesAbove (d : Document) (s : Scaffold) (p : LabelPlace) : List Line :=
  opening d s ++ p.before.flatMap group ++ ⟨3, "// region: " ++ p.name⟩ :: p.above.flatMap block

/-- The lines behind the one of a label. -/
def linesBelow (s : Scaffold) (p : LabelPlace) : List Line :=
  ⟨3, "\x7b"⟩ :: (p.bindings.map (binding 4) ++ [⟨3, "\x7d"⟩]) ++ p.below.flatMap block ++
    [⟨3, "// endregion"⟩] ++ p.after.flatMap group ++ closing s

theorem lines_labelledAt (d : Document) (s : Scaffold) (p : LabelPlace) (label : String) :
    lines (d.labelledAt p label) s =
      linesAbove d s p ++ featureLine (Quoted.encode label) :: linesBelow s p := by
  have hopening : opening (d.labelledAt p label) s = opening d s := rfl
  rw [lines, hopening]
  simp [Document.labelledAt, LabelPlace.groups, group, block_some, linesAbove, linesBelow]

/-- What stands before a label ends in a line feed and is, like what stands behind, the same for
every label. -/
theorem exists_render_labelledAt (d : Document) (s : Scaffold) (p : LabelPlace) :
    ∃ head tail, ∀ label,
      Dialect.extensionTrait.render (d.labelledAt p label) s =
        head ++ "\n" ++ (featureLine (Quoted.encode label)).render indentation ++ tail := by
  have hne : linesAbove d s p ≠ [] := by simp [linesAbove]
  obtain ⟨head, hhead⟩ := Line.exists_renderAll indentation hne
  refine ⟨head, Line.renderAll indentation (linesBelow s p), fun label => ?_⟩
  rw [← hhead, Dialect.render, Dialect.lines, lines_labelledAt, Line.renderAll_append,
    Line.renderAll_cons, String.append_assoc]

/-- Whatever a label says, it is said in one line, by one literal that stands for it, and the text
before and behind that line is the same for all labels. Labels that differ have lines that differ, and
documents that differ in what their labels say have texts of as many lines. -/
theorem labels_confined (d : Document) (s : Scaffold) :
    (∀ p : LabelPlace, ∃ head tail, ∀ label, ∃ literal, Quoted.IsLiteral literal label ∧
      Dialect.extensionTrait.render (d.labelledAt p label) s =
        head ++ "\n" ++ "            #[cfg(feature = " ++ literal ++ ")]\n" ++ tail) ∧
      (∀ label other, featureLine (Quoted.encode label) = featureLine (Quoted.encode other) ↔
        label = other) ∧
      ∀ e : Document, e.unlabelled = d.unlabelled →
        lineCount (Dialect.extensionTrait.render e s) =
          lineCount (Dialect.extensionTrait.render d s) := by
  refine ⟨fun p => ?_, fun label other => ?_, fun e he => ?_⟩
  · obtain ⟨head, tail, htext⟩ := exists_render_labelledAt d s p
    refine ⟨head, tail, fun label => ⟨_, Quoted.isLiteral_encode label, ?_⟩⟩
    have hline : (featureLine (Quoted.encode label)).render indentation =
        "            #[cfg(feature = " ++ Quoted.encode label ++ ")]\n" := by
      apply String.toList_injective
      simp [Line.render, featureLine, indentation]
    rw [htext, hline]
    simp only [String.append_assoc]
  · rw [featureLine_injective.eq_iff, Quoted.encode_injective.eq_iff]
  · rw [← lineCount_unlabelled e, he, lineCount_unlabelled]

/-- A document of one binding under a label. -/
def labelledStore (label : String) : Document :=
  ⟨"", "App", [], [⟨"App.Store", [⟨some label, [⟨.singleton, "IStore", "Store"⟩]⟩]⟩], ""⟩

/-- A label that would close its literal and its attribute, and go on in another line. -/
def escapingLabel : String := "\")]\n\\"

theorem escapingLabel_confined :
    (labelledStore escapingLabel).unlabelled = (labelledStore "DEBUG").unlabelled ∧
      lineCount (Dialect.extensionTrait.render (labelledStore escapingLabel) .initial) =
        lineCount (Dialect.extensionTrait.render (labelledStore "DEBUG") .initial) := by
  have hsame : (labelledStore escapingLabel).unlabelled = (labelledStore "DEBUG").unlabelled := rfl
  obtain ⟨-, -, hcount⟩ := labels_confined (labelledStore "DEBUG") .initial
  exact ⟨hsame, hcount _ hsame⟩

end ExtensionTrait

end ServiceWiring
