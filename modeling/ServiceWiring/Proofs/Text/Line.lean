import Mathlib.Data.List.Basic
import ServiceWiring.Proofs.Text.Pieces
import ServiceWiring.Text.Line

/-! Rendered lines, cut at their line feeds, come out as they went in. -/
namespace ServiceWiring.Text

/-- A text that is written in one line. -/
def SingleLine (s : String) : Prop := '\n' ∉ s.toList

instance (s : String) : Decidable (SingleLine s) := inferInstanceAs (Decidable (¬ _))

/-- How many lines a text has. What follows the last line feed counts as one, even if it is empty. -/
def lineCount (s : String) : Nat := (pieces '\n' s.toList).length

namespace Line

/-- What stands in a line, its indentation included. -/
def chars (unit : String) (line : Line) : List Char :=
  (List.replicate line.depth unit).flatMap String.toList ++ line.text.toList

theorem toList_render (unit : String) (line : Line) :
    (render unit line).toList = chars unit line ++ ['\n'] := by
  simp [render, chars, String.toList_join]

theorem renderAll_append (unit : String) (lines more : List Line) :
    renderAll unit (lines ++ more) = renderAll unit lines ++ renderAll unit more := by
  simp [renderAll, String.join_append]

theorem renderAll_cons (unit : String) (line : Line) (lines : List Line) :
    renderAll unit (line :: lines) = render unit line ++ renderAll unit lines := by
  simp [renderAll]

/-- The text of lines ends in a line feed. -/
theorem exists_renderAll (unit : String) {lines : List Line} (h : lines ≠ []) :
    ∃ head, renderAll unit lines = head ++ "\n" := by
  obtain ⟨before, last, rfl⟩ := List.eq_nil_or_concat' lines |>.resolve_left h
  refine ⟨renderAll unit before ++ (String.join (List.replicate last.depth unit) ++ last.text), ?_⟩
  rw [renderAll_append, renderAll_cons, render]
  simp [renderAll, String.append_assoc]

/-- A line feed in a line begins a further piece, and every line ends in a line feed. -/
theorem pieces_renderAll_eq (unit : String) (lines : List Line) :
    pieces '\n' (renderAll unit lines).toList =
      lines.flatMap (fun line => pieces '\n' (chars unit line)) ++ [[]] := by
  induction lines with
  | nil => rfl
  | cons line lines ih =>
    have hsplit : (renderAll unit (line :: lines)).toList =
        chars unit line ++ '\n' :: (renderAll unit lines).toList := by
      simp [renderAll, String.toList_join, toList_render]
    rw [hsplit, pieces_append_separator, ih, List.flatMap_cons, List.append_assoc]

/-- How many lines of the text a line takes. -/
def height (unit : String) (line : Line) : Nat := (pieces '\n' (chars unit line)).length

/-- Lines of the same heights make texts of as many lines. -/
theorem lineCount_renderAll_congr {unit : String} {lines more : List Line}
    (h : lines.map (height unit) = more.map (height unit)) :
    lineCount (renderAll unit lines) = lineCount (renderAll unit more) := by
  have hlength (ls : List Line) : (ls.flatMap fun line => pieces '\n' (chars unit line)).length =
      (ls.map (height unit)).sum := List.length_flatMap
  rw [lineCount, lineCount, pieces_renderAll_eq, pieces_renderAll_eq, List.length_append,
    List.length_append, hlength, hlength, h]

private theorem newline_not_mem_chars {unit : String} (hunit : SingleLine unit) {line : Line}
    (hline : SingleLine line.text) : '\n' ∉ chars unit line := by
  intro h
  rcases List.mem_append.mp h with h | h
  · obtain ⟨part, hpart, h⟩ := List.mem_flatMap.mp h
    rw [List.eq_of_mem_replicate hpart] at h
    exact hunit h
  · exact hline h

theorem pieces_chars {unit : String} (hunit : SingleLine unit) {line : Line}
    (hline : SingleLine line.text) : pieces '\n' (chars unit line) = [chars unit line] :=
  pieces_of_not_mem (newline_not_mem_chars hunit hline)

theorem height_eq_one {unit : String} (hunit : SingleLine unit) {line : Line}
    (hline : SingleLine line.text) : height unit line = 1 := by
  rw [height, pieces_chars hunit hline, List.length_singleton]

theorem pieces_renderAll {unit : String} (hunit : SingleLine unit) {lines : List Line}
    (hlines : ∀ line ∈ lines, SingleLine line.text) :
    pieces '\n' (renderAll unit lines).toList = lines.map (chars unit) ++ [[]] := by
  have hpieces : ∀ line ∈ lines, pieces '\n' (chars unit line) = [chars unit line] :=
    fun line hline => pieces_chars hunit (hlines line hline)
  rw [pieces_renderAll_eq, List.flatMap_congr hpieces, List.map_eq_flatMap]

end Line

end ServiceWiring.Text
