import ServiceWiring.Proofs.Rendering
import ServiceWiring.Settings

/-! The names that an extension trait gives to its entry point and to the hook. Settings are checked as
they are configured, and written in snake case, which not every identifier outlasts. -/
namespace ServiceWiring
open ServiceWiring.Text

namespace ExtensionTrait

/-- What stands before the name of a function where it is declared or implemented, and where it is
called. -/
def functionMarks : List String := ["fn ", "super::"]

/-- The function that a line declares, implements or calls. -/
def functionName? (line : Line) : Option String :=
  (functionMarks.findSome? fun mark => behind? mark.toList line.text.toList).map fun rest =>
    String.ofList (rest.takeWhile (· ≠ '('))

def functionNames (lines : List Line) : List String := lines.filterMap functionName?

variable {depth : Nat}

/-- A name goes on to the bracket of the parameters. -/
private theorem takeWhile_convert (name : String) {rest : String}
    (hrest : rest.toList.takeWhile (· ≠ '(') = []) :
    (SnakeCase.convert name ++ rest).toList.takeWhile (· ≠ '(') = (SnakeCase.convert name).toList := by
  have hbracket : '(' ∉ (SnakeCase.convert name).toList :=
    SnakeCase.not_mem_convert ((isIdentifierPart_of_ascii (by decide)).trans (by decide))
      (by decide) name
  have hname : ∀ c ∈ (SnakeCase.convert name).toList, decide (c ≠ '(') = true := by
    intro c hc
    rw [decide_eq_true_eq]
    rintro rfl
    exact hbracket hc
  rw [String.toList_append, List.takeWhile_append_of_pos hname, hrest, List.append_nil]

theorem functionName?_of_mem {mark : String} (hmark : mark ∈ functionMarks) (name : String)
    {rest : String} (hrest : rest.toList.takeWhile (· ≠ '(') = []) :
    functionName? ⟨depth, mark ++ (SnakeCase.convert name ++ rest)⟩ =
      some (SnakeCase.convert name) := by
  let signature := SnakeCase.convert name ++ rest
  have hfind : functionMarks.findSome? (fun m => behind? m.toList (mark.toList ++ signature.toList)) =
      some signature.toList := by
    rw [functionMarks, List.mem_cons, List.mem_singleton] at hmark
    rcases hmark with rfl | rfl
    · rw [functionMarks, List.findSome?_cons, behind?_append]
    · have hother := behind?_of_apart (by decide : apart "fn ".toList "super::".toList = true)
        signature.toList
      rw [functionMarks, List.findSome?_cons, hother, List.findSome?_cons, behind?_append]
  rw [functionName?, String.toList_append, hfind, Option.map_some, takeWhile_convert name hrest,
    String.ofList_toList]

theorem functionName?_of_apart {start : String}
    (h : ∀ mark ∈ functionMarks, apart mark.toList start.toList = true) (rest : String) :
    functionName? ⟨depth, start ++ rest⟩ = none := by
  rw [functionName?, Option.map_eq_none_iff, List.findSome?_eq_none_iff]
  intro mark hmark
  rw [String.toList_append]
  exact behind?_of_apart (h mark hmark) rest.toList

theorem functionName?_binding (depth : Nat) (b : Binding) : functionName? (binding depth b) = none := by
  simp (disch := decide) only [binding, String.append_assoc, functionName?_of_apart]

theorem functionName?_block (b : Block) : ∀ line ∈ block b, functionName? line = none := by
  have hlabel (l : String) :
      functionName? ⟨3, "#[cfg(feature = " ++ Quoted.encode l ++ ")]"⟩ = none := by
    rw [String.append_assoc]
    exact functionName?_of_apart (by decide) (Quoted.encode l ++ ")]")
  exact forall_mem_block (fun depth bound _ => functionName?_binding depth bound) hlabel
    (by decide) (by decide)

theorem functionName?_group (g : Group) : ∀ line ∈ group g, functionName? line = none :=
  forall_mem_group (functionName?_of_apart (by decide) g.name) (fun b _ => functionName?_block b)
    (by decide)

theorem functionNames_eq_nil {lines : List Line} (h : ∀ line ∈ lines, functionName? line = none) :
    functionNames lines = [] := List.filterMap_eq_nil_iff.mpr h

theorem functionNames_opening (d : Document) (s : Scaffold) :
    functionNames (opening d s) =
      [SnakeCase.convert s.entryPoint, SnakeCase.convert s.entryPoint] := by
  have himports : functionNames (d.imports.map fun path => ⟨1, "use " ++ path ++ "::*;"⟩) = [] := by
    refine functionNames_eq_nil (List.forall_mem_map.mpr fun path _ => ?_)
    rw [String.append_assoc]
    exact functionName?_of_apart (by decide) (path ++ "::*;")
  rw [functionNames] at himports
  rw [functionNames, opening, List.filterMap_append, List.filterMap_append, himports]
  simp (disch := decide) [List.filterMap_cons, String.append_assoc, functionName?_of_mem,
    functionName?_of_apart]

theorem functionNames_closing (s : Scaffold) :
    functionNames (closing s) = [SnakeCase.convert s.hook] := by
  simp (disch := decide) [functionNames, closing, List.filterMap_cons, String.append_assoc,
    functionName?_of_mem]

/-- Whatever a document says, its text declares and implements the entry point, and calls the hook,
and names no other function. -/
theorem functionNames_lines (d : Document) (s : Scaffold) :
    functionNames (lines d s) =
      [SnakeCase.convert s.entryPoint, SnakeCase.convert s.entryPoint,
        SnakeCase.convert s.hook] := by
  have hgroups : functionNames (d.groups.flatMap group) = [] :=
    functionNames_eq_nil (List.forall_mem_flatMap.mpr fun g _ => functionName?_group g)
  have happend (before after : List Line) :
      functionNames (before ++ after) = functionNames before ++ functionNames after :=
    List.filterMap_append
  rw [lines, happend, happend, functionNames_opening, hgroups, functionNames_closing]
  rfl

section Rendered
open Dialect (Unindented unindented_append)

/-- The function that a line of text declares, implements or calls, behind its indentation. -/
def functionNameIn? (cs : List Char) : Option String :=
  functionName? ⟨0, String.ofList (cs.dropWhile (· == ' '))⟩

def functionNamesIn (text : String) : List String :=
  (pieces '\n' text.toList).filterMap functionNameIn?

theorem functionNameIn?_chars {line : Line} (h : Unindented line.text) :
    functionNameIn? (line.chars Dialect.indentation) = functionName? line := by
  rw [functionNameIn?, Dialect.dropWhile_chars h, String.ofList_toList]
  rfl

theorem unindented_block (b : Block) : ∀ line ∈ block b, Unindented line.text := by
  refine forall_mem_block (fun depth bound _ => ?_) (fun l => ?_) (by decide) (by decide)
  · rw [binding]
    simp only [String.append_assoc]
    exact unindented_append (by decide) _
  · rw [String.append_assoc]
    exact unindented_append (by decide) _

/-- Every line begins where its indentation ends. -/
theorem unindented_lines (d : Document) (s : Scaffold) : ∀ line ∈ lines d s, Unindented line.text := by
  have himports : ∀ line ∈ d.imports.map fun path => (⟨1, "use " ++ path ++ "::*;"⟩ : Line),
      Unindented line.text := List.forall_mem_map.mpr fun path _ => by
    rw [String.append_assoc]
    exact unindented_append (by decide) (path ++ "::*;")
  have hopening : ∀ line ∈ opening d s, Unindented line.text :=
    List.forall_mem_append.mpr ⟨List.forall_mem_append.mpr ⟨by simp [Unindented], himports⟩,
      by simp [Unindented, Line.blank]⟩
  have hgroups : ∀ line ∈ d.groups.flatMap group, Unindented line.text :=
    List.forall_mem_flatMap.mpr fun g _ =>
      forall_mem_group (unindented_append (by decide) g.name) (fun b _ => unindented_block b) (by decide)
  have hclosing : ∀ line ∈ closing s, Unindented line.text := by
    simp [closing, Unindented, Line.blank]
  exact List.forall_mem_append.mpr ⟨List.forall_mem_append.mpr ⟨hopening, hgroups⟩, hclosing⟩

/-- The functions that a text names are those that its lines name. -/
theorem functionNamesIn_render {d : Document} {s : Scaffold} (hspace : SingleLine d.space)
    (hs : s.SingleLines) (hd : d.SingleLines) :
    functionNamesIn (Dialect.extensionTrait.render d s) = functionNames (lines d s) := by
  have hlines := Dialect.extensionTrait.singleLine_lines hspace hs hd
  have hpieces := Line.pieces_renderAll (by decide : SingleLine Dialect.indentation) hlines
  have hlast : functionNameIn? [] = none := by decide
  rw [functionNamesIn, Dialect.render, hpieces, List.filterMap_append, List.filterMap_map,
    List.filterMap_cons_none hlast, List.filterMap_nil, List.append_nil]
  exact List.filterMap_congr fun line hline => functionNameIn?_chars (unindented_lines d s line hline)

end Rendered

end ExtensionTrait

theorem singleLine_of_isIdentifier {text : String} (h : isIdentifier text = true) :
    SingleLine text := by
  intro hmem
  have hpart := isIdentifierPart_of_mem h hmem
  rw [isIdentifierPart_of_ascii (by decide)] at hpart
  exact absurd hpart (by decide)

/-- Settings are accepted only with identifiers for all of their names. -/
theorem GeneratorSettings.isIdentifier_of_accepted {g : GeneratorSettings} (h : g.fault? = none) :
    ∀ setting ∈ g.identifiers, isIdentifier setting.2 = true := by
  rw [fault?] at h
  split at h
  · cases h
  · have hfind := List.find?_eq_none.mp (Option.map_eq_none_iff.mp h)
    intro setting hsetting
    simpa using hfind setting hsetting

/-- Accepted names break no line, so that only the namespace might. -/
theorem GeneratorSettings.singleLines_of_accepted {g : GeneratorSettings} (h : g.fault? = none)
    {unit : String} (hspace : SingleLine (g.spaceFor unit)) : (g.scaffold unit).SingleLines := by
  have hidentifiers := g.isIdentifier_of_accepted h
  have hsingle (setting : String × String) (hmem : setting ∈ g.identifiers) :
      SingleLine setting.2 := singleLine_of_isIdentifier (hidentifiers setting hmem)
  exact ⟨hspace, hsingle ("class_name", g.className) (by simp [identifiers]),
    hsingle ("entry_point", g.entryPoint) (by simp [identifiers]),
    hsingle ("hook", g.hook) (by simp [identifiers])⟩

/-- An extension trait declares and implements the configured entry point and calls the configured
hook, each in snake case, and its text names no other function where no name has a line feed. Of the
names that settings accept, those stay identifiers that are lasting. -/
theorem functionNames_accepted {g : GeneratorSettings} (hg : g.fault? = none) (unit : String)
    (d : Document) :
    ExtensionTrait.functionNames (Dialect.extensionTrait.lines d (g.scaffold unit)) =
        [SnakeCase.convert g.entryPoint, SnakeCase.convert g.entryPoint,
          SnakeCase.convert g.hook] ∧
      (SingleLine d.space → SingleLine (g.spaceFor unit) → d.SingleLines →
        ExtensionTrait.functionNamesIn (Dialect.extensionTrait.render d (g.scaffold unit)) =
          [SnakeCase.convert g.entryPoint, SnakeCase.convert g.entryPoint,
            SnakeCase.convert g.hook]) ∧
      (isIdentifier (SnakeCase.convert g.entryPoint) = true ↔ SnakeCase.Lasting g.entryPoint) ∧
      (isIdentifier (SnakeCase.convert g.hook) = true ↔ SnakeCase.Lasting g.hook) := by
  have hidentifiers := g.isIdentifier_of_accepted hg
  have hlasting (setting : String × String) (h : setting ∈ g.identifiers) :
      isIdentifier (SnakeCase.convert setting.2) = true ↔ SnakeCase.Lasting setting.2 :=
    SnakeCase.isIdentifier_convert_iff fun _ hc =>
      isIdentifierPart_of_mem (hidentifiers setting h) hc
  have hentryPoint := hlasting ("entry_point", g.entryPoint) (by simp [GeneratorSettings.identifiers])
  have hhook := hlasting ("hook", g.hook) (by simp [GeneratorSettings.identifiers])
  refine ⟨ExtensionTrait.functionNames_lines d (g.scaffold unit), ?_, hentryPoint, hhook⟩
  intro hspace hscaffold hd
  have hs := GeneratorSettings.singleLines_of_accepted hg hscaffold
  rw [ExtensionTrait.functionNamesIn_render hspace hs hd]
  exact ExtensionTrait.functionNames_lines d (g.scaffold unit)

/-- A document that binds nothing. -/
def bareDocument : Document := ⟨"", "App", [], [], ""⟩

/-- Names that begin with an underscore or have letters beyond ASCII, and stay identifiers. -/
def lastingSettings : GeneratorSettings :=
  { GeneratorSettings.initial with entryPoint := "_init2", hook := "Übergabe" }

theorem lastingSettings_identifiers :
    lastingSettings.fault? = none ∧ SnakeCase.Lasting lastingSettings.entryPoint ∧
      SnakeCase.Lasting lastingSettings.hook ∧
      ExtensionTrait.functionNamesIn
        (Dialect.extensionTrait.render bareDocument (lastingSettings.scaffold "App")) =
          [SnakeCase.convert lastingSettings.entryPoint,
            SnakeCase.convert lastingSettings.entryPoint, SnakeCase.convert lastingSettings.hook] ∧
      isIdentifier (SnakeCase.convert lastingSettings.entryPoint) = true ∧
      isIdentifier (SnakeCase.convert lastingSettings.hook) = true := by
  have haccepted : lastingSettings.fault? = none := by decide +kernel
  obtain ⟨-, hnames, hentryPoint, hhook⟩ := functionNames_accepted haccepted "App" bareDocument
  have hinit : SnakeCase.Lasting lastingSettings.entryPoint := by decide +kernel
  have hgive : SnakeCase.Lasting lastingSettings.hook := by decide +kernel
  exact ⟨haccepted, hinit, hgive, hnames (by decide) (by decide +kernel) (by decide),
    hentryPoint.mpr hinit, hhook.mpr hgive⟩

/-- A digit behind the underscores, and nothing but underscores. -/
def fadingSettings : GeneratorSettings :=
  { GeneratorSettings.initial with entryPoint := "_1", hook := "__" }

/-- These names are accepted, and what is written for them is a number and nothing at all. -/
theorem fadingSettings_lost :
    fadingSettings.fault? = none ∧
      ExtensionTrait.functionNames
        (Dialect.extensionTrait.lines bareDocument (fadingSettings.scaffold "App")) =
          ["1", "1", ""] ∧
      ExtensionTrait.functionNamesIn
        (Dialect.extensionTrait.render bareDocument (fadingSettings.scaffold "App")) =
          ["1", "1", ""] ∧
      isIdentifier "1" = false ∧ isIdentifier "" = false := by
  have haccepted : fadingSettings.fault? = none := by decide +kernel
  have hentryPoint : SnakeCase.convert (fadingSettings.scaffold "App").entryPoint = "1" := by
    decide +kernel
  have hhook : SnakeCase.convert (fadingSettings.scaffold "App").hook = "" := by decide +kernel
  have hnames := ExtensionTrait.functionNames_lines bareDocument (fadingSettings.scaffold "App")
  rw [hentryPoint, hhook] at hnames
  have hs : (fadingSettings.scaffold "App").SingleLines :=
    GeneratorSettings.singleLines_of_accepted haccepted (by decide +kernel)
  have htext := ExtensionTrait.functionNamesIn_render
    (by decide : SingleLine bareDocument.space) hs (by decide)
  exact ⟨haccepted, hnames, htext.trans hnames, by decide +kernel, rfl⟩

end ServiceWiring
