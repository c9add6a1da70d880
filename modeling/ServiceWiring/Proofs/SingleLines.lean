import ServiceWiring.Dialect.Render
import ServiceWiring.Proofs.Text.Identifier
import ServiceWiring.Proofs.Text.Line
import ServiceWiring.Proofs.Text.Literal

/-! Names without line feeds are written into lines without line feeds. -/
namespace ServiceWiring
open ServiceWiring.Text

def Binding.SingleLines (b : Binding) : Prop := SingleLine b.service ∧ SingleLine b.implementation

def Block.SingleLines (b : Block) : Prop :=
  (∀ l ∈ b.label, SingleLine l) ∧ ∀ binding ∈ b.bindings, binding.SingleLines

def Group.SingleLines (g : Group) : Prop := SingleLine g.name ∧ ∀ b ∈ g.blocks, b.SingleLines

/-- No import, group name, label or type name of a document has a line feed. -/
def Document.SingleLines (d : Document) : Prop :=
  (∀ path ∈ d.imports, SingleLine path) ∧ ∀ g ∈ d.groups, g.SingleLines

def Scaffold.SingleLines (s : Scaffold) : Prop :=
  SingleLine s.space ∧ SingleLine s.className ∧ SingleLine s.entryPoint ∧ SingleLine s.hook

instance (b : Binding) : Decidable b.SingleLines := inferInstanceAs (Decidable (_ ∧ _))

instance (b : Block) : Decidable b.SingleLines := inferInstanceAs (Decidable (_ ∧ _))

instance (g : Group) : Decidable g.SingleLines := inferInstanceAs (Decidable (_ ∧ _))

instance (d : Document) : Decidable d.SingleLines := inferInstanceAs (Decidable (_ ∧ _))

instance (s : Scaffold) : Decidable s.SingleLines := inferInstanceAs (Decidable (_ ∧ _))

namespace PartialClass

theorem singleLine_binding {b : Binding} (h : b.SingleLines) : SingleLine (binding b).text := by
  obtain ⟨hservice, himplementation⟩ := h
  cases hlifetime : b.lifetime <;> simp_all [binding, Lifetime.name, SingleLine]

theorem singleLine_block {b : Block} (h : b.SingleLines) :
    ∀ line ∈ block b, SingleLine line.text := by
  have hbindings : ∀ line ∈ b.bindings.map binding, SingleLine line.text :=
    List.forall_mem_map.mpr fun binding hbinding => singleLine_binding (h.2 binding hbinding)
  cases hlabel : b.label with
  | none => simpa only [block, hlabel] using hbindings
  | some l =>
    have hopen : SingleLine ("#if " ++ l) := by simpa [SingleLine] using h.1 l hlabel
    have hclose : ∀ line ∈ [⟨1, "#endif"⟩, Line.blank], SingleLine line.text := by decide
    simp only [block, hlabel]
    exact List.forall_mem_append.mpr ⟨List.forall_mem_cons.mpr ⟨hopen, hbindings⟩, hclose⟩

theorem singleLine_group {g : Group} (h : g.SingleLines) :
    ∀ line ∈ group g, SingleLine line.text := by
  have hopen : SingleLine ("#region " ++ g.name) := by simpa [SingleLine] using h.1
  have hblocks := List.forall_mem_flatMap.mpr fun b hb => singleLine_block (h.2 b hb)
  have hclose : ∀ line ∈ [⟨1, "#endregion"⟩, Line.blank], SingleLine line.text := by decide
  exact List.forall_mem_append.mpr ⟨List.forall_mem_cons.mpr ⟨hopen, hblocks⟩, hclose⟩

theorem singleLine_opening {d : Document} {s : Scaffold} (hspace : SingleLine d.space)
    (hs : s.SingleLines) (hd : d.SingleLines) : ∀ line ∈ opening d s, SingleLine line.text := by
  obtain ⟨-, hclass, hentry, hhook⟩ := hs
  have himports : ∀ line ∈ d.imports.map fun path => (⟨0, "using " ++ path ++ ";"⟩ : Line),
      SingleLine line.text := List.forall_mem_map.mpr fun path hpath => by
    simpa [SingleLine] using hd.1 path hpath
  simp_all [opening, SingleLine, or_imp, Line.blank]

theorem singleLine_closing {s : Scaffold} (hs : s.SingleLines) :
    ∀ line ∈ closing s, SingleLine line.text := by
  have hhook := hs.2.2.2
  simp_all [closing, SingleLine, Line.blank]

end PartialClass

namespace ExtensionTrait

/-- What holds of the lines of each kind holds of all lines of a block. -/
theorem forall_mem_block {P : Line → Prop} {b : Block}
    (hbinding : ∀ depth, ∀ bound ∈ b.bindings, P (binding depth bound))
    (hlabel : ∀ l, P ⟨3, "#[cfg(feature = " ++ Quoted.encode l ++ ")]"⟩)
    (hopen : P ⟨3, "\x7b"⟩) (hclose : P ⟨3, "\x7d"⟩) : ∀ line ∈ block b, P line := by
  have hbindings (depth : Nat) : ∀ line ∈ b.bindings.map (binding depth), P line :=
    List.forall_mem_map.mpr (hbinding depth)
  cases h : b.label with
  | none => simpa only [block, h] using hbindings 3
  | some l =>
    simp only [block, h]
    exact List.forall_mem_append.mpr ⟨List.forall_mem_append.mpr
      ⟨by simp [hlabel l, hopen], hbindings 4⟩, by simp [hclose]⟩

theorem forall_mem_group {P : Line → Prop} {g : Group} (hname : P ⟨3, "// region: " ++ g.name⟩)
    (hblocks : ∀ b ∈ g.blocks, ∀ line ∈ block b, P line) (hend : P ⟨3, "// endregion"⟩) :
    ∀ line ∈ group g, P line :=
  List.forall_mem_append.mpr ⟨List.forall_mem_cons.mpr
    ⟨hname, List.forall_mem_flatMap.mpr hblocks⟩, by simp [hend]⟩

theorem singleLine_binding (depth : Nat) {b : Binding} (h : b.SingleLines) :
    SingleLine (binding depth b).text := by
  obtain ⟨hservice, himplementation⟩ := h
  simp_all [binding, SingleLine, SnakeCase.newline_not_mem_convert]

theorem singleLine_block {b : Block} (h : b.SingleLines) :
    ∀ line ∈ block b, SingleLine line.text := by
  have hlabel (l : String) : SingleLine ("#[cfg(feature = " ++ Quoted.encode l ++ ")]") := by
    simp [SingleLine, Quoted.newline_not_mem_encode]
  exact forall_mem_block (fun depth bound hbound => singleLine_binding depth (h.2 bound hbound))
    hlabel (by decide) (by decide)

theorem singleLine_group {g : Group} (h : g.SingleLines) :
    ∀ line ∈ group g, SingleLine line.text := by
  have hname : SingleLine ("// region: " ++ g.name) := by simpa [SingleLine] using h.1
  exact forall_mem_group hname (fun b hb => singleLine_block (h.2 b hb)) (by decide)

theorem singleLine_opening {d : Document} {s : Scaffold} (hs : s.SingleLines)
    (hd : d.SingleLines) : ∀ line ∈ opening d s, SingleLine line.text := by
  obtain ⟨-, hclass, -, -⟩ := hs
  have himports : ∀ line ∈ d.imports.map fun path => (⟨1, "use " ++ path ++ "::*;"⟩ : Line),
      SingleLine line.text := List.forall_mem_map.mpr fun path hpath => by
    simpa [SingleLine] using hd.1 path hpath
  simp_all [opening, containerType, SingleLine, or_imp, Line.blank,
    SnakeCase.newline_not_mem_convert]

theorem singleLine_closing (s : Scaffold) : ∀ line ∈ closing s, SingleLine line.text := by
  simp [closing, SingleLine, Line.blank, SnakeCase.newline_not_mem_convert]

end ExtensionTrait

theorem Dialect.singleLine_lines (dialect : Dialect) {d : Document} {s : Scaffold}
    (hspace : SingleLine d.space) (hs : s.SingleLines) (hd : d.SingleLines) :
    ∀ line ∈ dialect.lines d s, SingleLine line.text := by
  cases dialect with
  | partialClass =>
    have hgroups := List.forall_mem_flatMap.mpr fun g hg => PartialClass.singleLine_group (hd.2 g hg)
    exact List.forall_mem_append.mpr ⟨List.forall_mem_append.mpr
      ⟨PartialClass.singleLine_opening hspace hs hd, hgroups⟩, PartialClass.singleLine_closing hs⟩
  | extensionTrait =>
    have hgroups := List.forall_mem_flatMap.mpr fun g hg => ExtensionTrait.singleLine_group (hd.2 g hg)
    exact List.forall_mem_append.mpr ⟨List.forall_mem_append.mpr
      ⟨ExtensionTrait.singleLine_opening hs hd, hgroups⟩, ExtensionTrait.singleLine_closing s⟩

end ServiceWiring
