import ServiceWiring.Dialect.Render
import ServiceWiring.Proofs.Text.Line
import ServiceWiring.Proofs.Text.Literal

/-! Reading registration source back. Every line gives a sign, by how it begins, and a small machine
follows the regions and conditions that the signs open and close. -/
namespace ServiceWiring
open ServiceWiring.Text

/-- A statement of registration source, with the region and the condition that it stands in. -/
structure Statement where
  group : String
  label : Option String
  text : String
  deriving DecidableEq, Repr

/-- What a line says. A condition begins with a line of its own, or with an attribute and the
opening of a scope. -/
inductive Sign where
  | region (name : String)
  | endRegion
  | condition (label : String)
  | endCondition
  | attribute (label : String)
  | opening
  | closing
  | statement (text : String)
  | hookCall
  | blank
  | other
  deriving DecidableEq, Repr

/-- The lines that may stand outside of all regions. -/
def Sign.isScaffold : Sign → Bool
  | .closing | .blank | .other => true
  | _ => false

/-- Where a reader stands. A condition is announced until its scope opens. -/
inductive Standing where
  | outside
  | inside (group : String)
  | announced (group label : String)
  | within (group label : String)
  deriving DecidableEq, Repr

namespace Standing

/-- One line, which may be a statement. A line has no place where no case names it. -/
def advance : Standing → Sign → Option (Standing × List Statement)
  | .outside, .region g => some (.inside g, [])
  | .outside, .closing | .outside, .blank | .outside, .other => some (.outside, [])
  | .inside _, .endRegion => some (.outside, [])
  | .inside g, .condition l => some (.within g l, [])
  | .inside g, .attribute l => some (.announced g l, [])
  | .inside g, .statement text => some (.inside g, [⟨g, none, text⟩])
  | .inside g, .blank => some (.inside g, [])
  | .announced g l, .opening => some (.within g l, [])
  | .within g l, .statement text => some (.within g l, [⟨g, some l, text⟩])
  | .within g _, .endCondition | .within g _, .closing => some (.inside g, [])
  | _, _ => none

def run : Standing → List Sign → Option (Standing × List Statement)
  | standing, [] => some (standing, [])
  | standing, sign :: signs =>
    match standing.advance sign with
    | none => none
    | some (next, statements) => (next.run signs).map fun (last, rest) => (last, statements ++ rest)

theorem run_cons {standing next last : Standing} {sign : Sign} {signs : List Sign}
    {statements rest : List Statement} (h : standing.advance sign = some (next, statements))
    (hs : next.run signs = some (last, rest)) :
    standing.run (sign :: signs) = some (last, statements ++ rest) := by
  simp [run, h, hs]

theorem run_append {standing next last : Standing} {signs more : List Sign}
    {statements rest : List Statement} (h : standing.run signs = some (next, statements))
    (hm : next.run more = some (last, rest)) :
    standing.run (signs ++ more) = some (last, statements ++ rest) := by
  induction signs generalizing standing statements with
  | nil => cases h; exact hm
  | cons sign signs ih =>
    simp only [run] at h
    split at h
    · cases h
    · next middle first hfirst =>
      obtain ⟨⟨next', others⟩, hothers, he⟩ := Option.map_eq_some_iff.mp h
      cases he
      rw [List.cons_append, run_cons hfirst (ih hothers), List.append_assoc]

/-- Parts that each lead back to where the reader stands do so together. -/
theorem run_flatMap {α : Type} {standing : Standing} {signs : α → List Sign}
    {statements : α → List Statement} {as : List α}
    (h : ∀ a ∈ as, standing.run (signs a) = some (standing, statements a)) :
    standing.run (as.flatMap signs) = some (standing, as.flatMap statements) := by
  induction as with
  | nil => rfl
  | cons a as ih =>
    have hrest := ih fun b hb => h b (List.mem_cons_of_mem a hb)
    exact run_append (h a List.mem_cons_self) hrest

theorem run_scaffold {signs : List Sign} (h : ∀ sign ∈ signs, sign.isScaffold = true) :
    outside.run signs = some (outside, []) := by
  induction signs with
  | nil => rfl
  | cons sign signs ih =>
    have hrest := ih fun next hnext => h next (List.mem_cons_of_mem sign hnext)
    have hsign : outside.advance sign = some (outside, []) := by
      have hscaffold := h sign List.mem_cons_self
      cases sign <;> first | rfl | cases hscaffold
    exact run_cons hsign hrest

/-- Statements alone leave the reader where it stands. -/
theorem run_statements {standing : Standing} {statement : String → Statement}
    (h : ∀ text, standing.advance (.statement text) = some (standing, [statement text]))
    (texts : List String) :
    standing.run (texts.map .statement) = some (standing, texts.map statement) := by
  induction texts with
  | nil => rfl
  | cons text texts ih => exact run_cons (h text) ih

/-- The call of the hook is not read on the way. -/
theorem hookCall_not_mem {standing last : Standing} {signs : List Sign}
    {statements : List Statement} (h : standing.run signs = some (last, statements)) :
    Sign.hookCall ∉ signs := by
  induction signs generalizing standing last statements with
  | nil => exact List.not_mem_nil
  | cons sign signs ih =>
    simp only [run] at h
    split at h
    · cases h
    · next next' first hfirst =>
      obtain ⟨⟨_, _⟩, hothers, _⟩ := Option.map_eq_some_iff.mp h
      intro hmem
      rcases List.mem_cons.mp hmem with rfl | hmem
      · cases standing <;> cases hfirst
      · exact ih hothers hmem

end Standing

/-- The statements of a text by its signs: up to the call of the hook every region and every
condition that is opened is closed again, and behind the call there is only scaffold. -/
def statementsOfSigns (signs : List Sign) : Option (List Statement) :=
  match Standing.outside.run (signs.takeWhile (· != .hookCall)),
    signs.dropWhile (· != .hookCall) with
  | some (.outside, statements), _ :: rest =>
    if rest.all Sign.isScaffold then some statements else none
  | _, _ => none

theorem statementsOfSigns_eq {signs rest : List Sign} {statements : List Statement}
    (h : Standing.outside.run signs = some (.outside, statements))
    (hrest : ∀ sign ∈ rest, sign.isScaffold = true) :
    statementsOfSigns (signs ++ .hookCall :: rest) = some statements := by
  have hsigns : ∀ sign ∈ signs, (sign != .hookCall) = true := by
    intro sign hsign
    have : sign ≠ .hookCall := fun e => Standing.hookCall_not_mem h (e ▸ hsign)
    simpa using this
  have hall : rest.all Sign.isScaffold = true := List.all_eq_true.mpr hrest
  rw [statementsOfSigns, List.takeWhile_append_of_pos hsigns, List.dropWhile_append_of_pos hsigns]
  simp [h, hall]

/-- The rest of a line behind the given beginning. -/
def behind? : List Char → List Char → Option (List Char)
  | [], cs => some cs
  | _ :: _, [] => none
  | p :: ps, c :: cs => if p = c then behind? ps cs else none

theorem behind?_append (start cs : List Char) : behind? start (start ++ cs) = some cs := by
  induction start with
  | nil => rfl
  | cons c start ih => simpa [behind?] using ih

/-- Neither text begins the other. -/
def apart : List Char → List Char → Bool
  | a :: as, b :: bs => a != b || apart as bs
  | _, _ => false

theorem behind?_of_apart {start text : List Char} (h : apart start text = true)
    (rest : List Char) : behind? start (text ++ rest) = none := by
  induction start generalizing text with
  | nil => cases h
  | cons c start ih =>
    cases text with
    | nil => cases h
    | cons d text =>
      by_cases hc : c = d
      · have htail : apart start text = true := by simpa [apart, hc] using h
        simpa [behind?, hc] using ih htail
      · simp [behind?, hc]

/-- What lines of a kind begin with, and the sign by the rest of such a line. -/
structure LineMark where
  start : String
  read : List Char → Option Sign

namespace LineMark

/-- A mark that has its line to itself. -/
def alone (start : String) (sign : Sign) : LineMark :=
  ⟨start, fun rest => if rest.isEmpty then some sign else none⟩

def sign? (m : LineMark) (text : List Char) : Option Sign :=
  (behind? m.start.toList text).bind m.read

/-- The sign of a line by the marks that there are. -/
def signOf (marks : List LineMark) (text : List Char) : Sign :=
  match text with
  | [] => .blank
  | _ :: _ => (marks.findSome? (·.sign? text)).getD .other

/-- Marks that can be told apart: none begins another. -/
def Apart (marks : List LineMark) : Prop :=
  marks.Pairwise fun m n => apart m.start.toList n.start.toList = true

theorem signOf_of_mem {marks : List LineMark} (hmarks : Apart marks) {m : LineMark}
    (hm : m ∈ marks) (hstart : m.start.toList ≠ []) {rest : List Char} {sign : Sign}
    (hread : m.read rest = some sign) : signOf marks (m.start.toList ++ rest) = sign := by
  have hfind : marks.findSome? (·.sign? (m.start.toList ++ rest)) = some sign := by
    induction marks with
    | nil => cases hm
    | cons first marks ih =>
      obtain ⟨hfirst, hothers⟩ := List.pairwise_cons.mp hmarks
      rcases List.mem_cons.mp hm with rfl | hm
      · simp [sign?, behind?_append, hread]
      · have hnone : first.sign? (m.start.toList ++ rest) = none := by
          rw [sign?, behind?_of_apart (hfirst m hm), Option.bind_none]
        rw [List.findSome?_cons, hnone]
        exact ih hothers hm
  obtain ⟨c, cs, hcs⟩ := List.exists_cons_of_ne_nil hstart
  rw [hcs, List.cons_append] at hfind ⊢
  simp only [signOf, hfind, Option.getD_some]

theorem signOf_of_apart {marks : List LineMark} {start : List Char} (hstart : start ≠ [])
    (h : ∀ m ∈ marks, apart m.start.toList start = true) (rest : List Char) :
    signOf marks (start ++ rest) = .other := by
  have hfind : marks.findSome? (·.sign? (start ++ rest)) = none := by
    refine List.findSome?_eq_none_iff.mpr fun m hm => ?_
    rw [sign?, behind?_of_apart (h m hm), Option.bind_none]
  obtain ⟨c, cs, rfl⟩ := List.exists_cons_of_ne_nil hstart
  rw [List.cons_append] at hfind ⊢
  simp only [signOf, hfind, Option.getD_none]

end LineMark

namespace PartialClass
open LineMark (alone)

def regionMark : LineMark := ⟨"#region ", fun name => some (.region (String.ofList name))⟩

def conditionMark : LineMark := ⟨"#if ", fun label => some (.condition (String.ofList label))⟩

def callMark : LineMark :=
  ⟨"services.Add", fun call => some (.statement ("services.Add" ++ String.ofList call))⟩

def marks : List LineMark :=
  [regionMark, alone "#endregion" .endRegion, conditionMark, alone "#endif" .endCondition, callMark]

theorem marks_apart : LineMark.Apart marks := by unfold LineMark.Apart; decide

def hookLine (s : Scaffold) : Line := ⟨2, s.hook ++ "(services);"⟩

end PartialClass

namespace ExtensionTrait
open LineMark (alone)

/-- The label of an attribute, which a literal spells in front of two closing brackets. -/
def labelOfRest? (rest : List Char) : Option String :=
  (behind? [']', ')'] rest.reverse).bind fun literal =>
    Quoted.decode (String.ofList literal.reverse)

theorem labelOfRest?_encode (label : String) :
    labelOfRest? (Quoted.encode label ++ ")]").toList = some label := by
  have hrest : (Quoted.encode label ++ ")]").toList.reverse =
      [']', ')'] ++ (Quoted.encode label).toList.reverse := by simp
  rw [labelOfRest?, hrest, behind?_append, Option.bind_some, List.reverse_reverse,
    String.ofList_toList, Quoted.decode_encode]

def regionMark : LineMark := ⟨"// region: ", fun name => some (.region (String.ofList name))⟩

def attributeMark : LineMark :=
  ⟨"#[cfg(feature = ", fun rest => (labelOfRest? rest).map .attribute⟩

def callMark : LineMark :=
  ⟨"services.add_", fun call => some (.statement ("services.add_" ++ String.ofList call))⟩

def marks : List LineMark :=
  [regionMark, alone "// endregion" .endRegion, attributeMark, alone "\x7b" .opening,
   alone "\x7d" .closing, callMark]

theorem marks_apart : LineMark.Apart marks := by unfold LineMark.Apart; decide

def hookLine (s : Scaffold) : Line := ⟨3, "super::" ++ SnakeCase.convert s.hook ++ "(services);"⟩

end ExtensionTrait

namespace Dialect

def hookLine (s : Scaffold) : Dialect → Line
  | .partialClass => PartialClass.hookLine s
  | .extensionTrait => ExtensionTrait.hookLine s

def marks : Dialect → List LineMark
  | .partialClass => PartialClass.marks
  | .extensionTrait => ExtensionTrait.marks

/-- A hook may have any name, so its call is known by the whole line. Any other line is known by
the mark behind its indentation. -/
def sign (dialect : Dialect) (s : Scaffold) (line : List Char) : Sign :=
  if line = (dialect.hookLine s).chars indentation then .hookCall
  else LineMark.signOf dialect.marks (line.dropWhile (· == ' '))

/-- The statements that a text is read as, line by line. -/
def scan (dialect : Dialect) (s : Scaffold) (text : String) : Option (List Statement) :=
  statementsOfSigns ((pieces '\n' text.toList).map (dialect.sign s))

end Dialect

end ServiceWiring
