import ServiceWiring.Document
import ServiceWiring.Manifest
import ServiceWiring.Proofs.TypeName
import ServiceWiring.Proofs.Value

/-! The forms in which hosts, plans and reports travel as data. Each is read back as it was written, and
reading lets in nothing that could not be written. Names of types travel as texts, so they must be names
that a host can write; an argument says by its value alone of which kind it is. -/
namespace ServiceWiring
open Value

theorem TypeName.faithful : Faithful Parsed toValue ofValue? := by
  refine .intro (fun t ht => ?_) fun v t h => ?_
  · obtain ⟨s, hs⟩ := ht
    rw [ofValue?, toValue, string?, Option.bind_some, parse?_qualified hs]
  · obtain ⟨s, -, hs⟩ := Option.bind_eq_some_iff.mp h
    exact ⟨s, hs⟩

theorem Lifetime.faithful : Faithful (fun _ => True) toValue ofValue? :=
  .ofAll fun l => by cases l <;> decide

theorem Mode.faithful : Faithful (fun _ => True) toValue ofValue? :=
  .ofAll fun m => by cases m <;> decide

theorem Severity.faithful : Faithful (fun _ => True) toValue ofValue? :=
  .ofAll fun s => by cases s <;> decide

namespace Argument

/-- A code fits into a word of 64 bits, and types are such as a host can write. -/
def WellFormed : Argument → Prop
  | .code n => -0x8000000000000000 ≤ n ∧ n < 0x8000000000000000
  | .types ts => ∀ t ∈ ts, t.Parsed
  | _ => True

theorem parsed_of_typeName? {v : Value} {t : TypeName} (h : typeName? v = some t) : t.Parsed := by
  unfold typeName? at h
  split at h
  · exact ⟨_, h⟩
  · cases h

theorem faithful : Faithful WellFormed toValue ofValue? := by
  refine .intro (fun a ha => ?_) fun v a h => ?_
  · cases a with
    | absent => rfl
    | text s => rfl
    | code n => simp [toValue, ofValue?, settled, int64?, show _ ∧ _ from ha]
    | types ts =>
      refine congrArg (Option.map types) (mapM_map_write fun t ht => ?_)
      obtain ⟨s, hs⟩ := ha t ht
      change TypeName.parse? t.qualified = some t
      exact TypeName.parse?_qualified hs
  · unfold ofValue? at h
    split at h
    · cases h
      trivial
    · obtain ⟨m, hm, rfl⟩ := Option.map_eq_some_iff.mp h
      obtain ⟨hrange, hmn⟩ := Option.ite_none_right_eq_some.mp hm
      exact Option.some.inj hmn ▸ hrange
    · obtain ⟨ts, hts, rfl⟩ := Option.map_eq_some_iff.mp h
      intro t ht
      obtain ⟨w, -, hw⟩ := exists_read_of_mapM hts t ht
      exact parsed_of_typeName? hw
    · cases h
      trivial
    · cases h

end Argument

theorem NamedArgument.faithful (form : ListedFields) :
    Faithful (fun a => a.value.WellFormed) toValue (ofValue? form) := by
  refine .intro (fun a ha => ?_) fun v a h => ?_
  · have hfields : a.toValue.fields? form ["name", "value"] =
        some [.given (.text a.name), .given a.value.toValue] :=
      fields?_namedFields form [some _, some _] (by decide) rfl
    simp [ofValue?, hfields, Field.required, Argument.faithful.read_write _ ha, Value.string?]
  · unfold ofValue? at h
    split at h
    · simp only [Option.bind_eq_bind, Option.bind_eq_some_iff, Option.pure_def, Option.some.injEq] at h
      obtain ⟨name, -, value, hvalue, rfl⟩ := h
      exact Argument.faithful.inOrder_of_required hvalue
    · cases h

namespace Mark

def WellFormed (a : Mark) : Prop :=
  (∀ arg ∈ a.positional, arg.WellFormed) ∧ ∀ arg ∈ a.named, arg.value.WellFormed

theorem faithful (form : ListedFields) : Faithful WellFormed toValue (ofValue? form) := by
  have hpositional := Argument.faithful.listOf
  have hnamed := (NamedArgument.faithful form).listOf
  refine .intro (fun a ⟨hp, hn⟩ => ?_) fun v a h => ?_
  · have hfields : a.toValue.fields? form ["kind", "positional", "named"] =
        some [.given (.text a.tag), .given (.list (a.positional.map Argument.toValue)),
          .given (.list (a.named.map NamedArgument.toValue))] :=
      fields?_namedFields form [some _, some _, some _] (by decide) rfl
    simp [ofValue?, hfields, Field.required, Field.withDefault, Value.string?,
      hpositional.read_write _ hp, hnamed.read_write _ hn]
  · unfold ofValue? at h
    split at h
    · simp only [Option.bind_eq_bind, Option.bind_eq_some_iff, Option.pure_def,
        Option.some.injEq] at h
      obtain ⟨tag, -, positional, hp, named, hn, rfl⟩ := h
      exact ⟨hpositional.inOrder_of_withDefault (by simp) hp,
        hnamed.inOrder_of_withDefault (by simp) hn⟩
    · cases h

end Mark

namespace DeclaredType

def WellFormed (t : DeclaredType) : Prop :=
  t.name.Parsed ∧ (∀ c ∈ t.contracts, c.Parsed) ∧ ∀ a ∈ t.marks, a.WellFormed

theorem faithful (form : ListedFields) : Faithful WellFormed toValue (ofValue? form) := by
  have hcontracts := TypeName.faithful.listOf
  have hmarks := (Mark.faithful form).listOf
  refine .intro (fun t ⟨hn, hc, hm⟩ => ?_) fun v t h => ?_
  · have hfields : t.toValue.fields? form ["name", "implements", "annotations"] =
        some [.given t.name.toValue, .given (.list (t.contracts.map TypeName.toValue)),
          .given (.list (t.marks.map Mark.toValue))] :=
      fields?_namedFields form [some _, some _, some _] (by decide) rfl
    simp [ofValue?, hfields, Field.required, Field.withDefault, TypeName.faithful.read_write _ hn,
      hcontracts.read_write _ hc, hmarks.read_write _ hm]
  · unfold ofValue? at h
    split at h
    · simp only [Option.bind_eq_bind, Option.bind_eq_some_iff, Option.pure_def,
        Option.some.injEq] at h
      obtain ⟨name, hn, contracts, hc, marks, hm, rfl⟩ := h
      exact ⟨TypeName.faithful.inOrder_of_required hn,
        hcontracts.inOrder_of_withDefault (by simp) hc,
        hmarks.inOrder_of_withDefault (by simp) hm⟩
    · cases h

end DeclaredType

namespace Directive

def WellFormed (d : Directive) : Prop := ∀ t ∈ d.listed, t.Parsed

theorem faithful (form : ListedFields) : Faithful WellFormed toValue (ofValue? form) := by
  have hlisted := TypeName.faithful.listOf
  refine .intro (fun d hd => ?_) fun v d h => ?_
  · have hfields : d.toValue.fields? form ["lifetime", "mode", "manual_interfaces", "label"] =
        some [.given d.lifetime.toValue, .given d.mode.toValue,
          .given (.list (d.listed.map TypeName.toValue)), .given (ofOption .text d.label)] :=
      fields?_namedFields form [some _, some _, some _, some _] (by decide) rfl
    simp [ofValue?, hfields, Field.required, Field.nullable, Lifetime.faithful.read_write,
      Mode.faithful.read_write, hlisted.read_write _ hd, Faithful.orNull.read_write]
  · unfold ofValue? at h
    split at h
    · simp only [Option.bind_eq_bind, Option.bind_eq_some_iff, Option.pure_def,
        Option.some.injEq] at h
      obtain ⟨lifetime, -, mode, -, listed, hl, label, -, rfl⟩ := h
      exact hlisted.inOrder_of_required hl
    · cases h

end Directive

namespace Registration

def WellFormed (r : Registration) : Prop := r.service.Parsed ∧ r.implementation.Parsed

theorem fields?_toValue (form : ListedFields) (r : Registration) :
    r.toValue.fields? form
        ["group_name", "label", "service_type", "implementation_type", "lifetime"] =
      some [.given (.text r.group), .ofGiven (r.label.map .text), .given r.service.toValue,
        .given r.implementation.toValue, .given r.lifetime.toValue] := by
  have hrecord : r.toValue =
      .record (namedFields ["group_name", "label", "service_type", "implementation_type", "lifetime"]
        [some (.text r.group), r.label.map .text, some r.service.toValue,
          some r.implementation.toValue, some r.lifetime.toValue]) := by
    cases h : r.label <;> simp [toValue, namedFields, h]
  rw [hrecord]
  exact fields?_namedFields form _ (by decide) rfl

theorem faithful (form : ListedFields) : Faithful WellFormed toValue (ofValue? form) := by
  refine .intro (fun r ⟨hs, hi⟩ => ?_) fun v r h => ?_
  · have hlabel : (Field.ofGiven (r.label.map .text)).withDefault none (orNull? Value.string?) =
        some r.label := by cases r.label <;> rfl
    simp [ofValue?, fields?_toValue, hlabel, Field.required, Value.string?,
      TypeName.faithful.read_write _ hs, TypeName.faithful.read_write _ hi,
      Lifetime.faithful.read_write]
  · unfold ofValue? at h
    split at h
    · simp only [Option.bind_eq_bind, Option.bind_eq_some_iff, Option.pure_def,
        Option.some.injEq] at h
      obtain ⟨group, -, label, -, service, hs, implementation, hi, lifetime, -, rfl⟩ := h
      exact ⟨TypeName.faithful.inOrder_of_required hs, TypeName.faithful.inOrder_of_required hi⟩
    · cases h

end Registration

namespace DiagnosticRecord

theorem fields?_toValue (form : ListedFields) (d : DiagnosticRecord) :
    d.toValue.fields? form ["code", "severity", "subject", "message"] =
      some [.given (.text d.code), .given d.severity.toValue, .ofGiven (d.subject.map .text),
        .given (.text d.message)] := by
  have hrecord : d.toValue =
      .record (namedFields ["code", "severity", "subject", "message"]
        [some (.text d.code), some d.severity.toValue, d.subject.map .text,
          some (.text d.message)]) := by
    cases h : d.subject <;> simp [toValue, namedFields, h]
  rw [hrecord]
  exact fields?_namedFields form _ (by decide) rfl

theorem faithful (form : ListedFields) : Faithful (fun _ => True) toValue (ofValue? form) := by
  refine .ofAll fun d => ?_
  have hsubject : (Field.ofGiven (d.subject.map .text)).withDefault none (orNull? Value.string?) =
      some d.subject := by cases d.subject <;> rfl
  simp [ofValue?, fields?_toValue, hsubject, Field.required, Value.string?,
    Severity.faithful.read_write]

end DiagnosticRecord

theorem Binding.faithful (form : ListedFields) :
    Faithful (fun _ => True) toValue (ofValue? form) := by
  refine .ofAll fun b => ?_
  have hfields : b.toValue.fields? form ["lifetime", "service", "implementation"] =
      some [.given b.lifetime.toValue, .given (.text b.service), .given (.text b.implementation)] :=
    fields?_namedFields form [some _, some _, some _] (by decide) rfl
  simp [ofValue?, hfields, Field.required, Value.string?, Lifetime.faithful.read_write]

theorem Block.faithful (form : ListedFields) :
    Faithful (fun _ => True) toValue (ofValue? form) := by
  refine .ofAll fun b => ?_
  have hfields : b.toValue.fields? form ["label", "bindings"] =
      some [.given (ofOption .text b.label), .given (.list (b.bindings.map Binding.toValue))] :=
    fields?_namedFields form [some _, some _] (by decide) rfl
  simp [ofValue?, hfields, Field.required, Field.nullable, Faithful.orNull.read_write,
    (Binding.faithful form).listOf.read_write]

theorem Group.faithful (form : ListedFields) :
    Faithful (fun _ => True) toValue (ofValue? form) := by
  refine .ofAll fun g => ?_
  have hfields : g.toValue.fields? form ["name", "blocks"] =
      some [.given (.text g.name), .given (.list (g.blocks.map Block.toValue))] :=
    fields?_namedFields form [some _, some _] (by decide) rfl
  simp [ofValue?, hfields, Field.required, Value.string?, (Block.faithful form).listOf.read_write]

theorem Document.faithful (form : ListedFields) :
    Faithful (fun _ => True) toValue (ofValue? form) := by
  refine .ofAll fun d => ?_
  have hfields : d.toValue.fields? form ["hint_name", "namespace", "imports", "groups", "text"] =
      some [.given (.text d.hintName), .given (.text d.space), .given (.list (d.imports.map .text)),
        .given (.list (d.groups.map Group.toValue)), .given (.text d.text)] :=
    fields?_namedFields form [some _, some _, some _, some _, some _] (by decide) rfl
  simp [ofValue?, hfields, Field.required, Value.string?, Faithful.string.listOf.read_write,
    (Group.faithful form).listOf.read_write]

namespace Manifest

def WellFormed (m : Manifest) : Prop := ∀ t ∈ m.types, t.WellFormed

theorem faithful (form : ListedFields) : Faithful WellFormed toValue (ofValue? form) := by
  have htypes := (DeclaredType.faithful form).listOf
  refine .intro (fun m hm => ?_) fun v m h => ?_
  · have hfields : m.toValue.fields? form ["unit", "annotation_kinds", "derived_kinds", "types"] =
        some [.given (.text m.unit), .given (.list (m.visible.map .text)),
          .given (.list (m.derived.map .text)),
          .given (.list (m.types.map DeclaredType.toValue))] :=
      fields?_namedFields form [some _, some _, some _, some _] (by decide) rfl
    simp [ofValue?, hfields, Field.withDefault, Value.string?, Faithful.string.listOf.read_write,
      htypes.read_write _ hm]
  · unfold ofValue? at h
    split at h
    · simp only [Option.bind_eq_bind, Option.bind_eq_some_iff, Option.pure_def,
        Option.some.injEq] at h
      obtain ⟨unit, -, visible, -, derived, -, types, ht, rfl⟩ := h
      exact htypes.inOrder_of_withDefault (by simp [initial]) ht
    · cases h

/-- Whatever the format of its file, a manifest that could be loaded is well formed. -/
theorem wellFormed_of_ofFile {path : String} {content : Except FileFault String} {m : Manifest}
    (h : ofFile path content = .ok m) : m.WellFormed := by
  unfold ofFile at h
  split at h
  · cases h
  · next format _ =>
    split at h
    · cases h
    · next s =>
      simp only [ofText] at h
      split at h
      · cases h
      · split at h
        · next hread =>
          cases h
          exact (faithful format.listedFields).inOrder_of_read _ _ hread
        · cases h

end Manifest

/-- All that travels as data is read back as it was written, and whatever is read may be written again.
No argument turns into one of another kind, and what a registration or a diagnostic does not have is not
written. -/
theorem forms_faithful (form : ListedFields) :
    Faithful Argument.WellFormed Argument.toValue Argument.ofValue? ∧
      Faithful Mark.WellFormed Mark.toValue (Mark.ofValue? form) ∧
      Faithful DeclaredType.WellFormed DeclaredType.toValue (DeclaredType.ofValue? form) ∧
      Faithful Directive.WellFormed Directive.toValue (Directive.ofValue? form) ∧
      Faithful Registration.WellFormed Registration.toValue (Registration.ofValue? form) ∧
      Faithful (fun _ => True) DiagnosticRecord.toValue (DiagnosticRecord.ofValue? form) ∧
      Faithful (fun _ => True) Document.toValue (Document.ofValue? form) ∧
      Faithful Manifest.WellFormed Manifest.toValue (Manifest.ofValue? form) ∧
      ((∀ s, Argument.ofValue? (.text s) = some (.text s)) ∧
        Argument.ofValue? (.list []) = some (.types []) ∧
        Argument.ofValue? .null = some .absent) ∧
      (∀ r : Registration,
        r.toValue.fields? form ["label"] = some [.ofGiven (r.label.map .text)]) ∧
      ∀ d : DiagnosticRecord,
        d.toValue.fields? form ["subject"] = some [.ofGiven (d.subject.map .text)] := by
  refine ⟨Argument.faithful, Mark.faithful form, DeclaredType.faithful form,
    Directive.faithful form, Registration.faithful form, DiagnosticRecord.faithful form,
    Document.faithful form, Manifest.faithful form, ⟨fun _ => rfl, rfl, rfl⟩, fun r => ?_,
    fun d => ?_⟩
  · cases h : r.label <;>
      simp [Registration.toValue, fields?, Field.ofRecord?, Field.ofGiven, h]
  · cases h : d.subject <;>
      simp [DiagnosticRecord.toValue, fields?, Field.ofRecord?, Field.ofGiven, h]

/-- Texts that look like codes, names and nothing at all, and types that take arguments. -/
def oddManifest : Manifest :=
  { unit := ""
    visible := []
    derived := ["12"]
    types :=
      [⟨⟨"App.Data", "Repo<App.Item>"⟩, [⟨"", "Store"⟩],
        [⟨"Injectable", [.text "12", .text "App.Store", .text "", .types [], .absent],
          [⟨"mode", .code (-1)⟩, ⟨"interfaces", .types [⟨"App", "IStore"⟩]⟩,
            ⟨"label", .text "null"⟩]⟩]⟩] }

theorem oddManifest_reread :
    oddManifest.WellFormed ∧
      Manifest.ofValue? .exactly oddManifest.toValue = some oddManifest := by
  have hitem : TypeName.Parsed ⟨"App.Data", "Repo<App.Item>"⟩ :=
    ⟨"App.Data.Repo<App.Item>", by decide +kernel⟩
  have hstore : TypeName.Parsed ⟨"", "Store"⟩ := ⟨"Store", by decide +kernel⟩
  have hcontract : TypeName.Parsed ⟨"App", "IStore"⟩ := ⟨"App.IStore", by decide +kernel⟩
  have hodd : oddManifest.WellFormed := by
    simp [oddManifest, Manifest.WellFormed, DeclaredType.WellFormed, Mark.WellFormed,
      Argument.WellFormed, hitem, hstore, hcontract]
  obtain ⟨-, -, -, -, -, -, -, hmanifest, -⟩ := forms_faithful .exactly
  exact ⟨hodd, hmanifest.read_write oddManifest hodd⟩

end ServiceWiring
