import Mathlib.Data.Fintype.Sets
import ServiceWiring.Proofs.Merging

/-! The single settings: which part and key each is under, what it holds and how it is read. A part of
the settings is read exactly if every setting in it is as the part says. -/
namespace ServiceWiring

/-- A part of the settings, which is a table of a settings file. -/
inductive Part where
  | generator
  | logging
  deriving DecidableEq, Repr

inductive Setting where
  | dialect
  | space
  | className
  | entryPoint
  | hook
  | container
  | listed
  | invalid
  | level
  | json
  | file
  deriving DecidableEq, Repr

def Part.name : Part → String
  | .generator => "generator"
  | .logging => "logging"

/-- The settings of a part in declared order. -/
def Part.settings : Part → List Setting
  | .generator => [.dialect, .space, .className, .entryPoint, .hook, .container, .listed, .invalid]
  | .logging => [.level, .json, .file]

namespace Setting

def part : Setting → Part
  | .level | .json | .file => .logging
  | _ => .generator

def key : Setting → String
  | .dialect => "dialect"
  | .space => "namespace"
  | .className => "class_name"
  | .entryPoint => "entry_point"
  | .hook => "hook"
  | .container => "container_namespace"
  | .listed => "manual_interfaces"
  | .invalid => "on_invalid_annotation"
  | .level => "level"
  | .json => "json_format"
  | .file => "file_output"

/-- Where a setting stands in a list that is given for its part. -/
def position (x : Setting) : Nat := x.part.settings.idxOf x

def path (x : Setting) : List String := [x.part.name, x.key]

/-- What is configured by a setting. -/
def Carrier : Setting → Type
  | .dialect | .className | .entryPoint | .hook | .level => String
  | .space | .container | .file => Option String
  | .listed => ListedPolicy
  | .invalid => InvalidPolicy
  | .json => Bool

def get (s : Settings) : (x : Setting) → x.Carrier
  | .dialect => s.generator.dialect
  | .space => s.generator.space
  | .className => s.generator.className
  | .entryPoint => s.generator.entryPoint
  | .hook => s.generator.hook
  | .container => s.generator.container
  | .listed => s.generator.listed
  | .invalid => s.generator.invalid
  | .level => s.logging.level
  | .json => s.logging.json
  | .file => s.logging.file

def read? : (x : Setting) → Value → Option x.Carrier
  | .dialect | .className | .entryPoint | .hook | .level => Value.string?
  | .space | .container | .file => Value.orNull? Value.string?
  | .listed => ListedPolicy.ofValue?
  | .invalid => InvalidPolicy.ofValue?
  | .json => Value.bool?

theorem mem_settings_iff {x : Setting} {part : Part} : x ∈ part.settings ↔ x.part = part := by
  cases part <;> cases x <;> decide

instance : Fintype Setting :=
  .ofList (Part.generator.settings ++ Part.logging.settings) fun x => by cases x <;> decide

/-- The path tells which setting it is. -/
theorem path_injective : Function.Injective path := by
  intro x y
  revert x y
  decide +kernel

/-- A setting is as a value says, or as it is initially where nothing is said of it. -/
def Holds (s : Settings) (x : Setting) : Option Value → Prop
  | some v => x.read? v = some (x.get s)
  | none => x.get s = x.get .initial

/-- What a part says of a setting: under its key, or at its place in a list. -/
def inPart? (x : Setting) : Value → Option Value
  | .record fields => fields.lookup x.key
  | .list items => items[x.position]?
  | _ => none

/-- No setting is written as a record, of which no field is null. -/
theorem read?_record {fields : List (String × Value)} (h : (Value.record fields).Solid)
    (x : Setting) : x.read? (.record fields) = none := by
  have hchoice : (Value.record fields).choice? = none := by
    unfold Value.choice?
    split
    · next he =>
      cases he
      exact absurd rfl (h _ List.mem_cons_self)
    · rfl
  cases x with
  | listed => exact (congrArg (Option.bind · _) hchoice).trans rfl
  | invalid => exact (congrArg (Option.bind · _) hchoice).trans rfl
  | _ => rfl

/-- A value counts for a setting as if nothing had been said before it. -/
theorem read?_merge {earlier v : Value} (hearlier : earlier.Solid) (hv : v.Solid) (x : Setting) :
    x.read? (Settings.merge earlier v) = x.read? v := by
  cases v with
  | record fields =>
    rw [read?_record hv]
    cases earlier with
    | record old => exact read?_record (Settings.solid_mergeFields hearlier hv) x
    | _ => exact read?_record hv x
  | _ => rfl

end Setting

/-- Whether the value can stand for a part: a table, or a list of what its settings are. -/
def Value.HasFields : Value → Prop
  | .record _ => True
  | .list _ => True
  | _ => False

/-- No scalar is undecided, and a record has no key twice. -/
def Value.Clear : Value → Prop
  | .record fields => (fields.map Prod.fst).Nodup
  | .plain _ => False
  | _ => True

theorem Value.Tidy.clear {v : Value} (h : v.Tidy) : v.Clear := by
  cases h with
  | record hkeys hfields => exact hkeys
  | _ => trivial

theorem Settings.clear_merge {earlier v : Value} (hearlier : earlier.Clear) (hv : v.Clear) :
    (Settings.merge earlier v).Clear := by
  cases v with
  | record fields =>
    cases earlier with
    | record old => exact Settings.nodup_mergeFields hearlier fields
    | _ => exact hv
  | _ => exact hv

namespace Part
open Setting

/-- The settings of the part are what is read of a value. -/
def Reads (s : Settings) (v : Value) : Part → Prop
  | .generator => GeneratorSettings.ofValue? .leading v = some s.generator
  | .logging => LogSettings.ofValue? .leading v = some s.logging

/-- What is found of a setting in the value of its part. -/
def field (v : Value) (x : Setting) : Value.Field :=
  match v with
  | .list items => (items[x.position]?).elim .ended .given
  | _ => .ofGiven (x.inPart? v)

theorem holds_iff_withDefault {s : Settings} {v : Value} {x : Setting} :
    x.Holds s (x.inPart? v) ↔
      (field v x).withDefault (x.get .initial) x.read? = some (x.get s) := by
  have hgiven : ∀ o : Option Value, x.Holds s o ↔
      (Value.Field.ofGiven o).withDefault (x.get .initial) x.read? = some (x.get s) := by
    intro o
    cases o with
    | none => exact eq_comm.trans (Option.some_inj).symm
    | some w => exact Iff.rfl
  cases v with
  | list items =>
    rw [hgiven, field, inPart?]
    cases items[x.position]? <;> exact Iff.rfl
  | _ => exact hgiven _

theorem ofListed_eq_map (items : List Value) (names : List String) :
    Value.Field.ofListed items names =
      (List.range names.length).map fun i => (items[i]?).elim .ended .given := by
  induction names generalizing items with
  | nil => cases items <;> rfl
  | cons name names ih =>
    rw [List.length_cons, List.range_succ_eq_map, List.map_cons, List.map_map]
    cases items with
    | nil => rw [Value.Field.ofListed, ih]; simp [Function.comp_def]
    | cons v items => rw [Value.Field.ofListed, ih]; simp [Function.comp_def]

theorem fields?_eq {v : Value} (hv : v.Clear) (hfields : v.HasFields) (part : Part) :
    v.fields? .leading (part.settings.map key) = some (part.settings.map (field v)) := by
  cases v with
  | record fields =>
    have hall : ∀ xs : List Setting, (xs.map key).mapM (Value.Field.ofRecord? fields) =
        some (xs.map (field (.record fields))) := by
      intro xs
      induction xs with
      | nil => rfl
      | cons x xs ih =>
        rw [List.map_cons, List.mapM_cons, ih, Value.Field.ofRecord?_eq_lookup hv]
        rfl
    exact hall part.settings
  | list items =>
    rw [Value.fields?, ofListed_eq_map]
    cases part <;> rfl
  | _ => cases hfields

/-- A part is read if it can be read and every setting in it is as the part says. -/
theorem reads_iff {s : Settings} {v : Value} (hv : v.Clear) (part : Part) :
    part.Reads s v ↔ v.HasFields ∧ ∀ x ∈ part.settings, x.Holds s (x.inPart? v) := by
  obtain ⟨generator, logging⟩ := s
  by_cases hfields : v.HasFields
  · simp only [holds_iff_withDefault, hfields, true_and]
    cases part with
    | generator =>
      have hread : v.fields? .leading GeneratorSettings.fieldNames =
          some (Part.generator.settings.map (field v)) := fields?_eq hv hfields .generator
      simp only [Reads, GeneratorSettings.ofValue?, hread, settings, List.map_cons, List.map_nil,
        List.forall_mem_cons, Option.bind_eq_bind, Option.bind_eq_some_iff, Option.pure_def]
      constructor
      · rintro ⟨dialect, hdialect, space, hspace, className, hclass, entryPoint, hentry, hook, hhook,
          container, hcontainer, listed, hlisted, invalid, hinvalid, he⟩
        cases he
        exact ⟨hdialect, hspace, hclass, hentry, hhook, hcontainer, hlisted, hinvalid,
          fun x hx => absurd hx List.not_mem_nil⟩
      · rintro ⟨hdialect, hspace, hclass, hentry, hhook, hcontainer, hlisted, hinvalid, -⟩
        exact ⟨_, hdialect, _, hspace, _, hclass, _, hentry, _, hhook, _, hcontainer, _, hlisted,
          _, hinvalid, rfl⟩
    | logging =>
      have hread : v.fields? .leading ["level", "json_format", "file_output"] =
          some (Part.logging.settings.map (field v)) := fields?_eq hv hfields .logging
      simp only [Reads, LogSettings.ofValue?, hread, settings, List.map_cons, List.map_nil,
        List.forall_mem_cons, Option.bind_eq_bind, Option.bind_eq_some_iff, Option.pure_def]
      constructor
      · rintro ⟨level, hlevel, json, hjson, file, hfile, he⟩
        cases he
        exact ⟨hlevel, hjson, hfile, fun x hx => absurd hx List.not_mem_nil⟩
      · rintro ⟨hlevel, hjson, hfile, -⟩
        exact ⟨_, hlevel, _, hjson, _, hfile, rfl⟩
  · have hnone : ∀ names, v.fields? .leading names = none := by
      intro names
      cases v with
      | record fields => exact absurd trivial hfields
      | list items => exact absurd trivial hfields
      | plain s => cases hv
      | _ => rfl
    simp only [hfields, false_and, iff_false]
    cases part with
    | generator => simp [Reads, GeneratorSettings.ofValue?, hnone]
    | logging => simp [Reads, LogSettings.ofValue?, hnone]

end Part

end ServiceWiring
