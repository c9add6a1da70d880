import ServiceWiring.Proofs.Environment

/-! Loading. Of the defaults, one file and the environment, the later counts for each setting by itself;
only a part that the file gives as a list is given up as a whole to a variable. -/
namespace ServiceWiring
open ServiceWiring.Text
open ServiceWiring.Settings (overlay merge valueOf? isNamed)

namespace Part

/-- A part as it is initially. -/
def initial : Part → Value
  | .generator => GeneratorSettings.initial.toValue
  | .logging => LogSettings.initial.toValue

/-- A part after the file. -/
def before (part : Part) (file : Option Value) : Value := file.elim part.initial (merge part.initial)

/-- A part after the file and the environment. -/
def layered (part : Part) (file environment : Option Value) : Value :=
  environment.elim (part.before file) (merge (part.before file))

theorem overlay_layered (part : Part) (file environment : Option Value) :
    overlay (overlay (some part.initial) file) environment =
      some (part.layered file environment) := by
  cases file <;> cases environment <;> rfl

theorem clear_initial (part : Part) : part.initial.Clear := by
  have h : ∀ part : Part, ∃ fields, part.initial = .record fields ∧
      (fields.map Prod.fst).Nodup := by
    intro part
    cases part <;> exact ⟨_, rfl, by decide⟩
  obtain ⟨fields, hinitial, hkeys⟩ := h part
  rw [hinitial]
  exact hkeys

variable {part : Part} {file environment : Option Value}

theorem clear_before (part : Part) (hfile : ∀ v ∈ file, v.Clear) : (part.before file).Clear := by
  cases file with
  | none => exact part.clear_initial
  | some v => exact Settings.clear_merge part.clear_initial (hfile v rfl)

theorem clear_layered (part : Part) (hfile : ∀ v ∈ file, v.Clear)
    (henvironment : ∀ v ∈ environment, v.Clear) : (part.layered file environment).Clear := by
  cases environment with
  | none => exact part.clear_before hfile
  | some v => exact Settings.clear_merge (part.clear_before hfile) (henvironment v rfl)

theorem hasFields_merge {earlier v : Value} :
    (merge earlier v).HasFields ↔ v.HasFields := by
  cases v with
  | record fields => cases earlier <;> exact Iff.rfl
  | _ => exact Iff.rfl

theorem hasFields_before : (part.before file).HasFields ↔ ∀ v ∈ file, v.HasFields := by
  cases file with
  | none =>
    have hinitial : part.initial.HasFields := by cases part <;> trivial
    simpa [before] using hinitial
  | some v => simpa [before] using hasFields_merge

end Part

namespace Setting
variable {s : Settings} {x : Setting}

theorem exists_initial (x : Setting) : ∃ fields, x.part.initial = .record fields ∧
    ∃ v, fields.lookup x.key = some v ∧ v.Solid ∧ x.read? v = some (x.get .initial) := by
  cases x <;> exact ⟨_, rfl, _, rfl, trivial, rfl⟩

theorem inPart?_merge_record (prev : Value) {fields : List (String × Value)}
    (hkeys : (fields.map Prod.fst).Nodup) :
    x.inPart? (merge prev (.record fields)) = overlay (prev.field? x.key) (fields.lookup x.key) := by
  cases prev with
  | record old => exact Settings.lookup_mergeFields hkeys x.key
  | _ =>
    show fields.lookup x.key = overlay none (fields.lookup x.key)
    cases fields.lookup x.key with
    | none => rfl
    | some v => exact congrArg some (Settings.merge_null v).symm

theorem holds_overlay {earlier said : Option Value} (hearlier : ∀ v ∈ earlier, v.Solid)
    (hsaid : ∀ v ∈ said, v.Solid) : x.Holds s (overlay earlier said) ↔ x.Holds s (said.or earlier) := by
  cases said with
  | none => exact Iff.rfl
  | some v =>
    have hbefore : (earlier.getD .null).Solid := by
      cases earlier with
      | none => trivial
      | some w => exact hearlier w rfl
    show x.read? (merge (earlier.getD .null) v) = _ ↔ x.read? v = _
    rw [read?_merge hbefore (hsaid v rfl)]

/-- What a file says of a part counts as if nothing had been said before. -/
theorem holds_before {file : Option Value} (hfile : ∀ v ∈ file, v.Tidy) :
    x.Holds s (x.inPart? (x.part.before file)) ↔ x.Holds s (file.bind x.inPart?) := by
  obtain ⟨fields, hinitial, v, hv, hsolid, hread⟩ := x.exists_initial
  have hdefault : x.Holds s (some v) ↔ x.Holds s none := by
    show x.read? v = some (x.get s) ↔ x.get s = x.get .initial
    rw [hread, Option.some_inj]
    exact eq_comm
  cases file with
  | none =>
    rw [Part.before, Option.elim_none, hinitial, inPart?, hv]
    exact hdefault
  | some said =>
    have htidy : said.Tidy := hfile said rfl
    rw [Part.before, Option.elim_some, Option.bind_some, hinitial]
    cases said with
    | record said =>
      rw [inPart?_merge_record _ htidy.clear, Value.field?, hv, holds_overlay]
      · show _ ↔ x.Holds s (said.lookup x.key)
        cases said.lookup x.key with
        | none => exact hdefault
        | some w => exact Iff.rfl
      · exact fun w hw => Option.some.inj hw ▸ hsolid
      · exact fun w hw => (Value.tidy_of_field? htidy hw).solid
    | _ => exact Iff.rfl

/-- Under its key a setting is as before in a table, and a list says nothing under any key. -/
theorem holds_field?_before {file : Option Value} (hfile : ∀ v ∈ file, v.Tidy) :
    x.Holds s ((x.part.before file).field? x.key) ↔ x.Holds s (file.bind (Value.field? x.key)) := by
  obtain ⟨fields, hinitial, -⟩ := x.exists_initial
  have hbefore := holds_before (s := s) (x := x) hfile
  cases file with
  | none =>
    rw [Part.before, Option.elim_none, hinitial] at hbefore ⊢
    exact hbefore
  | some said =>
    rw [Part.before, Option.elim_some, hinitial] at hbefore ⊢
    cases said with
    | record said => exact hbefore
    | _ => exact Iff.rfl

theorem solid_field?_before {file : Option Value} (hfile : ∀ v ∈ file, v.Tidy) :
    ∀ w ∈ (x.part.before file).field? x.key, w.Solid := by
  obtain ⟨fields, hinitial, v, hv, hsolid, -⟩ := x.exists_initial
  intro w hw
  cases file with
  | none =>
    rw [Part.before, Option.elim_none, hinitial, Value.field?, hv] at hw
    exact Option.some.inj hw ▸ hsolid
  | some said =>
    rw [Part.before, Option.elim_some, hinitial] at hw
    have htidy : said.Tidy := hfile said rfl
    cases said with
    | record said =>
      have hw : overlay (fields.lookup x.key) (said.lookup x.key) = some w :=
        (Settings.lookup_mergeFields htidy.clear x.key).symm.trans hw
      rw [hv] at hw
      cases hsaid : said.lookup x.key with
      | none =>
        rw [hsaid] at hw
        exact Option.some.inj hw ▸ hsolid
      | some u =>
        rw [hsaid] at hw
        have hu : u.Solid := (Value.tidy_of_field? htidy hsaid).solid
        exact Option.some.inj hw ▸ Settings.solid_merge hsolid hu
    | _ => cases hw

/-- What counts for a setting: what its variable spells, or else what the file has for it. In a part
that the environment has a variable for, the file's values count by their keys alone. -/
def stated? (family : String) (environment : List (String × String)) (file : Value) (x : Setting) :
    Option Value :=
  ((valueOf? family environment x).map Settings.Variable.read).or
    ((file.field? x.part.name).bind fun v =>
      if isNamed family environment x.part then v.field? x.key else x.inPart? v)

/-- What is not a list says the same of a setting whether or not places count. -/
theorem field?_eq_inPart? {v : Value} (h : ∀ items, v ≠ .list items) : v.field? x.key = x.inPart? v := by
  cases v with
  | list items => exact absurd rfl (h items)
  | _ => rfl

/-- One more variable for another setting changes nothing, unless the file gives a list. -/
theorem stated?_concat {family : String} {environment : List (String × String)} {file : Value}
    {v : String × String} {y : Setting} (hkeys : Settings.Variable.keys? family v.1 = some y.path)
    (hne : x ≠ y) (hlist : ∀ items, file.field? x.part.name ≠ some (.list items)) :
    x.stated? family (environment ++ [v]) file = x.stated? family environment file := by
  have hother : Settings.Variable.keys? family v.1 ≠ some x.path := by
    rw [hkeys]
    exact fun he => hne (path_injective (Option.some.inj he)).symm
  have hfile : ∀ named : Bool, ((file.field? x.part.name).bind fun w =>
      if named then w.field? x.key else x.inPart? w) = (file.field? x.part.name).bind x.inPart? := by
    intro named
    cases hpart : file.field? x.part.name with
    | none => rfl
    | some w =>
      have hw : ∀ items, w ≠ .list items := fun items he => hlist items (he ▸ hpart)
      rw [Option.bind_some, Option.bind_some, field?_eq_inPart? hw, ite_self]
  rw [stated?, stated?, Settings.valueOf?_concat_of_ne hother, hfile, hfile]

theorem holds_layered {family : String} {environment : List (String × String)} {file : Value}
    {said : Option Value} (hfile : ∀ v ∈ file.field? x.part.name, v.Tidy)
    (h : Settings.SaidBy family environment x.part said) :
    x.Holds s (x.inPart? (x.part.layered (file.field? x.part.name) said)) ↔
      x.Holds s (x.stated? family environment file) := by
  have hx : x ∈ x.part.settings := mem_settings_iff.mpr rfl
  cases h with
  | nothing hnamed hvalues =>
    rw [stated?, hvalues x hx, hnamed]
    exact holds_before hfile
  | fields hnamed hkeys hvalues =>
    rw [Part.layered, Option.elim_some, inPart?_merge_record _ hkeys, hvalues x hx, stated?, hnamed,
      holds_overlay (solid_field?_before hfile)]
    · cases valueOf? family environment x with
      | none => exact holds_field?_before hfile
      | some value => exact Iff.rfl
    · intro w hw
      obtain ⟨value, -, rfl⟩ := Option.map_eq_some_iff.mp hw
      exact Settings.Variable.solid_read value

end Setting

namespace Settings
variable {family : String} {environment : List (String × String)} {s : Settings}

section SaidBy
variable {part : Part} {file said : Option Value}

theorem SaidBy.clear (h : SaidBy family environment part said) : ∀ v ∈ said, v.Clear := by
  intro v hv
  cases h with
  | nothing => cases hv
  | fields hnamed hkeys hvalues => exact Option.some.inj hv ▸ hkeys

/-- A part can be read if it can be in the file, or if the environment has a variable for it. -/
theorem SaidBy.hasFields_layered (h : SaidBy family environment part said) :
    (part.layered file said).HasFields ↔
      isNamed family environment part = true ∨ ∀ v ∈ file, v.HasFields := by
  cases h with
  | nothing hnamed hvalues =>
    rw [hnamed]
    simpa [Part.layered] using Part.hasFields_before
  | fields hnamed hkeys hvalues =>
    have hrecord : ∀ fields : List (String × Value), (Value.record fields).HasFields :=
      fun _ => trivial
    rw [hnamed, Part.layered, Option.elim_some, Part.hasFields_merge]
    simp [hrecord]

end SaidBy

/-- Settings are read part by part. -/
theorem ofValue?_iff {fields : List (String × Value)} (hkeys : (fields.map Prod.fst).Nodup)
    {parts : Part → Value} (hparts : ∀ part : Part, fields.lookup part.name = some (parts part)) :
    ofValue? .leading (.record fields) = some s ↔ ∀ part : Part, part.Reads s (parts part) := by
  have hfields : (Value.record fields).fields? .leading ["generator", "logging"] =
      some [.given (parts .generator), .given (parts .logging)] := by
    have hgenerator : fields.lookup "generator" = some (parts .generator) := hparts .generator
    have hlogging : fields.lookup "logging" = some (parts .logging) := hparts .logging
    simp [Value.fields?, Value.Field.ofRecord?_eq_lookup hkeys, hgenerator, hlogging,
      Value.Field.ofGiven]
  obtain ⟨generator, logging⟩ := s
  simp only [ofValue?, hfields, Value.Field.withDefault, Option.bind_eq_bind,
    Option.bind_eq_some_iff, Option.pure_def]
  constructor
  · rintro ⟨g, hg, l, hl, he⟩
    cases he
    intro part
    cases part with
    | generator => exact hg
    | logging => exact hl
  · intro h
    exact ⟨generator, h .generator, logging, h .logging, rfl⟩

/-- Settings that are what the environment, the file and the defaults say of each. A part that is
neither a table nor a list in the file must be replaced by the environment. -/
structure Stated (family : String) (environment : List (String × String)) (file : Value)
    (s : Settings) : Prop where
  parts : ∀ part : Part, isNamed family environment part = true ∨
    ∀ v ∈ file.field? part.name, v.HasFields
  settings : ∀ x : Setting, x.Holds s (x.stated? family environment file)

/-- Whatever the layers say together is read setting by setting. -/
theorem ofValue?_layers_iff (horderly : Orderly family environment) {file : Value}
    (hfile : file.Tidy) (hrecord : ∃ fields, file = .record fields) :
    ofValue? .leading (merge (merge initial.toValue file) (environmentLayer family environment)) =
      some s ↔ Stated family environment file s := by
  obtain ⟨said, rfl⟩ := hrecord
  obtain ⟨fields, hlayer, hkeys, hsaid⟩ := environmentLayer_says horderly
  obtain ⟨defaults, hdefaults, hnodup, hinitial⟩ : ∃ defaults, initial.toValue = .record defaults ∧
      (defaults.map Prod.fst).Nodup ∧
      ∀ part : Part, defaults.lookup part.name = some part.initial :=
    ⟨_, rfl, by decide, fun part => by cases part <;> rfl⟩
  -- All three layers are records, so each part is layered by itself.
  rw [hlayer, hdefaults, merge_records, merge_records]
  have hparts : ∀ part : Part,
      (mergeFields (mergeFields defaults said) fields).lookup part.name =
        some (part.layered ((Value.record said).field? part.name) (fields.lookup part.name)) := by
    intro part
    rw [lookup_mergeFields hkeys, lookup_mergeFields hfile.clear, hinitial]
    exact part.overlay_layered _ _
  rw [ofValue?_iff (nodup_mergeFields (nodup_mergeFields hnodup _) _) hparts]
  have hpart : ∀ part : Part,
      part.Reads s (part.layered ((Value.record said).field? part.name) (fields.lookup part.name)) ↔
        (isNamed family environment part = true ∨
          ∀ v ∈ (Value.record said).field? part.name, v.HasFields) ∧
        ∀ x ∈ part.settings, x.Holds s (x.stated? family environment (.record said)) := by
    intro part
    have htidy : ∀ v ∈ (Value.record said).field? part.name, v.Tidy :=
      fun v hv => Value.tidy_of_field? hfile hv
    have hclear := part.clear_layered (fun v hv => (htidy v hv).clear) (hsaid part).clear
    rw [Part.reads_iff hclear part, (hsaid part).hasFields_layered]
    refine and_congr Iff.rfl (forall_congr' fun x => imp_congr_right fun hx => ?_)
    obtain rfl : x.part = part := Setting.mem_settings_iff.mp hx
    exact Setting.holds_layered htidy (hsaid x.part)
  constructor
  · intro h
    refine ⟨fun part => ((hpart part).mp (h part)).1, fun x => ?_⟩
    exact ((hpart x.part).mp (h x.part)).2 x (Setting.mem_settings_iff.mpr rfl)
  · intro h part
    exact (hpart part).mpr ⟨h.parts part, fun x _ => h.settings x⟩

end Settings

end ServiceWiring
