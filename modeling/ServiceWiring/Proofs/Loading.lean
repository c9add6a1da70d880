import ServiceWiring.Proofs.Layering

/-! What loading gives: the settings that the layers state, if every one of them can be used, and an
error otherwise. -/
namespace ServiceWiring.Settings
open ServiceWiring.Text

variable {look : String → Except FileFault String} {explicit user : Option String}
  {family : String} {environment : List (String × String)} {s : Settings}

/-- Where the user keeps settings. -/
def userFile (directory : String) : String := Path.join (Path.join directory "skanr") fileName

/-- Which file counts, if any: only the explicit one if there is one, whether it is there or not, or
else the first usual one that is there. -/
inductive Chosen (look : String → Except FileFault String) (user : Option String) :
    Option String → Option String → Prop
  | explicit {path : String} (h : isThere (look path) = true) : Chosen look user (some path) (some path)
  | missing {path : String} (h : isThere (look path) = false) : Chosen look user (some path) none
  | working (h : isThere (look fileName) = true) : Chosen look user none (some fileName)
  | user {directory : String} (huser : user = some directory)
    (hworking : isThere (look fileName) = false) (h : isThere (look (userFile directory)) = true) :
    Chosen look user none (some (userFile directory))
  | nowhere (hworking : isThere (look fileName) = false)
    (h : ∀ directory ∈ user, isThere (look (userFile directory)) = false) :
    Chosen look user none none

theorem chosen_file? (look : String → Except FileFault String) (explicit user : Option String) :
    Chosen look user explicit (file? look explicit user) := by
  cases explicit with
  | some path =>
    rw [file?]
    split
    · next h => exact .explicit h
    · next h => exact .missing (Bool.eq_false_iff.mpr h)
  | none =>
    rw [file?, usualFiles, List.find?_cons]
    split
    · next h => exact .working h
    · next hworking =>
      cases user with
      | none => exact .nowhere hworking fun directory h => nomatch h
      | some directory =>
        rw [Option.toList_some, List.map_singleton, List.find?_singleton]
        split
        · next h => exact .user rfl hworking h
        · next h => exact .nowhere hworking fun other he => Option.some.inj he ▸ Bool.eq_false_iff.mpr h

theorem Chosen.unique {one other : Option String} (h : Chosen look user explicit one)
    (h' : Chosen look user explicit other) : one = other := by
  cases h <;> cases h' <;> simp_all

/-- What the chosen file says, and nothing if there is none. -/
def said (look : String → Except FileFault String) (chosen : Option String) : Except Error Value :=
  match chosen with
  | some path => fileLayer (look path)
  | none => .ok (.record [])

theorem tidy_fileLayer {content : Except FileFault String} {v : Value}
    (h : fileLayer content = .ok v) : v.Tidy ∧ ∃ fields, v = .record fields := by
  unfold fileLayer at h
  split at h
  · split at h
    · next hread =>
      split at h
      · cases h
        exact Toml.tidy_read? hread
      · cases h
    · cases h
  · cases h
    exact ⟨Toml.tidy_empty, [], rfl⟩
  · cases h

theorem tidy_said {chosen : Option String} {file : Value} (h : said look chosen = .ok file) :
    file.Tidy ∧ ∃ fields, file = .record fields := by
  cases chosen with
  | some path => exact tidy_fileLayer h
  | none =>
    cases h
    exact ⟨Toml.tidy_empty, [], rfl⟩

theorem fileLayer_error {content : Except FileFault String} {e : Error}
    (h : fileLayer content = .error e) : ∃ fault, e = .settings fault := by
  unfold fileLayer at h
  split at h
  · split at h
    · split at h
      · cases h
      · exact ⟨_, (Except.error.inj h).symm⟩
    · exact ⟨_, (Except.error.inj h).symm⟩
  · cases h
  · exact ⟨_, (Except.error.inj h).symm⟩

theorem said_error {chosen : Option String} {e : Error} (h : said look chosen = .error e) :
    ∃ fault, e = .settings fault := by
  cases chosen with
  | some path => exact fileLayer_error h
  | none => cases h

theorem layered_eq (look : String → Except FileFault String) (explicit user : Option String)
    (family : String) (environment : List (String × String)) :
    layered look explicit user family environment =
      (said look (file? look explicit user)).map fun file =>
        merge (merge initial.toValue file) (environmentLayer family environment) := by
  rw [layered]
  cases file? look explicit user with
  | none => rfl
  | some path =>
    dsimp only [said]
    cases fileLayer (look path) <;> rfl

/-- Settings that pass every check. -/
structure Usable (s : Settings) : Prop where
  dialect : isBlankText s.generator.dialect = false
  className : isIdentifier s.generator.className = true
  entryPoint : isIdentifier s.generator.entryPoint = true
  hook : isIdentifier s.generator.hook = true
  level : ∃ level, Log.Level.ofSetting s.logging.level = .ok level

theorem fault?_eq_none_iff (g : GeneratorSettings) :
    g.fault? = none ↔ isBlankText g.dialect = false ∧ isIdentifier g.className = true ∧
      isIdentifier g.entryPoint = true ∧ isIdentifier g.hook = true := by
  rw [GeneratorSettings.fault?]
  split
  · next h => simp [h]
  · next h => simp [h, GeneratorSettings.identifiers]

theorem ofSetting_error {text : String} {e : Error} (h : Log.Level.ofSetting text = .error e) :
    e = .settings (.badLevel text) := by
  unfold Log.Level.ofSetting at h
  simp only at h
  split at h
  · cases h
  · split at h
    · cases h
    · exact (Except.error.inj h).symm

theorem Usable.checked (h : s.Usable) : s.checked = .ok s := by
  obtain ⟨level, hlevel⟩ := h.level
  rw [Settings.checked, (fault?_eq_none_iff _).mpr ⟨h.dialect, h.className, h.entryPoint, h.hook⟩,
    hlevel]
  rfl

/-- Settings that fail a check are refused. -/
theorem checked_of_not_usable (h : ¬ s.Usable) : ∃ fault, s.checked = .error (.settings fault) := by
  rw [Settings.checked]
  cases hfault : s.generator.fault? with
  | some fault => exact ⟨fault, rfl⟩
  | none =>
    obtain ⟨hdialect, hclass, hentry, hhook⟩ := (fault?_eq_none_iff _).mp hfault
    cases hlevel : Log.Level.ofSetting s.logging.level with
    | ok level => exact absurd ⟨hdialect, hclass, hentry, hhook, level, hlevel⟩ h
    | error e => exact ⟨_, congrArg Except.error (ofSetting_error hlevel)⟩

theorem checked_eq_ok_iff {t : Settings} : s.checked = .ok t ↔ s = t ∧ s.Usable := by
  by_cases h : s.Usable
  · rw [h.checked, Except.ok.injEq]
    exact (and_iff_left h).symm
  · obtain ⟨fault, hfault⟩ := checked_of_not_usable h
    rw [hfault]
    exact ⟨(fun he => nomatch he), fun he => absurd he.2 h⟩

/-- What is loaded, once it is known what the chosen file says. -/
theorem load_of_said {file : Value} (h : said look (file? look explicit user) = .ok file) :
    load look explicit user family environment =
      match ofValue? .leading
        (merge (merge initial.toValue file) (environmentLayer family environment)) with
      | some s => s.checked
      | none => .error (unreadable "unexpected value") := by
  rw [load, layered_eq, h]
  rfl

theorem load_error {e : Error} (h : load look explicit user family environment = .error e) :
    ∃ fault, e = .settings fault := by
  cases hsaid : said look (file? look explicit user) with
  | error fault =>
    rw [load, layered_eq, hsaid] at h
    exact Except.error.inj h ▸ said_error hsaid
  | ok file =>
    rw [load_of_said hsaid] at h
    split at h
    · next s _ =>
      by_cases hs : s.Usable
      · rw [hs.checked] at h
        cases h
      · obtain ⟨fault, hfault⟩ := checked_of_not_usable hs
        rw [hfault] at h
        exact ⟨fault, (Except.error.inj h).symm⟩
    · exact ⟨_, (Except.error.inj h).symm⟩

/-- One file counts at most. Settings are loaded exactly if they are what the environment, that file
and the defaults state, each for itself, and pass every check; otherwise the error is one of settings.
A variable is for the setting that it is named after, and changes no other unless the file gives a part
as a list. -/
theorem load_settles (horderly : Orderly family environment) :
    ∃ chosen, (∀ other, Chosen look user explicit other ↔ other = chosen) ∧
      (∀ s, load look explicit user family environment = .ok s ↔
        ∃ file, said look chosen = .ok file ∧ Stated family environment file s ∧ s.Usable) ∧
      (∀ file s, said look chosen = .ok file → Stated family environment file s → ¬ s.Usable →
        ∃ fault, load look explicit user family environment = .error (.settings fault)) ∧
      (∀ e, load look explicit user family environment = .error e → ∃ fault, e = .settings fault) ∧
      (∀ file (x y : Setting) v, Variable.keys? family v.1 = some y.path → x ≠ y →
        (∀ items, file.field? x.part.name ≠ some (.list items)) →
        x.stated? family (environment ++ [v]) file = x.stated? family environment file) ∧
      ((∀ c ∈ family.toList.head?, isBlank c = false) → ∀ x : Setting,
        Variable.keys? family (x.variableName family) = some x.path) := by
  have hchosen := chosen_file? look explicit user
  have hstated : ∀ {file s}, said look (file? look explicit user) = .ok file →
      (ofValue? .leading
        (merge (merge initial.toValue file) (environmentLayer family environment)) = some s ↔
        Stated family environment file s) :=
    fun h => ofValue?_layers_iff horderly (tidy_said h).1 (tidy_said h).2
  refine ⟨file? look explicit user, fun other => ⟨fun h => h.unique hchosen, fun h => h ▸ hchosen⟩,
    fun s => ⟨fun h => ?_, ?_⟩, fun file s hsaid hs hnot => ?_, fun e => load_error,
    fun file x y v hkeys hne hlist => Setting.stated?_concat hkeys hne hlist,
    fun hfamily x => x.keys?_variableName hfamily⟩
  · cases hsaid : said look (file? look explicit user) with
    | error e =>
      rw [load, layered_eq, hsaid] at h
      cases h
    | ok file =>
      rw [load_of_said hsaid] at h
      split at h
      · next t ht =>
        obtain ⟨rfl, ht'⟩ := checked_eq_ok_iff.mp h
        exact ⟨file, rfl, (hstated hsaid).mp ht, ht'⟩
      · cases h
  · rintro ⟨file, hsaid, hs, husable⟩
    rw [load_of_said hsaid, (hstated hsaid).mpr hs]
    exact husable.checked
  · rw [load_of_said hsaid, (hstated hsaid).mpr hs]
    exact checked_of_not_usable hnot

/-- A place with one settings file, where the program runs. -/
def onlyWorking (content : String) (path : String) : Except FileFault String :=
  if path = fileName then .ok content else .error .notFound

def hookVariable : List (String × String) := [("SKANR_GENERATOR__HOOK", "Env")]

/-- A variable for one setting, and one that is for none. -/
def hookAndLog : List (String × String) := hookVariable ++ [("SKANR_LOG", "debug")]

def hookSettings : Settings :=
  { Settings.initial with
    generator := { GeneratorSettings.initial with dialect := "rust", hook := "Env" } }

theorem orderly_hookAndLog : Orderly usualFamily hookAndLog := by
  constructor
  · unfold Aside
    decide +kernel
  · decide +kernel

/-- The file's table keeps what the variable does not say. -/
theorem hookAndLog_settles : Orderly usualFamily hookAndLog ∧
    ∃ file, said (onlyWorking "[generator]\ndialect = 'rust'\n") (some fileName) = .ok file ∧
      Stated usualFamily hookAndLog file hookSettings ∧ hookSettings.Usable := by
  obtain ⟨chosen, hchosen, hload, -⟩ := @load_settles
    (onlyWorking "[generator]\ndialect = 'rust'\n") none none usualFamily hookAndLog
    orderly_hookAndLog
  obtain rfl : some fileName = chosen := (hchosen _).mp (.working rfl)
  exact ⟨orderly_hookAndLog, (hload hookSettings).mp (by decide +kernel)⟩

/-- A list is given up to the variable: the dialect it gives counts only as long as the hook is not
set. -/
theorem hookVariable_resets_dialect :
    Orderly usualFamily hookVariable ∧ valueOf? usualFamily hookVariable .dialect = none ∧
      ((load (onlyWorking "generator = [\"rust\", \"N\"]\n") none none usualFamily []).toOption.map
        (·.generator.dialect)) = some "rust" ∧
      ((load (onlyWorking "generator = [\"rust\", \"N\"]\n") none none usualFamily
        hookVariable).toOption.map (·.generator.dialect)) = some "csharp" :=
  ⟨orderly_hookAndLog.of_concat, by decide +kernel, by decide +kernel, by decide +kernel⟩

end ServiceWiring.Settings
