import Mathlib.Data.List.Basic
import ServiceWiring.FileTree

/-! Ways through a tree. Directories can be made on a way when no file stands on it, and then nothing
changes but that they are there. -/
namespace ServiceWiring.FileTree
variable {t t' : FileTree} {loc : Location} {steps : List String} {name : String}

/-- The places that steps lead past by name. -/
def visited (loc : Location) : List String → List Location
  | [] => []
  | step :: steps =>
    if step = "." then visited loc steps
    else if step = ".." then visited loc.dropLast steps
    else (loc ++ [step]) :: visited (loc ++ [step]) steps

/-- Where steps lead. -/
def destination (loc : Location) : List String → Location
  | [] => loc
  | step :: steps =>
    if step = "." then destination loc steps
    else if step = ".." then destination loc.dropLast steps
    else destination (loc ++ [step]) steps

theorem visited_append (loc : Location) (steps more : List String) :
    visited loc (steps ++ more) = visited loc steps ++ visited (destination loc steps) more := by
  induction steps generalizing loc with
  | nil => rfl
  | cons step steps ih =>
    simp only [List.cons_append, visited, destination]
    split
    · exact ih loc
    · split
      · exact ih loc.dropLast
      · rw [ih, List.cons_append]

theorem destination_append (loc : Location) (steps more : List String) :
    destination loc (steps ++ more) = destination (destination loc steps) more := by
  induction steps generalizing loc with
  | nil => rfl
  | cons step steps ih =>
    simp only [List.cons_append, destination]
    split
    · exact ih loc
    · split
      · exact ih loc.dropLast
      · exact ih (loc ++ [step])

/-- A name that is that of an entry and not of the directory itself or the one above. -/
structure IsOrdinary (name : String) : Prop where
  ne_dot : name ≠ "."
  ne_dots : name ≠ ".."

theorem visited_concat (h : IsOrdinary name) (loc : Location) (steps : List String) :
    visited loc (steps ++ [name]) = visited loc steps ++ [destination loc steps ++ [name]] := by
  simp [visited_append, visited, h.ne_dot, h.ne_dots]

theorem destination_concat (h : IsOrdinary name) (loc : Location) (steps : List String) :
    destination loc (steps ++ [name]) = destination loc steps ++ [name] := by
  simp [destination_append, destination, h.ne_dot, h.ne_dots]

theorem visited_filter_dots (loc : Location) (steps : List String) :
    visited loc (steps.filter (· != ".")) = visited loc steps := by
  induction steps generalizing loc with
  | nil => rfl
  | cons step steps ih =>
    by_cases h : step = "." <;> simp [h, visited, ih]

theorem lookup_filter_ne (entries : List (Location × Entry)) {v : Location} (h : v ≠ loc) :
    (entries.filter fun entry => entry.1 != loc).lookup v = entries.lookup v := by
  induction entries with
  | nil => rfl
  | cons entry entries ih =>
    obtain ⟨key, e⟩ := entry
    by_cases hkey : key = loc
    · have hv : (v == key) = false := beq_eq_false_iff_ne.mpr (hkey ▸ h)
      simp [hkey, List.lookup_cons, ih, hkey ▸ hv]
    · simp [hkey, List.lookup_cons, ih]

/-- Nothing is put where a directory is, and elsewhere everything stays. -/
theorem get?_put (h : t.get? loc ≠ some .directory) (e : Entry) (v : Location) :
    (t.put loc e).get? v = if v = loc then some e else t.get? v := by
  have hroot : ¬(loc = [] ∨ loc = home) := fun hl => h (if_pos hl)
  by_cases hv : v = loc
  · subst hv
    simp [get?, hroot, put]
  · rw [if_neg hv]
    unfold get? put
    split
    · rfl
    · rw [List.lookup_cons, beq_eq_false_iff_ne.mpr hv]
      exact lookup_filter_ne t.entries hv

/-- The place and all above it are directories. -/
def Grounded (t : FileTree) (loc : Location) : Prop :=
  ∀ above, above <+: loc → t.get? above = some .directory

theorem grounded_start (t : FileTree) (path : String) : t.Grounded (start path) := by
  intro above h
  refine if_pos ?_
  unfold start at h
  split at h
  · exact .inl (List.prefix_nil.mp h)
  · have hhome : home = [] ++ home := rfl
    rw [hhome, home, List.prefix_concat_iff] at h
    exact h.symm.imp List.prefix_nil.mp id

theorem Grounded.get? (h : t.Grounded loc) : t.get? loc = some .directory := h loc List.prefix_rfl

theorem Grounded.dropLast (h : t.Grounded loc) : t.Grounded loc.dropLast :=
  fun above ha => h above (ha.trans (List.dropLast_prefix loc))

theorem Grounded.concat (h : t.Grounded loc) (hname : t.get? (loc ++ [name]) = some .directory) :
    t.Grounded (loc ++ [name]) := by
  intro above ha
  rcases List.prefix_concat_iff.mp ha with rfl | ha
  · exact hname
  · exact h above ha

/-- All places on the way are directories. -/
structure Passable (t : FileTree) (loc : Location) (steps : List String) : Prop where
  directory : ∀ v ∈ visited loc steps, t.get? v = some .directory
  short : ∀ step ∈ steps, isTooLong step = false

/-- No file is on the way, and nothing whose name is too long. -/
structure Clear (t : FileTree) (loc : Location) (steps : List String) : Prop where
  noFile : ∀ v ∈ visited loc steps, ∀ content, t.get? v ≠ some (.file content)
  short : ∀ step ∈ steps, isTooLong step = false

theorem Passable.clear (h : t.Passable loc steps) : t.Clear loc steps := by
  refine ⟨fun v hv content hfile => ?_, h.short⟩
  rw [h.directory v hv] at hfile
  cases hfile

/-- Only files are in the way. -/
theorem clear_congr (h : ∀ v ∈ visited loc steps, ∀ content,
    t'.get? v = some (.file content) ↔ t.get? v = some (.file content)) :
    t'.Clear loc steps ↔ t.Clear loc steps := by
  constructor
  · intro hc
    exact ⟨fun v hv content => (h v hv content).not.mp (hc.noFile v hv content), hc.short⟩
  · intro hc
    exact ⟨fun v hv content => (h v hv content).not.mpr (hc.noFile v hv content), hc.short⟩

theorem passable_append_iff {more : List String} :
    t.Passable loc (steps ++ more) ↔
      t.Passable loc steps ∧ t.Passable (destination loc steps) more := by
  constructor
  · intro h
    have hdirectory := h.directory
    simp only [visited_append, List.mem_append] at hdirectory
    exact ⟨⟨fun v hv => hdirectory v (.inl hv), fun s hs => h.short s (List.mem_append_left _ hs)⟩,
      ⟨fun v hv => hdirectory v (.inr hv), fun s hs => h.short s (List.mem_append_right _ hs)⟩⟩
  · rintro ⟨hsteps, hmore⟩
    constructor
    · intro v hv
      rw [visited_append, List.mem_append] at hv
      exact hv.elim (hsteps.directory v) (hmore.directory v)
    · intro s hs
      exact (List.mem_append.mp hs).elim (hsteps.short s) (hmore.short s)

theorem clear_append_iff {more : List String} :
    t.Clear loc (steps ++ more) ↔ t.Clear loc steps ∧ t.Clear (destination loc steps) more := by
  constructor
  · intro h
    have hfile := h.noFile
    simp only [visited_append, List.mem_append] at hfile
    exact ⟨⟨fun v hv => hfile v (.inl hv), fun s hs => h.short s (List.mem_append_left _ hs)⟩,
      ⟨fun v hv => hfile v (.inr hv), fun s hs => h.short s (List.mem_append_right _ hs)⟩⟩
  · rintro ⟨hsteps, hmore⟩
    constructor
    · intro v hv
      rw [visited_append, List.mem_append] at hv
      exact hv.elim (hsteps.noFile v) (hmore.noFile v)
    · intro s hs
      exact (List.mem_append.mp hs).elim (hsteps.short s) (hmore.short s)

theorem passable_singleton (h : ¬IsOrdinary name) : t.Passable loc [name] := by
  have hname : name = "." ∨ name = ".." := by
    by_contra hne
    exact h ⟨fun e => hne (.inl e), fun e => hne (.inr e)⟩
  rcases hname with rfl | rfl <;> exact ⟨by simp [visited], by decide⟩

theorem passable_singleton_iff (h : IsOrdinary name) :
    t.Passable loc [name] ↔ t.get? (loc ++ [name]) = some .directory ∧ isTooLong name = false := by
  have hvisited : visited loc [name] = [loc ++ [name]] := visited_concat h loc []
  constructor
  · intro hp
    exact ⟨hp.directory _ (by simp [hvisited]), hp.short name (by simp)⟩
  · rintro ⟨hdirectory, hshort⟩
    exact ⟨by simp [hvisited, hdirectory], by simp [hshort]⟩

theorem clear_singleton_iff (h : IsOrdinary name) :
    t.Clear loc [name] ↔
      (∀ content, t.get? (loc ++ [name]) ≠ some (.file content)) ∧ isTooLong name = false := by
  have hvisited : visited loc [name] = [loc ++ [name]] := visited_concat h loc []
  constructor
  · intro hc
    exact ⟨hc.noFile _ (by simp [hvisited]), hc.short name (by simp)⟩
  · rintro ⟨hfile, hshort⟩
    exact ⟨by simp [hvisited, hfile], by simp [hshort]⟩

theorem enter_cons (h : t.get? loc = some .directory) (step : String) (steps : List String) :
    t.enter loc (step :: steps) =
      if step = "." then t.enter loc steps
      else if step = ".." then t.enter loc.dropLast steps
      else if isTooLong step then .error .nameTooLong
      else t.enter (loc ++ [step]) steps := by
  simp only [enter, List.cons_append, follow, h]

theorem enter_of_none (h : t.get? loc = none) (steps : List String) :
    t.enter loc steps = .error .notFound := by
  cases steps <;> simp [enter, follow, h]

theorem enter_of_file {content : ByteArray} (h : t.get? loc = some (.file content))
    (steps : List String) : t.enter loc steps = .error .notDirectory := by
  cases steps <;> simp [enter, follow, h]

/-- A way can be gone when it is passable. What is missing on it is the first thing to be told, unless
there is more than that in the way. -/
theorem enter_cases (h : t.Grounded loc) (steps : List String) :
    (t.Passable loc steps ∧ t.enter loc steps = .ok (destination loc steps)) ∨
      (¬t.Passable loc steps ∧
        ∃ fault, t.enter loc steps = .error fault ∧ (t.Clear loc steps → fault = .notFound)) := by
  induction steps generalizing loc with
  | nil =>
    refine .inl ⟨⟨nofun, nofun⟩, ?_⟩
    simp [enter, follow, h.get?, destination]
  | cons step steps ih =>
    rw [enter_cons h.get?, ← List.singleton_append, passable_append_iff, clear_append_iff,
      destination_append]
    by_cases hstep : IsOrdinary step
    · have hv : destination loc [step] = loc ++ [step] := destination_concat hstep loc []
      rw [if_neg hstep.ne_dot, if_neg hstep.ne_dots, hv, passable_singleton_iff hstep,
        clear_singleton_iff hstep]
      cases hlong : isTooLong step with
      | true => exact .inr ⟨by simp, .nameTooLong, rfl, by simp⟩
      | false =>
        cases hentry : t.get? (loc ++ [step]) with
        | none => exact .inr ⟨by simp, .notFound, enter_of_none hentry steps, fun _ => rfl⟩
        | some e =>
          cases e with
          | file content =>
            exact .inr ⟨by simp, .notDirectory, enter_of_file hentry steps, by simp⟩
          | directory => simpa using ih (h.concat hentry)
    · have hp : t.Passable loc [step] := passable_singleton hstep
      simp only [hp, hp.clear, true_and]
      by_cases hdot : step = "."
      · simpa [hdot, destination] using ih h
      · have hdots : step = ".." := by
          by_contra hne
          exact hstep ⟨hdot, hne⟩
        simpa [hdots, destination] using ih h.dropLast

theorem Passable.enter (hp : t.Passable loc steps) (h : t.Grounded loc) :
    t.enter loc steps = .ok (destination loc steps) := by
  rcases enter_cases h steps with ⟨-, henter⟩ | ⟨hnot, -⟩
  · exact henter
  · exact absurd hp hnot

theorem follow_append (loc : Location) (steps more : List String) :
    t.follow loc (steps ++ more) = (t.follow loc steps).bind fun l => t.follow l more := by
  induction steps generalizing loc with
  | nil => rfl
  | cons step steps ih =>
    simp only [List.cons_append, follow]
    cases t.get? loc with
    | none => rfl
    | some e =>
      cases e with
      | file content => rfl
      | directory => simp only [ih]; split_ifs <;> rfl

/-- The last step of a passable way may lead to anything. -/
theorem Passable.follow_concat (hp : t.Passable loc steps) (h : t.Grounded loc)
    (hname : IsOrdinary name) (hshort : isTooLong name = false) :
    t.follow loc (steps ++ [name]) = .ok (destination loc steps ++ [name]) := by
  have henter := hp.enter h
  rw [FileTree.enter, follow_append] at henter
  rw [follow_append]
  cases hl : t.follow loc steps with
  | error fault => simp [hl, Except.bind] at henter
  | ok l =>
    simp only [hl, Except.bind, follow] at henter ⊢
    cases hentry : t.get? l with
    | none => simp [hentry] at henter
    | some e =>
      cases e with
      | file content => simp [hentry] at henter
      | directory =>
        obtain rfl : l = destination loc steps := by simpa [hentry] using henter
        simp [hname.ne_dot, hname.ne_dots, hshort]

/-- Nothing has changed but that there are directories where nothing was before, at some places. -/
def Widened (t t' : FileTree) (places : List Location) : Prop :=
  ∀ v, t'.get? v = t.get? v ∨
    t.get? v = none ∧ t'.get? v = some .directory ∧ v ∈ places

namespace Widened
variable {places more : List Location}

theorem refl (t : FileTree) (places : List Location) : t.Widened t places := fun _ => .inl rfl

theorem mono (h : t.Widened t' places) (hsub : places ⊆ more) : t.Widened t' more :=
  fun v => (h v).imp_right fun ⟨hnone, hdirectory, hv⟩ => ⟨hnone, hdirectory, hsub hv⟩

theorem trans {t'' : FileTree} (h : t.Widened t' places) (h' : t'.Widened t'' places) :
    t.Widened t'' places := by
  intro v
  rcases h' v with h' | ⟨hnone, hdirectory, hv⟩
  · rw [h']
    exact h v
  · refine .inr ⟨?_, hdirectory, hv⟩
    rcases h v with h | ⟨hnone', -, -⟩
    · rw [← h, hnone]
    · exact hnone'

theorem directory (h : t.Widened t' places) {v : Location} (hv : t.get? v = some .directory) :
    t'.get? v = some .directory := by
  rcases h v with h | ⟨hnone, -, -⟩
  · rw [h, hv]
  · rw [hv] at hnone
    cases hnone

theorem grounded (h : t.Widened t' places) (hg : t.Grounded loc) : t'.Grounded loc :=
  fun above ha => h.directory (hg above ha)

theorem file_iff (h : t.Widened t' places) (v : Location) (content : ByteArray) :
    t'.get? v = some (.file content) ↔ t.get? v = some (.file content) := by
  rcases h v with h | ⟨hnone, hdirectory, -⟩
  · rw [h]
  · simp [hnone, hdirectory]

/-- What is in the way is files, and there are no more and no fewer of them. -/
theorem clear_iff (h : t.Widened t' places) : t'.Clear loc steps ↔ t.Clear loc steps :=
  clear_congr fun v _ content => h.file_iff v content

end Widened

/-- An attempt to make all directories on a way. It succeeds when the way is clear. -/
structure Made (t : FileTree) (loc : Location) (steps : List String) (a : Attempt) : Prop where
  ok_iff : a.result = .ok () ↔ t.Clear loc steps
  widened : t.Widened a.tree (visited loc steps)
  passable : a.result = .ok () → a.tree.Passable loc steps

theorem tree_unlessThere (a : Attempt) (loc : Location) (steps : List String) :
    (a.unlessThere loc steps).tree = a.tree := by
  unfold Attempt.unlessThere
  split <;> rfl

theorem unlessThere_of_ok {a : Attempt} (h : a.result = .ok ()) (loc : Location)
    (steps : List String) : a.unlessThere loc steps = a := by
  unfold Attempt.unlessThere
  split
  · rw [← h]
  · rfl

theorem result_unlessThere {a : Attempt} (h : a.tree.Grounded loc) (steps : List String) :
    (a.unlessThere loc steps).result = .ok () ↔
      a.result = .ok () ∨ a.tree.Passable loc steps := by
  unfold Attempt.unlessThere
  rcases enter_cases h steps with ⟨hp, he⟩ | ⟨hp, fault, he, -⟩ <;>
    simp [he, hp, Except.toOption]

/-- An attempt that failed and changed nothing is none the worse where the directories are there. -/
theorem unlessThere_made (h : t.Grounded loc) (hc : t.Clear loc steps → t.Passable loc steps)
    (fault : FileFault) : Made t loc steps (Attempt.unlessThere ⟨t, .error fault⟩ loc steps) := by
  have htree := tree_unlessThere ⟨t, .error fault⟩ loc steps
  have hok : (Attempt.unlessThere ⟨t, .error fault⟩ loc steps).result = .ok () ↔
      t.Passable loc steps := by
    rw [result_unlessThere h]
    simp
  refine ⟨hok.trans ⟨Passable.clear, hc⟩, ?_, fun hr => ?_⟩
  · rw [htree]
    exact .refl t _
  · rw [htree]
    exact hok.mp hr

/-- Behind a passable way there is room for one more directory where nothing is. -/
theorem put_made (hname : IsOrdinary name) (hp : t.Passable loc steps)
    (hentry : t.get? (destination loc steps ++ [name]) = none) (hshort : isTooLong name = false) :
    Made t loc (steps ++ [name])
      ⟨t.put (destination loc steps ++ [name]) .directory, .ok ()⟩ := by
  have hfree : t.get? (destination loc steps ++ [name]) ≠ some .directory := by simp [hentry]
  have hput := get?_put hfree .directory
  have hwidened : t.Widened (t.put (destination loc steps ++ [name]) .directory)
      (visited loc (steps ++ [name])) := by
    intro v
    rw [hput v]
    split
    · next hv => exact .inr ⟨hv ▸ hentry, rfl, by simp [visited_concat hname, hv]⟩
    · exact .inl rfl
  have hpassable : (t.put (destination loc steps ++ [name]) .directory).Passable loc
      (steps ++ [name]) := by
    rw [passable_append_iff, passable_singleton_iff hname]
    exact ⟨⟨fun v hv => hwidened.directory (hp.directory v hv), hp.short⟩, by simp [hput], hshort⟩
  have hclear : t.Clear loc (steps ++ [name]) := hwidened.clear_iff.mp hpassable.clear
  exact ⟨⟨fun _ => hclear, fun _ => rfl⟩, hwidened, fun _ => hpassable⟩

/-- On a passable way one more directory is made, or found, if no file is in its place. -/
theorem makeDirectory_made (h : t.Grounded loc) (hp : t.Passable loc steps) (name : String) :
    Made t loc (steps ++ [name])
      ((t.makeDirectory loc steps name).unlessThere loc (steps ++ [name])) := by
  have henter := hp.enter h
  by_cases hname : IsOrdinary name
  · unfold makeDirectory
    simp only [henter, hname.ne_dot, hname.ne_dots, false_or]
    cases hentry : t.get? (destination loc steps ++ [name]) with
    | some e =>
      refine unlessThere_made h (fun hc => ?_) _
      rw [clear_append_iff, clear_singleton_iff hname] at hc
      rw [passable_append_iff, passable_singleton_iff hname]
      cases e with
      | file content => exact absurd hentry (hc.2.1 content)
      | directory => exact ⟨hp, hentry, hc.2.2⟩
    | none =>
      cases hlong : isTooLong name with
      | true =>
        refine unlessThere_made h (fun hc => ?_) _
        rw [clear_append_iff, clear_singleton_iff hname, hlong] at hc
        cases hc.2.2
      | false =>
        let made : Attempt := ⟨t.put (destination loc steps ++ [name]) .directory, .ok ()⟩
        have hkept : made.unlessThere loc (steps ++ [name]) = made := unlessThere_of_ok rfl loc _
        exact hkept.symm ▸ put_made hname hp hentry hlong
  · have hdots : name = "." ∨ name = ".." := by
      by_contra hne
      exact hname ⟨fun e => hne (.inl e), fun e => hne (.inr e)⟩
    have hmade : t.makeDirectory loc steps name = ⟨t, .error .alreadyExists⟩ := by
      rcases hdots with rfl | rfl <;> simp [makeDirectory, henter]
    rw [hmade]
    refine unlessThere_made h (fun _ => ?_) _
    exact passable_append_iff.mpr ⟨hp, passable_singleton hname⟩

theorem visited_subset_concat (loc : Location) (steps : List String) (name : String) :
    visited loc steps ⊆ visited loc (steps ++ [name]) := by
  rw [visited_append]
  exact List.subset_append_left _ _

/-- What is made behind a way that has just been made is as good as made from the beginning. -/
theorem Made.of_widened {a : Attempt} (hw : t.Widened t' (visited loc steps))
    (hm : Made t' loc (steps ++ [name]) a) : Made t loc (steps ++ [name]) a :=
  ⟨hm.ok_iff.trans hw.clear_iff, (hw.mono (visited_subset_concat loc steps name)).trans hm.widened,
    hm.passable⟩

/-- What fails on the first part of a way fails on the whole of it. -/
theorem Made.of_error {a : Attempt} (hm : Made t loc steps a) {fault : FileFault}
    (h : a.result = .error fault) (name : String) : Made t loc (steps ++ [name]) a := by
  have hfailed : a.result ≠ .ok () := by simp [h]
  refine ⟨⟨fun hok => absurd hok hfailed, fun hc => ?_⟩,
    hm.widened.mono (visited_subset_concat loc steps name), fun hok => absurd hok hfailed⟩
  exact absurd (hm.ok_iff.mpr (clear_append_iff.mp hc).1) hfailed

/-- Where the way to a directory is not passable it is made first, if that is all that is wrong. -/
theorem makeBelow_made (h : t.Grounded loc) {makeAbove : FileTree → Attempt}
    (habove : Made t loc steps (makeAbove t)) (name : String) :
    Made t loc (steps ++ [name]) (t.makeBelow makeAbove loc steps name) := by
  simp only [makeBelow]
  rcases enter_cases h steps with ⟨hp, henter⟩ | ⟨hp, fault, henter, hfault⟩
  · have hmade := makeDirectory_made h hp name
    have hfirst : (t.makeDirectory loc steps name).result ≠ .error .notFound := by
      simp only [makeDirectory, henter]
      split
      · simp
      · split <;> simp
    split
    · next hok => rwa [unlessThere_of_ok hok] at hmade
    · next hnone => exact absurd hnone hfirst
    · exact hmade
  · have hfirst : t.makeDirectory loc steps name = ⟨t, .error fault⟩ := by
      simp [makeDirectory, henter]
    rw [hfirst]
    -- Only a fault that says something is missing has the way made and the last step tried again.
    split
    · next hok => cases hok
    · split
      · next hok =>
        have hg := habove.widened.grounded h
        exact .of_widened habove.widened (makeDirectory_made hg (habove.passable hok) name)
      · next hfailed => exact habove.of_error hfailed name
    · next other hother heq =>
      refine unlessThere_made h (fun hc => ?_) fault
      have hnone := hfault (clear_append_iff.mp hc).1
      exact absurd ((Except.error.inj heq).symm.trans hnone) hother

/-- All directories on a way are made if it is clear. -/
theorem makeDirectories_made (h : t.Grounded loc) (steps : List String) :
    Made t loc steps.reverse (makeDirectories loc steps t) := by
  induction steps with
  | nil => exact ⟨⟨fun _ => ⟨nofun, nofun⟩, fun _ => rfl⟩, .refl t _, fun _ => ⟨nofun, nofun⟩⟩
  | cons name steps ih =>
    rw [List.reverse_cons]
    exact makeBelow_made h ih name

theorem made_filter_dots {a : Attempt} :
    Made t loc (steps.filter (· != ".")) a ↔ Made t loc steps a := by
  have hshort : (∀ step ∈ steps.filter (· != "."), isTooLong step = false) ↔
      ∀ step ∈ steps, isTooLong step = false := by
    refine ⟨fun h step hs => ?_, fun h step hs => h step (List.mem_of_mem_filter hs)⟩
    by_cases hdot : step = "."
    · rw [hdot]
      decide
    · exact h step (List.mem_filter.mpr ⟨hs, by simpa using hdot⟩)
  have hclear : t.Clear loc (steps.filter (· != ".")) ↔ t.Clear loc steps := by
    constructor <;> rintro ⟨hfile, hs⟩
    · exact ⟨visited_filter_dots loc steps ▸ hfile, hshort.mp hs⟩
    · exact ⟨(visited_filter_dots loc steps).symm ▸ hfile, hshort.mpr hs⟩
  have hpassable : a.tree.Passable loc (steps.filter (· != ".")) ↔ a.tree.Passable loc steps := by
    constructor <;> rintro ⟨hdirectory, hs⟩
    · exact ⟨visited_filter_dots loc steps ▸ hdirectory, hshort.mp hs⟩
    · exact ⟨(visited_filter_dots loc steps).symm ▸ hdirectory, hshort.mpr hs⟩
  constructor <;> rintro ⟨hok, hwidened, hp⟩
  · exact ⟨hok.trans hclear, visited_filter_dots loc steps ▸ hwidened,
      fun h => hpassable.mp (hp h)⟩
  · exact ⟨hok.trans hclear.symm, (visited_filter_dots loc steps).symm ▸ hwidened,
      fun h => hpassable.mpr (hp h)⟩

end ServiceWiring.FileTree
