import ServiceWiring.Document.Saving
import ServiceWiring.Proofs.Text.Pieces
import ServiceWiring.Proofs.Ways

/-! Documents saved in a tree: which can be, and what saving one does to the rest of the tree. -/
namespace ServiceWiring
open ServiceWiring.Text

namespace Path
variable {name directory : String}

/-- A name that can stand between the slashes of a path and leads down from the directory before it. -/
structure IsPart (name : String) : Prop extends FileTree.IsOrdinary name where
  ne_empty : name ≠ ""
  slash_not_mem : '/' ∉ name.toList

theorem names_append_slash (before after : String) :
    names (before ++ "/" ++ after) = names before ++ names after := by
  simp [names, pieces_append_separator]

theorem names_of_isPart (h : IsPart name) : names name = [name] := by
  have hne : name.toList ≠ [] := by simpa using h.ne_empty
  simp [names, pieces_of_not_mem h.slash_not_mem, hne]

theorem isAbsolute_of_isPart (h : IsPart name) : isAbsolute name = false := by
  rw [isAbsolute, beq_eq_false_iff_ne]
  intro hhead
  exact h.slash_not_mem (List.mem_of_mem_head? hhead)

/-- A part is put behind a slash, which a directory may end in already. -/
theorem exists_join (h : IsPart name) (hdirectory : directory ≠ "") :
    ∃ before, join directory name = before ++ "/" ++ name ∧ names before = names directory ∧
      (directory = before ∨ directory = before ++ "/") := by
  by_cases hends : endsInSlash directory = true
  · have hlast : directory.toList.getLast? = some '/' := by simpa [endsInSlash] using hends
    obtain ⟨cs, hcs⟩ := List.getLast?_eq_some_iff.mp hlast
    have hcut : directory = String.ofList cs ++ "/" := by
      apply String.toList_injective
      simp [hcs]
    refine ⟨String.ofList cs, ?_, ?_, .inr hcut⟩
    · simp [join, isAbsolute_of_isPart h, hends, ← hcut]
    · rw [hcut, ← String.append_empty (s := String.ofList cs ++ "/"), names_append_slash]
      simp [names, pieces]
  · refine ⟨directory, ?_, rfl, .inl rfl⟩
    simp [join, isAbsolute_of_isPart h, hends, hdirectory]

theorem join_empty (h : IsPart name) : join "" name = name := by
  simp [join, isAbsolute_of_isPart h]

theorem names_join (h : IsPart name) (directory : String) :
    names (join directory name) = names directory ++ [name] := by
  by_cases hdirectory : directory = ""
  · rw [hdirectory, join_empty h, names_of_isPart h]
    simp [names, pieces]
  · obtain ⟨before, hjoin, hnames, -⟩ := exists_join h hdirectory
    rw [hjoin, names_append_slash, hnames, names_of_isPart h]

theorem isAbsolute_join (h : IsPart name) (directory : String) :
    isAbsolute (join directory name) = isAbsolute directory := by
  by_cases hdirectory : directory = ""
  · rw [hdirectory, join_empty h, isAbsolute_of_isPart h]
    rfl
  · obtain ⟨before, hjoin, -, hbefore⟩ := exists_join h hdirectory
    rw [hjoin]
    rcases hbefore with rfl | rfl
    · cases hcs : directory.toList with
      | nil => exact absurd (String.toList_injective hcs) hdirectory
      | cons c cs => simp [isAbsolute, hcs]
    · cases hcs : before.toList <;> simp [isAbsolute, hcs]

theorem start_join (h : IsPart name) (directory : String) :
    FileTree.start (join directory name) = FileTree.start directory := by
  simp only [FileTree.start, isAbsolute_join h]

theorem endsInSlash_join (h : IsPart name) (directory : String) :
    endsInSlash (join directory name) = false := by
  obtain ⟨before, hjoin⟩ : ∃ before, join directory name = before ++ name := by
    by_cases hdirectory : directory = ""
    · exact ⟨"", by rw [hdirectory, join_empty h]; simp⟩
    · obtain ⟨before, hjoin, -, -⟩ := exists_join h hdirectory
      exact ⟨before ++ "/", hjoin⟩
  have hne : name.toList ≠ [] := by simpa using h.ne_empty
  have hlast : (before ++ name).toList.getLast? = some (name.toList.getLast hne) := by
    rw [String.toList_append, List.getLast?_append_of_ne_nil _ hne,
      List.getLast?_eq_some_getLast hne]
  rw [endsInSlash, hjoin, hlast, beq_eq_false_iff_ne]
  intro hslash
  exact h.slash_not_mem (Option.some.inj hslash ▸ List.getLast_mem hne)

theorem steps_join (h : IsPart name) (directory : String) :
    steps (join directory name) = names directory ++ [name] := by
  simp [steps, endsInSlash_join h, names_join h]

theorem join_ne_empty (h : IsPart name) (directory : String) : join directory name ≠ "" := by
  intro hempty
  have hnames := names_join h directory
  rw [hempty] at hnames
  simp [names, pieces] at hnames

end Path

namespace FileTree
open ServiceWiring.Path
variable {t : FileTree} {name directory part : String}

/-- Where a file in a directory is. -/
def placeIn (directory name : String) : Location :=
  destination (start directory) (names directory) ++ [name]

theorem createDirectories_made (h : IsPart part)
    (hfault : pathFault? (join directory part) = none) :
    Made t (start directory) (names directory ++ [part])
      (t.createDirectories (join directory part)) := by
  have habove := makeDirectories_made (grounded_start t directory)
    ((names directory).filter (· != ".")).reverse
  rw [List.reverse_reverse, made_filter_dots] at habove
  have hmade := makeBelow_made (grounded_start t directory) habove part
  simpa [createDirectories, hfault, names_join h, start_join h, h.ne_dot] using hmade

/-- A file can be written: its directory is there, and no directory has its name. -/
structure Writable (t : FileTree) (directory name : String) : Prop where
  sound : pathFault? (join directory name) = none
  passable : t.Passable (start directory) (names directory)
  short : isTooLong name = false
  free : t.get? (placeIn directory name) ≠ some .directory

theorem writeText_cases (h : IsPart name) (text : String) :
    (t.Writable directory name ∧ t.writeText (join directory name) text =
        ⟨t.put (placeIn directory name) (.file text.toUTF8), .ok ()⟩) ∨
      (¬t.Writable directory name ∧
        ∃ fault, t.writeText (join directory name) text = ⟨t, .error fault⟩) := by
  unfold writeText changeFile
  simp only [names_join h, List.reverse_append, List.reverse_singleton, List.singleton_append,
    start_join h, endsInSlash_join h]
  cases hfault : pathFault? (join directory name) with
  | some fault => exact .inr ⟨fun hw => by simp [hw.sound] at hfault, fault, rfl⟩
  | none =>
    simp only [List.reverse_reverse]
    rcases enter_cases (grounded_start t directory) (names directory) with
      ⟨hp, henter⟩ | ⟨hp, fault, henter, -⟩
    · simp only [henter, h.ne_dot, h.ne_dots, false_or, Bool.false_eq_true, if_false]
      cases hlong : isTooLong name with
      | true => exact .inr ⟨fun hw => by simp [hw.short] at hlong, .nameTooLong, rfl⟩
      | false =>
        by_cases hfree : t.get? (placeIn directory name) = some .directory
        · refine .inr ⟨fun hw => hw.free hfree, .isDirectory, ?_⟩
          rw [placeIn] at hfree
          simp [hfree]
        · refine .inl ⟨⟨hfault, hp, hlong, hfree⟩, ?_⟩
          unfold placeIn at hfree ⊢
          cases hentry : t.get? (destination (start directory) (names directory) ++ [name]) with
          | none => rfl
          | some e =>
            cases e with
            | file content => rfl
            | directory => exact absurd hentry hfree
    · exact .inr ⟨fun hw => hp hw.passable, fault, by rw [henter]⟩

/-- A file with this text is in the directory. -/
structure Holds (t : FileTree) (directory name text : String) : Prop where
  sound : pathFault? (join directory name) = none
  passable : t.Passable (start directory) (names directory)
  short : isTooLong name = false
  file : t.get? (placeIn directory name) = some (.file text.toUTF8)

private theorem fromUTF8?_toByteArray (s : String) : String.fromUTF8? s.toByteArray = some s := by
  simp only [String.fromUTF8?, s.isValidUTF8, dite_true]
  rfl

theorem Holds.readText {text : String} (hh : t.Holds directory name text) (h : IsPart name) :
    t.readText (join directory name) = .ok text := by
  have hfollow := hh.passable.follow_concat (grounded_start t directory) h.toIsOrdinary hh.short
  have hfile := hh.file
  rw [placeIn] at hfile
  simp [FileTree.readText, entry, hh.sound, join_ne_empty h, start_join h, steps_join h, hfollow,
    hfile, fromUTF8?_toByteArray]

/-- A file that has just been written can be read. -/
theorem Writable.holds_put (hw : t.Writable directory name) (text : String) :
    (t.put (placeIn directory name) (.file text.toUTF8)).Holds directory name text := by
  have hput := get?_put hw.free (.file text.toUTF8)
  refine ⟨hw.sound, ⟨fun v hv => ?_, hw.passable.short⟩, hw.short, by rw [hput, if_pos rfl]⟩
  have hdirectory := hw.passable.directory v hv
  rw [hput, if_neg, hdirectory]
  rintro rfl
  exact hw.free hdirectory

/-- Whatever directory a document is saved in, it can be read there. -/
theorem readText_of_save {d : Document} (hname : IsPart d.hintName) {path : String}
    (h : (t.save directory d).2 = .ok path) :
    (t.save directory d).1.readText path = .ok d.text := by
  unfold save at h ⊢
  simp only [Document.pathIn] at h ⊢
  cases hmade : (t.createDirectories directory).result with
  | error fault => simp [hmade] at h
  | ok u =>
    cases u
    have hcases := @writeText_cases (t.createDirectories directory).tree _ directory hname d.text
    rcases hcases with ⟨hw, hwritten⟩ | ⟨-, fault, hwritten⟩
    · simp only [hmade, hwritten, Except.ok.injEq] at h ⊢
      exact h ▸ (hw.holds_put d.text).readText hname
    · simp [hmade, hwritten] at h

/-- A document can be saved in a directory that may have to be made: nothing is in the way to it, and
no directory has the name of the file or gets it on the way. -/
structure Admits (t : FileTree) (directory name : String) : Prop where
  directory_sound : pathFault? directory = none
  sound : pathFault? (join directory name) = none
  clear : t.Clear (start directory) (names directory)
  short : isTooLong name = false
  free : t.get? (placeIn directory name) ≠ some .directory
  apart : placeIn directory name ∉ visited (start directory) (names directory)

/-- On a way that has been made, the file can be written if it could be from the beginning. -/
theorem admits_iff {made : Attempt} (hfault : pathFault? directory = none)
    (hm : Made t (start directory) (names directory) made) (hok : made.result = .ok ()) :
    t.Admits directory name ↔ made.tree.Writable directory name := by
  have hp := hm.passable hok
  constructor
  · intro ha
    refine ⟨ha.sound, hp, ha.short, fun hentry => ?_⟩
    rcases hm.widened (placeIn directory name) with hsame | ⟨-, -, hv⟩
    · exact ha.free (hsame ▸ hentry)
    · exact ha.apart hv
  · intro hw
    refine ⟨hfault, hw.sound, hm.ok_iff.mp hok, hw.short, fun hentry => ?_, fun hv => ?_⟩
    · exact hw.free (hm.widened.directory hentry)
    · exact hw.free (hp.directory _ hv)

theorem placeIn_join (h : IsPart part) (directory name : String) :
    placeIn (join directory part) name =
      destination (start directory) (names directory) ++ [part, name] := by
  rw [placeIn, start_join h, names_join h, destination_concat h.toIsOrdinary]
  simp

theorem placeIn_ne {neighbour : String} (h : IsPart part) (h' : IsPart neighbour)
    (hne : neighbour ≠ part) (directory name : String) :
    placeIn (join directory neighbour) name ≠ placeIn (join directory part) name := by
  simp [placeIn_join h', placeIn_join h, hne]

theorem mem_visited_join (h : IsPart part) (directory : String) {v : Location} :
    v ∈ visited (start (join directory part)) (names (join directory part)) ↔
      v ∈ visited (start directory) (names directory) ∨
        v = destination (start directory) (names directory) ++ [part] := by
  rw [start_join h, names_join h, visited_concat h.toIsOrdinary, List.mem_append,
    List.mem_singleton]

section Parts
variable {d : Document} (hpart : IsPart part) (hname : IsPart d.hintName)
include hpart hname

/-- What saving does: the way to the directory is made as far as it can be, and then, if the tree
admits it, the file is written. -/
theorem save_cases (t : FileTree) (directory : String) :
    ∃ made : FileTree,
      t.Widened made (visited (start directory) (names directory ++ [part])) ∧
        ((t.Admits (join directory part) d.hintName ∧
            made.Writable (join directory part) d.hintName ∧
            t.save (join directory part) d =
              (made.put (placeIn (join directory part) d.hintName) (.file d.text.toUTF8),
                .ok (d.pathIn (join directory part)))) ∨
          (¬t.Admits (join directory part) d.hintName ∧
            ∃ e, t.save (join directory part) d = (made, .error e))) := by
  cases hfault : pathFault? (join directory part) with
  | some fault =>
    refine ⟨t, .refl t _, .inr ⟨fun ha => by simp [ha.directory_sound] at hfault, ?_⟩⟩
    simp [save, createDirectories, hfault]
  | none =>
    have hm := createDirectories_made (t := t) hpart hfault
    refine ⟨_, hm.widened, ?_⟩
    rw [← names_join hpart, ← start_join hpart] at hm
    cases hok : (t.createDirectories (join directory part)).result with
    | error fault =>
      refine .inr ⟨fun ha => ?_, Document.directoryError (join directory part) fault, ?_⟩
      · exact absurd (hm.ok_iff.mpr ha.clear) (by simp [hok])
      · simp only [save, hok]
    | ok u =>
      cases u
      rcases writeText_cases hname d.text
          (t := (t.createDirectories (join directory part)).tree) with
        ⟨hw, hwritten⟩ | ⟨hw, fault, hwritten⟩
      · refine .inl ⟨(admits_iff hfault hm hok).mpr hw, hw, ?_⟩
        simp only [save, hok, Document.pathIn, hwritten]
      · refine .inr ⟨fun ha => hw ((admits_iff hfault hm hok).mp ha),
          Document.writeError (d.pathIn (join directory part)) fault, ?_⟩
        simp only [save, hok, Document.pathIn, hwritten]

/-- Saving changes nothing but the file and the directories on the way to it that were missing. -/
theorem get?_save (directory : String) {v : Location}
    (hv : v = placeIn (join directory part) d.hintName →
      ¬t.Admits (join directory part) d.hintName) :
    (t.save (join directory part) d).1.get? v = t.get? v ∨
      t.get? v = none ∧ (t.save (join directory part) d).1.get? v = some .directory ∧
        v ∈ visited (start directory) (names directory ++ [part]) := by
  obtain ⟨made, hw, ⟨ha, hwritable, hsave⟩ | ⟨-, e, hsave⟩⟩ := save_cases hpart hname t directory
  · rw [hsave, get?_put hwritable.free, if_neg fun e => hv e ha]
    exact hw v
  · rw [hsave]
    exact hw v

theorem directory_save (directory : String) {v : Location} (hv : t.get? v = some .directory) :
    (t.save (join directory part) d).1.get? v = some .directory := by
  rcases get?_save hpart hname directory (v := v) fun e ha => ha.free (e ▸ hv) with
    hsame | ⟨hnone, -, -⟩
  · rw [hsame, hv]
  · rw [hv] at hnone
    cases hnone

/-- The file can be saved exactly where it is admitted, and is there afterwards. -/
theorem save_eq_ok_iff (t : FileTree) (directory : String) :
    (t.save (join directory part) d).2 = .ok (d.pathIn (join directory part)) ↔
      t.Admits (join directory part) d.hintName := by
  obtain ⟨made, -, ⟨ha, -, hsave⟩ | ⟨ha, e, hsave⟩⟩ := save_cases hpart hname t directory
  · simp [hsave, ha]
  · simp [hsave, ha]

theorem holds_save (directory : String) (ha : t.Admits (join directory part) d.hintName) :
    (t.save (join directory part) d).1.Holds (join directory part) d.hintName d.text := by
  obtain ⟨made, -, ⟨-, hw, hsave⟩ | ⟨hnot, -⟩⟩ := save_cases hpart hname t directory
  · rw [hsave]
    exact hw.holds_put d.text
  · exact absurd ha hnot

section Neighbours
variable {neighbour : String} (hneighbour : IsPart neighbour)
include hneighbour

/-- On the way to the directory beside it no file comes or goes. The file that is saved is not on
that way, since the way to its own directory is not through it. -/
theorem clear_save_iff (t : FileTree) (directory : String) :
    (t.save (join directory part) d).1.Clear (start (join directory neighbour))
        (names (join directory neighbour)) ↔
      t.Clear (start (join directory neighbour)) (names (join directory neighbour)) := by
  refine clear_congr fun v hv content => ?_
  have hsaved : v = placeIn (join directory part) d.hintName →
      ¬t.Admits (join directory part) d.hintName := by
    rintro rfl ha
    refine ha.apart ((mem_visited_join hpart directory).mpr (.inl ?_))
    rcases (mem_visited_join hneighbour directory).mp hv with hv | hv
    · exact hv
    · simp [placeIn_join hpart] at hv
  rcases get?_save hpart hname directory hsaved with hsame | ⟨hnone, hdirectory, -⟩
  · rw [hsame]
  · simp [hnone, hdirectory]

variable (hne : neighbour ≠ part)
include hne

/-- A file in the directory beside it stays as it is. -/
theorem Holds.save {directory text : String}
    (h : t.Holds (join directory neighbour) d.hintName text) :
    (t.save (join directory part) d).1.Holds (join directory neighbour) d.hintName text := by
  refine ⟨h.sound, ⟨fun v hv => ?_, h.passable.short⟩, h.short, ?_⟩
  · exact directory_save hpart hname directory (h.passable.directory v hv)
  · rcases get?_save hpart hname directory
        fun e => absurd e (placeIn_ne hpart hneighbour hne directory d.hintName) with
      hsame | ⟨hnone, -, -⟩
    · rw [hsame, h.file]
    · rw [h.file] at hnone
      cases hnone

/-- Where the file beside it is to be, no directory comes or goes, unless it is needed on the way. -/
theorem free_save_iff (t : FileTree) (directory : String)
    (hapart : placeIn (join directory neighbour) d.hintName ∉
      visited (start (join directory neighbour)) (names (join directory neighbour))) :
    (t.save (join directory part) d).1.get? (placeIn (join directory neighbour) d.hintName) ≠
        some .directory ↔
      t.get? (placeIn (join directory neighbour) d.hintName) ≠ some .directory := by
  have hplace := placeIn_ne hpart hneighbour hne directory d.hintName
  rcases get?_save hpart hname directory fun e => absurd e hplace with hsame | ⟨-, -, hv⟩
  · rw [hsame]
  · rw [visited_concat hpart.toIsOrdinary, List.mem_append, List.mem_singleton] at hv
    rcases hv with hv | hv
    · exact absurd ((mem_visited_join hneighbour directory).mpr (.inl hv)) hapart
    · simp [placeIn_join hneighbour] at hv

/-- The directory beside it admits what it would have admitted. -/
theorem admits_save_iff (directory : String) :
    (t.save (join directory part) d).1.Admits (join directory neighbour) d.hintName ↔
      t.Admits (join directory neighbour) d.hintName := by
  have hclear := clear_save_iff hpart hname hneighbour t directory
  have hfree := free_save_iff hpart hname hneighbour hne t directory
  constructor
  · intro h
    exact ⟨h.directory_sound, h.sound, hclear.mp h.clear, h.short, (hfree h.apart).mp h.free, h.apart⟩
  · intro h
    exact ⟨h.directory_sound, h.sound, hclear.mpr h.clear, h.short, (hfree h.apart).mpr h.free,
      h.apart⟩

end Neighbours

end Parts

end FileTree

end ServiceWiring
