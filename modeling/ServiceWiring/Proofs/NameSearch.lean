import Mathlib.Data.Finset.Card
import ServiceWiring.Proofs.Separation

/-! The search for a free name. It tries the base itself and then the base with one number after another
behind it, at most one name more than are taken. What it finds is the first that is free, so that names
given out one after another depend on their bases and on nothing else. -/
namespace ServiceWiring.Batch

/-- A search that comes to try `name`, and after that `base` with the number `next` behind it, finds
`found` and tries so many names. It goes on for as long as it comes to names that are taken. -/
inductive Search (base : String) (taken : Finset String) : (name : String) → (next tries : Nat) →
    (found : String) → Prop
  | free {name : String} (next : Nat) (h : name ∉ taken) : Search base taken name next 1 name
  | again {name found : String} {next tries : Nat} (h : name ∈ taken)
    (rest : Search base taken (numbered base next) (next + 1) tries found) :
    Search base taken name next (tries + 1) found

/-- A name is free and the first that is, and the search for it ends. The number behind the base is that
of the names tried, so that it grows by one at most with each name taken. -/
structure LeastFree (base : String) (taken : Finset String) (name : String) : Prop where
  free : name ∉ taken
  eq_base : base ∉ taken → name = base
  eq_numbered : base ∈ taken → ∃ k, 2 ≤ k ∧ k ≤ taken.card + 1 ∧ name = numbered base k ∧
    ∀ j, 2 ≤ j → j < k → numbered base j ∈ taken
  ends : ∃ tries ≤ taken.card + 1, Search base taken base 2 tries name

/-- Names given out one after another for what they are to be based on. A name is taken as soon as it is
given out, and nothing else is. -/
inductive GivenOut : Finset String → (bases names : List String) → Prop
  | nil (taken : Finset String) : GivenOut taken [] []
  | cons {taken : Finset String} {base name : String} {bases names : List String}
    (h : LeastFree base taken name) (rest : GivenOut (insert name taken) bases names) :
    GivenOut taken (base :: bases) (name :: names)

section Search
variable {base : String} {taken : Finset String}

theorem Search.unique {name found other : String} {next tries others : Nat}
    (h : Search base taken name next tries found) (h' : Search base taken name next others other) :
    tries = others ∧ found = other := by
  induction h generalizing others with
  | free next hfree =>
    cases h' with
    | free => exact ⟨rfl, rfl⟩
    | again htaken => exact absurd htaken hfree
  | again htaken _ ih =>
    cases h' with
    | free _ hfree => exact absurd htaken hfree
    | again _ rest =>
      obtain ⟨rfl, rfl⟩ := ih rest
      exact ⟨rfl, rfl⟩

/-- A search passes the numbers that are taken and stops at the next one. -/
theorem search_numbered {first passed : Nat}
    (htaken : ∀ j < passed, numbered base (j + first) ∈ taken)
    (hfree : numbered base (passed + first) ∉ taken) :
    Search base taken (numbered base first) (first + 1) (passed + 1)
      (numbered base (passed + first)) := by
  induction passed generalizing first with
  | zero =>
    rw [Nat.zero_add first] at hfree ⊢
    exact .free (first + 1) hfree
  | succ passed ih =>
    have hshift (j : Nat) : j + 1 + first = j + (first + 1) := by omega
    have hfirst := htaken 0 (by omega)
    rw [Nat.zero_add] at hfirst
    rw [hshift] at hfree ⊢
    apply Search.again hfirst
    apply ih _ hfree
    intro j hj
    rw [← hshift]
    exact htaken (j + 1) (by omega)

theorem LeastFree.unique {name other : String} (h : LeastFree base taken name)
    (h' : LeastFree base taken other) : name = other := by
  obtain ⟨_, -, hname⟩ := h.ends
  obtain ⟨_, -, hother⟩ := h'.ends
  exact (hname.unique hother).2

theorem GivenOut.unique {bases names others : List String} (h : GivenOut taken bases names)
    (h' : GivenOut taken bases others) : names = others := by
  induction h generalizing others with
  | nil => cases h' with
    | nil => rfl
  | cons hname _ ih => cases h' with
    | cons hother rest =>
      obtain rfl := hname.unique hother
      rw [ih rest]

end Search

section FreeName
variable {base : String} {taken : List String}

theorem freeName_of_free (h : base ∉ taken) : freeName base taken = base := by
  simp [freeName, candidates, h]

/-- Where the base is taken, the name has the first number that is free with it. -/
theorem exists_freeName_numbered (h : base ∈ taken) :
    ∃ i < taken.length, freeName base taken = numbered base (i + 2) ∧
      ∀ j < i, numbered base (j + 2) ∈ taken := by
  let isFree (i : Nat) : Bool := !taken.contains (numbered base (i + 2))
  have hname : freeName base taken =
      (((List.range taken.length).find? isFree).map fun i => numbered base (i + 2)).getD base := by
    rw [freeName, candidates, List.find?_cons_of_neg (by simpa using h), List.find?_map]
    rfl
  cases hfind : (List.range taken.length).find? isFree with
  | none =>
    rw [hfind, Option.map_none, Option.getD_none] at hname
    exact absurd h (hname ▸ (freeName_spec base taken).2)
  | some i =>
    rw [hfind, Option.map_some, Option.getD_some] at hname
    obtain ⟨-, hlt, hbefore⟩ := List.find?_range_eq_some.mp hfind
    refine ⟨i, List.mem_range.mp hlt, hname, fun j hj => ?_⟩
    simpa [isFree] using hbefore j hj

/-- The first of the candidates that is free is the first of all names that is. -/
theorem leastFree_freeName (base : String) (htaken : taken.Nodup) :
    LeastFree base taken.toFinset (freeName base taken) := by
  have hcard : taken.toFinset.card = taken.length := List.toFinset_card_of_nodup htaken
  have hfree : freeName base taken ∉ taken.toFinset := by
    rw [List.mem_toFinset]
    exact (freeName_spec base taken).2
  by_cases hbase : base ∈ taken
  · have hbaseTaken : base ∈ taken.toFinset := List.mem_toFinset.mpr hbase
    obtain ⟨i, hi, hname, hbefore⟩ := exists_freeName_numbered hbase
    have hpassed : ∀ j < i, numbered base (j + 2) ∈ taken.toFinset :=
      fun j hj => List.mem_toFinset.mpr (hbefore j hj)
    rw [hname] at hfree ⊢
    refine ⟨hfree, fun h => absurd hbaseTaken h, fun _ => ⟨i + 2, by omega, by omega, rfl, ?_⟩,
      i + 2, by omega, .again hbaseTaken (search_numbered hpassed hfree)⟩
    intro j hj hlt
    have hmem := hpassed (j - 2) (by omega)
    rwa [Nat.sub_add_cancel hj] at hmem
  · rw [freeName_of_free hbase] at hfree ⊢
    exact ⟨hfree, fun _ => rfl, fun h => absurd h hfree, 1, by omega, .free 2 hfree⟩

end FreeName

/-- What the directory of a run is to be called, if it has a document. -/
def base? : Except Failure UnitRun → Option String
  | .ok ⟨manifest, unit, some _⟩ => some (directoryName unit manifest)
  | _ => none

theorem givenOut_nestedDeliveries (out : String) {taken : List String} (htaken : taken.Nodup)
    (runs : List (Except Failure UnitRun)) :
    ∃ names, GivenOut taken.toFinset (runs.filterMap base?) names ∧
      (nestedDeliveries out taken runs).filterMap Delivery.directory? =
        names.map (Path.join out) := by
  induction runs generalizing taken with
  | nil => exact ⟨[], .nil _, rfl⟩
  | cons run runs ih =>
    cases run with
    | error failure => exact ih htaken
    | ok run =>
      obtain ⟨manifest, unit, document⟩ := run
      cases document with
      | none => exact ih htaken
      | some d =>
        have hname := leastFree_freeName (directoryName unit manifest) htaken
        have hfree := (freeName_spec (directoryName unit manifest) taken).2
        obtain ⟨names, hnames, hdirectories⟩ := ih (List.nodup_cons.mpr ⟨hfree, htaken⟩)
        rw [List.toFinset_cons] at hnames
        exact ⟨_, .cons hname hnames, congrArg (List.cons _) hdirectories⟩

/-- The directories of several runs have the first names that are free, in turn. They depend on what
the directories are to be called and on nothing else. -/
theorem directories_givenOut (out : String) (runs : List (Except Failure UnitRun)) :
    ∃ names, GivenOut ∅ (runs.filterMap base?) names ∧
      (nestedDeliveries out [] runs).filterMap Delivery.directory? = names.map (Path.join out) ∧
      ∀ others, GivenOut ∅ (runs.filterMap base?) others → others = names := by
  obtain ⟨names, hnames, hdirectories⟩ := givenOut_nestedDeliveries out List.nodup_nil runs
  exact ⟨names, hnames, hdirectories, fun others h => h.unique hnames⟩

end ServiceWiring.Batch
