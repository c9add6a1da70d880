import Mathlib.Data.List.Forall2
import ServiceWiring.Batch
import ServiceWiring.Proofs.DirectoryName
import ServiceWiring.Proofs.Grouping

/-! Several documents saved below one directory. Each has a directory of its own there, so that what
becomes of one has nothing to do with the others. -/
namespace ServiceWiring

theorem Dialect.isPart_hintName (dialect : Dialect) : Path.IsPart dialect.hintName := by
  cases dialect <;> exact ⟨⟨by decide, by decide⟩, by decide, by decide⟩

theorem Path.join_injective {a b directory : String} (ha : Path.IsPart a) (hb : Path.IsPart b)
    (h : Path.join directory a = Path.join directory b) : a = b := by
  have hnames := congrArg Path.names h
  rw [Path.names_join ha, Path.names_join hb] at hnames
  simpa using hnames

namespace Batch

def Delivery.directory? : Delivery → Option String
  | .save _ directory _ => some directory
  | _ => none

/-- What is to be done about a run, its document being saved in a directory below another one. -/
inductive Nested (out : String) : Except Failure UnitRun → Delivery → Prop
  | fail (failure : Failure) : Nested out (.error failure) (.fail failure)
  | nothing (manifest unit : String) : Nested out (.ok ⟨manifest, unit, none⟩) .nothing
  | save (manifest unit : String) (d : Document) {name : String} (h : IsDirectoryName name) :
    Nested out (.ok ⟨manifest, unit, some d⟩) (.save manifest (Path.join out name) d)

theorem nested_nestedDeliveries (out : String) (taken : List String)
    (runs : List (Except Failure UnitRun)) :
    List.Forall₂ (Nested out) runs (nestedDeliveries out taken runs) := by
  induction runs generalizing taken with
  | nil => exact .nil
  | cons run runs ih =>
    cases run with
    | error failure => exact .cons (.fail failure) (ih taken)
    | ok run =>
      obtain ⟨manifest, unit, document⟩ := run
      cases document with
      | none => exact .cons (.nothing manifest unit) (ih taken)
      | some d =>
        have hname := isDirectoryName_freeName unit manifest taken
        exact .cons (.save manifest unit d hname) (ih _)

/-- Directories are given out below the one that is asked for, and under names not yet taken. -/
theorem directory_of_mem {out directory : String} {taken : List String}
    {runs : List (Except Failure UnitRun)}
    (h : directory ∈ (nestedDeliveries out taken runs).filterMap Delivery.directory?) :
    ∃ name, IsDirectoryName name ∧ name ∉ taken ∧ directory = Path.join out name := by
  induction runs generalizing taken with
  | nil => cases h
  | cons run runs ih =>
    cases run with
    | error failure => exact ih h
    | ok run =>
      obtain ⟨manifest, unit, document⟩ := run
      cases document with
      | none => exact ih h
      | some d =>
        rcases List.mem_cons.mp h with rfl | h
        · exact ⟨_, isDirectoryName_freeName unit manifest taken, (freeName_spec _ taken).2, rfl⟩
        · obtain ⟨name, hname, hfree, rfl⟩ := ih h
          exact ⟨name, hname, fun hmem => hfree (List.mem_cons_of_mem _ hmem), rfl⟩

theorem nodup_directories (out : String) (taken : List String)
    (runs : List (Except Failure UnitRun)) :
    ((nestedDeliveries out taken runs).filterMap Delivery.directory?).Nodup := by
  induction runs generalizing taken with
  | nil => exact List.nodup_nil
  | cons run runs ih =>
    cases run with
    | error failure => exact ih taken
    | ok run =>
      obtain ⟨manifest, unit, document⟩ := run
      cases document with
      | none => exact ih taken
      | some d =>
        refine List.nodup_cons.mpr ⟨fun h => ?_, ih _⟩
        obtain ⟨name, hname, hfree, hjoin⟩ := directory_of_mem h
        have hsame := Path.join_injective
          (isDirectoryName_freeName unit manifest taken).toIsPart hname.toIsPart hjoin
        exact hfree (hsame ▸ List.mem_cons_self)

/-- What has become of a delivery, seen from the tree before all deliveries and the one after. -/
inductive Settled (before after : FileTree) : Delivery → Receipt → Prop
  | failed (failure : Failure) : Settled before after (.fail failure) (.failed failure)
  | nothing : Settled before after .nothing .nothing
  | printed (d : Document) : Settled before after (.print d) (.printed d.text)
  | written {manifest directory : String} {d : Document}
    (hadmits : before.Admits directory d.hintName)
    (hread : after.readText (d.pathIn directory) = .ok d.text) :
    Settled before after (.save manifest directory d) (.written (d.pathIn directory))
  | refused {manifest directory : String} {d : Document} (e : Error)
    (hadmits : ¬before.Admits directory d.hintName) :
    Settled before after (.save manifest directory d) (.failed (saveFailure manifest e))

/-- Deliveries into directories of their own, of documents that go by one file name. -/
structure Apart (out hint : String) (ds : List Delivery) : Prop where
  saved : ∀ manifest directory d, .save manifest directory d ∈ ds →
    d.hintName = hint ∧ ∃ name, Path.IsPart name ∧ directory = Path.join out name
  nodup : (ds.filterMap Delivery.directory?).Nodup

theorem Settled.of_admits_iff {t t' after : FileTree} {x : Delivery} {receipt : Receipt}
    (h : Settled t after x receipt)
    (hiff : ∀ manifest directory d, x = .save manifest directory d →
      (t.Admits directory d.hintName ↔ t'.Admits directory d.hintName)) :
    Settled t' after x receipt := by
  cases h with
  | failed failure => exact .failed failure
  | nothing => exact .nothing
  | printed d => exact .printed d
  | written hadmits hread => exact .written ((hiff _ _ _ rfl).mp hadmits) hread
  | refused e hadmits => exact .refused e fun ha => hadmits ((hiff _ _ _ rfl).mpr ha)

theorem tree_deliver_save (t : FileTree) (manifest directory : String) (d : Document) :
    (deliver t (.save manifest directory d)).1 = (t.save directory d).1 := rfl

namespace Apart
variable {t : FileTree} {out hint name text : String} {x : Delivery} {ds : List Delivery}

theorem tail (h : Apart out hint (x :: ds)) : Apart out hint ds := by
  refine ⟨fun manifest directory d hmem => h.saved _ _ _ (List.mem_cons_of_mem x hmem), ?_⟩
  have hnodup := h.nodup
  cases hx : x.directory? <;> simp_all

variable (hhint : Path.IsPart hint) (hname : Path.IsPart name)
include hhint hname

/-- One delivery does nothing to a file in the directory of another, and neither makes room for it
nor takes it away. -/
theorem deliver_other (h : Apart out hint (x :: ds))
    (hother : x.directory? ≠ some (Path.join out name)) :
    ((deliver t x).1.Admits (Path.join out name) hint ↔ t.Admits (Path.join out name) hint) ∧
      ∀ text, t.Holds (Path.join out name) hint text →
        (deliver t x).1.Holds (Path.join out name) hint text := by
  cases x with
  | fail failure => exact ⟨.rfl, fun _ => id⟩
  | nothing => exact ⟨.rfl, fun _ => id⟩
  | print d => exact ⟨.rfl, fun _ => id⟩
  | save manifest directory d =>
    obtain ⟨rfl, part, hpart, rfl⟩ := h.saved manifest directory d List.mem_cons_self
    have hne : name ≠ part := by
      rintro rfl
      exact hother rfl
    rw [tree_deliver_save]
    exact ⟨FileTree.admits_save_iff hpart hhint hname hne out,
      fun text => FileTree.Holds.save hpart hhint hname hne⟩

/-- A file stays as it is through all deliveries into other directories. -/
theorem holds_deliverAll (h : Apart out hint ds)
    (hother : Path.join out name ∉ ds.filterMap Delivery.directory?)
    (hh : t.Holds (Path.join out name) hint text) :
    (deliverAll t ds).1.Holds (Path.join out name) hint text := by
  induction ds generalizing t with
  | nil => exact hh
  | cons x ds ih =>
    have hx : x.directory? ≠ some (Path.join out name) :=
      fun e => hother (List.mem_filterMap.mpr ⟨x, List.mem_cons_self, e⟩)
    refine ih h.tail (fun hmem => hother ?_) ((h.deliver_other hhint hname hx).2 text hh)
    obtain ⟨y, hy, hdirectory⟩ := List.mem_filterMap.mp hmem
    exact List.mem_filterMap.mpr ⟨y, List.mem_cons_of_mem x hy, hdirectory⟩

end Apart

theorem settled_save {out hint manifest directory : String} {d : Document} {ds : List Delivery}
    (hhint : Path.IsPart hint) (h : Apart out hint (.save manifest directory d :: ds))
    (t : FileTree) :
    Settled t (deliverAll t (.save manifest directory d :: ds)).1 (.save manifest directory d)
      (deliver t (.save manifest directory d)).2 := by
  obtain ⟨rfl, part, hpart, rfl⟩ := h.saved manifest directory d List.mem_cons_self
  by_cases ha : t.Admits (Path.join out part) d.hintName
  · have hother := (List.nodup_cons.mp h.nodup).1
    have hholds := h.tail.holds_deliverAll hhint hpart hother
      (FileTree.holds_save hpart hhint out ha)
    have hreceipt : (deliver t (.save manifest (Path.join out part) d)).2 =
        .written (d.pathIn (Path.join out part)) := by
      simp only [deliver, (FileTree.save_eq_ok_iff hpart hhint t out).mpr ha, saveReceipt]
    have hafter : (deliverAll t (.save manifest (Path.join out part) d :: ds)).1 =
        (deliverAll (t.save (Path.join out part) d).1 ds).1 := rfl
    rw [hreceipt, hafter]
    exact .written ha (hholds.readText hhint)
  · obtain ⟨made, -, ⟨hadmits, -⟩ | ⟨-, e, hsave⟩⟩ := FileTree.save_cases hpart hhint t out
    · exact absurd hadmits ha
    · have hreceipt : (deliver t (.save manifest (Path.join out part) d)).2 =
          .failed (saveFailure manifest e) := by
        simp only [deliver, hsave, saveReceipt]
      rw [hreceipt]
      exact .refused e ha

private theorem exists_of_forall₂ {α β : Type} {R : α → β → Prop} {as : List α} {bs : List β}
    (h : List.Forall₂ R as bs) {b : β} (hb : b ∈ bs) : ∃ a ∈ as, R a b := by
  induction h with
  | nil => cases hb
  | cons hab _ ih =>
    rcases List.mem_cons.mp hb with rfl | hb
    · exact ⟨_, List.mem_cons_self, hab⟩
    · obtain ⟨a, ha, hab⟩ := ih hb
      exact ⟨a, List.mem_cons_of_mem _ ha, hab⟩

private theorem forall₂_imp_of_mem {α β : Type} {R S : α → β → Prop} {as : List α} {bs : List β}
    (h : List.Forall₂ R as bs) (himp : ∀ a ∈ as, ∀ b, R a b → S a b) : List.Forall₂ S as bs := by
  induction h with
  | nil => exact .nil
  | cons hab _ ih =>
    exact .cons (himp _ List.mem_cons_self _ hab)
      (ih fun a ha b => himp a (List.mem_cons_of_mem _ ha) b)

/-- Deliveries into directories of their own come to what each of them would have come to first. -/
theorem settled_deliverAll {out hint : String} {ds : List Delivery} (hhint : Path.IsPart hint)
    (h : Apart out hint ds) (t : FileTree) :
    List.Forall₂ (Settled t (deliverAll t ds).1) ds (deliverAll t ds).2 := by
  induction ds generalizing t with
  | nil => exact .nil
  | cons x ds ih =>
    refine .cons ?_ ?_
    · cases x with
      | fail failure => exact .failed failure
      | nothing => exact .nothing
      | print d => exact .printed d
      | save manifest directory d => exact settled_save hhint h t
    · refine forall₂_imp_of_mem (ih h.tail (deliver t x).1) fun y hy receipt hsettled => ?_
      -- The rest is settled as seen from the tree after `x`, which admits what the first one did.
      refine hsettled.of_admits_iff ?_
      rintro manifest directory d rfl
      obtain ⟨rfl, part, hpart, rfl⟩ := h.tail.saved manifest directory d hy
      refine (h.deliver_other hhint hpart fun e => ?_).1
      have hnodup := h.nodup
      rw [List.filterMap_cons_some e] at hnodup
      exact (List.nodup_cons.mp hnodup).1 (List.mem_filterMap.mpr ⟨_, hy, rfl⟩)

/-- A file that has been written is in the directory given out for it. -/
theorem paths_sublist {out hint : String} {before after : FileTree} {ds : List Delivery}
    {receipts : List Receipt} (h : Apart out hint ds)
    (hsettled : List.Forall₂ (Settled before after) ds receipts) :
    (receipts.filterMap Receipt.path?).Sublist
      ((ds.filterMap Delivery.directory?).map fun directory => Path.join directory hint) := by
  induction hsettled with
  | nil => exact .slnil
  | cons hx _ ih =>
    have ih := ih h.tail
    cases hx with
    | failed failure => exact ih
    | nothing => exact ih
    | printed d => exact ih
    | written hadmits hread =>
      obtain ⟨rfl, -⟩ := h.saved _ _ _ List.mem_cons_self
      exact ih.cons_cons _
    | refused e hadmits => exact ih.cons _

/-- Where directories are not given out twice, neither are the paths of the files in them. -/
theorem nodup_paths {out hint : String} {before after : FileTree} {ds : List Delivery}
    {receipts : List Receipt} (hhint : Path.IsPart hint) (h : Apart out hint ds)
    (hsettled : List.Forall₂ (Settled before after) ds receipts) :
    (receipts.filterMap Receipt.path?).Nodup := by
  refine (List.Nodup.map_on ?_ h.nodup).sublist (paths_sublist h hsettled)
  have hpart : ∀ directory ∈ ds.filterMap Delivery.directory?,
      ∃ name, Path.IsPart name ∧ directory = Path.join out name := by
    intro directory hmem
    obtain ⟨x, hx, hdirectory⟩ := List.mem_filterMap.mp hmem
    cases x with
    | save manifest saved d =>
      obtain rfl := Option.some.inj hdirectory
      exact (h.saved manifest saved d hx).2
    | _ => cases hdirectory
  intro a ha b hb hjoin
  obtain ⟨p, hp, rfl⟩ := hpart a ha
  obtain ⟨q, hq, rfl⟩ := hpart b hb
  have hnames := congrArg Path.names hjoin
  simp only [Path.names_join hhint, Path.names_join hp, Path.names_join hq] at hnames
  have hsame : p = q := by simpa using hnames
  rw [hsame]

/-- A run plans the pass over the unit of its manifest, and writes source from what is planned. -/
theorem run_eq (look : String → Except FileFault String) (dialect : Dialect)
    (g : GeneratorSettings) (manifest : String) :
    run look dialect g manifest =
      match Manifest.ofFile manifest (look manifest) with
      | .error e => .error (loadFailure manifest e)
      | .ok m =>
        match (Pass.plan g.passOptions m.buildUnit).result with
        | .error e => .error (passFailure manifest e)
        | .ok rs => .ok ⟨manifest, m.unit, emit dialect (g.scaffold m.unit) rs⟩ := by
  unfold run
  cases Manifest.ofFile manifest (look manifest) with
  | error e => rfl
  | ok m =>
    simp only [Pass.run]
    cases (Pass.plan g.passOptions m.buildUnit).result <;> simp only

theorem hintName_of_run {look : String → Except FileFault String} {dialect : Dialect}
    {g : GeneratorSettings} {manifest : String} {u : UnitRun} {d : Document}
    (h : run look dialect g manifest = .ok u) (hd : u.document = some d) :
    d.hintName = dialect.hintName := by
  rw [run_eq] at h
  split at h
  · cases h
  · split at h
    · cases h
    · obtain rfl := Except.ok.inj h
      exact (outline_of_emit hd).1

theorem generate_of_find {t : FileTree} {r : BatchRequest} {g : GeneratorSettings}
    {dialect : Dialect} (h : Dialect.find (r.dialect.getD g.dialect) = .ok dialect) :
    let runs := r.manifests.map (run t.readText dialect (BatchRequest.settings r g))
    generate t r g =
      ((deliverAll t (deliveries r.directory runs)).1,
        conclude (deliverAll t (deliveries r.directory runs)).2) := by
  unfold generate plan
  rw [h]
  rfl

theorem generate_of_find_error {t : FileTree} {r : BatchRequest} {g : GeneratorSettings} {e : Error}
    (h : Dialect.find (r.dialect.getD g.dialect) = .error e) :
    generate t r g = (t, ⟨"", .error (.ofError e)⟩) := by
  unfold generate plan
  rw [h]
  rfl

/-- The deliveries of several runs of one dialect keep out of each other's way. -/
theorem apart_nestedDeliveries (look : String → Except FileFault String) (dialect : Dialect)
    (g : GeneratorSettings) (manifests : List String) (out : String) :
    Apart out dialect.hintName
      (nestedDeliveries out [] (manifests.map (run look dialect g))) := by
  refine ⟨fun manifest directory d hmem => ?_, nodup_directories _ _ _⟩
  obtain ⟨run, hrun, hnested⟩ :=
    exists_of_forall₂ (nested_nestedDeliveries out [] (manifests.map (run look dialect g))) hmem
  obtain ⟨m, -, hm⟩ := List.mem_map.mp hrun
  cases hnested with
  | save _ unit _ hname => exact ⟨hintName_of_run hm rfl, _, hname.toIsPart, rfl⟩

/-- What a batch of several manifests comes to below a directory: each of them has its own failure,
or nothing to save, or a document that is saved in a directory of its own where there is room. -/
theorem generate_nested {t : FileTree} {r : BatchRequest} {g : GeneratorSettings} {out : String}
    {dialect : Dialect} (hdialect : Dialect.find (r.dialect.getD g.dialect) = .ok dialect)
    (hdirectory : r.directory = some out) (hmany : 1 < r.manifests.length) :
    let runs := r.manifests.map (run t.readText dialect (BatchRequest.settings r g))
    ∃ ds receipts after, generate t r g = (after, conclude receipts) ∧
      List.Forall₂ (Nested out) runs ds ∧ Apart out dialect.hintName ds ∧
      List.Forall₂ (Settled t after) ds receipts := by
  intro runs
  have hapart :=
    apart_nestedDeliveries t.readText dialect (BatchRequest.settings r g) r.manifests out
  have hdeliveries : deliveries r.directory runs = nestedDeliveries out [] runs := by
    simp [deliveries, hdirectory, runs, hmany]
  have hgenerate := generate_of_find (t := t) hdialect
  simp only [hdeliveries, runs] at hgenerate
  exact ⟨_, _, _, hgenerate, nested_nestedDeliveries out [] runs, hapart,
    settled_deliverAll dialect.isPart_hintName hapart t⟩

/-- No document of a batch overwrites another: each has a path of its own in a directory of its own
below the one that is asked for, and whether it is written there, and what is there in the end, has
nothing to do with the others. -/
theorem generate_apart (t : FileTree) (g : GeneratorSettings) (first second : String)
    (others : List String) (out : String) (named space : Option String) :
    let r : BatchRequest := ⟨first :: second :: others, some out, named, space⟩
    match Dialect.find (named.getD g.dialect) with
    | .error e => generate t r g = (t, ⟨"", .error (.ofError e)⟩)
    | .ok dialect =>
      ∃ ds receipts after, generate t r g = (after, conclude receipts) ∧
        List.Forall₂ (Nested out)
          (r.manifests.map (run t.readText dialect (BatchRequest.settings r g))) ds ∧
        (ds.filterMap Delivery.directory?).Nodup ∧
        List.Forall₂ (Settled t after) ds receipts ∧
        (receipts.filterMap Receipt.path?).Nodup ∧
        ∀ path ∈ receipts.filterMap Receipt.path?, ∃ name, IsDirectoryName name ∧
          path = Path.join (Path.join out name) dialect.hintName := by
  intro r
  cases hdialect : Dialect.find (named.getD g.dialect) with
  | error e => exact generate_of_find_error hdialect
  | ok dialect =>
    obtain ⟨ds, receipts, after, hgenerate, hnested, hapart, hsettled⟩ :=
      generate_nested (t := t) (r := r) hdialect (rfl : r.directory = some out) (by simp [r])
    have hhint := dialect.isPart_hintName
    refine ⟨ds, receipts, after, hgenerate, hnested, hapart.nodup, hsettled,
      nodup_paths hhint hapart hsettled, fun path hpath => ?_⟩
    obtain ⟨directory, hmem, rfl⟩ := List.mem_map.mp ((paths_sublist hapart hsettled).subset hpath)
    obtain ⟨x, hx, hdirectory⟩ := List.mem_filterMap.mp hmem
    obtain ⟨run, -, hrun⟩ := exists_of_forall₂ hnested hx
    cases hrun with
    | save _ _ _ hname =>
      obtain rfl := Option.some.inj hdirectory
      exact ⟨_, hname, rfl⟩
    | _ => cases hdirectory

end Batch

end ServiceWiring
