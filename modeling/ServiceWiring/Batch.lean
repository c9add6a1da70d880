import ServiceWiring.Batch.DirectoryName
import ServiceWiring.Document.Saving
import ServiceWiring.Manifest
import ServiceWiring.Settings

/-! Batches: source generated for several manifests. What every manifest comes to does not depend on
the others; only the directories for their documents are given out in turn. -/
namespace ServiceWiring

/-- What source is generated from, where it goes, and what is said differently than in the settings.
Without a directory it is printed. -/
structure BatchRequest where
  manifests : List String
  directory : Option String
  dialect : Option String
  space : Option String
  deriving DecidableEq, Repr

namespace Batch

/-- A manifest whose pass succeeded, and the document if there is anything to write. -/
structure UnitRun where
  manifest : String
  unit : String
  document : Option Document
  deriving DecidableEq, Repr

def loadFailure (manifest : String) (e : Error) : Failure :=
  .within ("Failed to load manifest " ++ manifest) e

def passFailure (manifest : String) (e : Error) : Failure :=
  .within ("Registration pass failed for " ++ manifest) e

def saveFailure (manifest : String) (e : Error) : Failure :=
  .within ("Failed to write output for " ++ manifest) e

/-- Runs the pass over one manifest. `look` tells what is in the file at a path. -/
def run (look : String → Except FileFault String) (dialect : Dialect) (g : GeneratorSettings)
    (manifest : String) : Except Failure UnitRun :=
  match Manifest.ofFile manifest (look manifest) with
  | .error e => .error (loadFailure manifest e)
  | .ok m =>
    match (Pass.run dialect (g.scaffold m.unit) g.passOptions m.buildUnit).result with
    | .error e => .error (passFailure manifest e)
    | .ok outcome => .ok ⟨manifest, m.unit, outcome.document⟩

/-- What is to be done about one manifest. -/
inductive Delivery where
  | fail (failure : Failure)
  | nothing
  | print (document : Document)
  | save (manifest directory : String) (document : Document)
  deriving DecidableEq, Repr

/-- The deliveries of a run into one directory, or to be printed. -/
def delivery (directory : Option String) : Except Failure UnitRun → Delivery
  | .error failure => .fail failure
  | .ok run =>
    match run.document with
    | none => .nothing
    | some d =>
      match directory with
      | none => .print d
      | some directory => .save run.manifest directory d

/-- The deliveries of several runs into directories of their own below one directory. Only a run with
a document takes a name. -/
def nestedDeliveries (directory : String) (taken : List String) :
    List (Except Failure UnitRun) → List Delivery
  | [] => []
  | .error failure :: runs => .fail failure :: nestedDeliveries directory taken runs
  | .ok run :: runs =>
    match run.document with
    | none => .nothing :: nestedDeliveries directory taken runs
    | some d =>
      let name := freeName (directoryName run.unit run.manifest) taken
      .save run.manifest (Path.join directory name) d ::
        nestedDeliveries directory (name :: taken) runs

def deliveries (directory : Option String) (runs : List (Except Failure UnitRun)) : List Delivery :=
  match directory with
  | none => runs.map (delivery none)
  | some directory =>
    if 1 < runs.length then nestedDeliveries directory [] runs
    else runs.map (delivery (some directory))

/-- The settings with what the request says differently. -/
def BatchRequest.settings (r : BatchRequest) (g : GeneratorSettings) : GeneratorSettings :=
  match r.space with
  | some space => { g with space := some space }
  | none => g

/-- All that is to be done. Nothing is, if there is no such dialect. -/
def plan (look : String → Except FileFault String) (r : BatchRequest) (g : GeneratorSettings) :
    Except Error (List Delivery) :=
  (Dialect.find (r.dialect.getD g.dialect)).map fun dialect =>
    deliveries r.directory (r.manifests.map (run look dialect (BatchRequest.settings r g)))

/-- What came of a delivery. -/
inductive Receipt where
  | failed (failure : Failure)
  | nothing
  | printed (text : String)
  | written (path : String)
  deriving DecidableEq, Repr

/-- The receipt for a document, from what came of saving it. -/
def saveReceipt (manifest : String) : Except Error String → Receipt
  | .ok path => .written path
  | .error e => .failed (saveFailure manifest e)

def deliver (t : FileTree) : Delivery → FileTree × Receipt
  | .fail failure => (t, .failed failure)
  | .nothing => (t, .nothing)
  | .print d => (t, .printed d.text)
  | .save manifest directory d =>
    let (t, result) := t.save directory d
    (t, saveReceipt manifest result)

def deliverAll (t : FileTree) : List Delivery → FileTree × List Receipt
  | [] => (t, [])
  | d :: ds =>
    let (t, receipt) := deliver t d
    let (t, receipts) := deliverAll t ds
    (t, receipt :: receipts)

structure Summary where
  written : List String
  printed : Nat
  empty : Nat
  deriving DecidableEq, Repr

/-- What a batch prints, and what it comes to. -/
structure Outcome where
  output : String
  result : Except Failure Summary

namespace Receipt

def failure? : Receipt → Option Failure
  | .failed failure => some failure
  | _ => none

def text? : Receipt → Option String
  | .printed text => some text
  | _ => none

def path? : Receipt → Option String
  | .written path => some path
  | _ => none

end Receipt

/-- Failures of single manifests are told together, after everything else is done. -/
def conclude (receipts : List Receipt) : Outcome :=
  let failures := receipts.filterMap Receipt.failure?
  { output := String.join (receipts.filterMap Receipt.text?)
    result :=
      if failures.isEmpty then
        .ok {
          written := receipts.filterMap Receipt.path?
          printed := (receipts.filterMap Receipt.text?).length
          empty := receipts.count .nothing }
      else
        .error ⟨toString failures.length ++ " of " ++ toString receipts.length ++
          " manifests failed: " ++ Text.joined "; " (failures.map Failure.summary), []⟩ }

/-- Generates source for all manifests of a request. -/
def generate (t : FileTree) (r : BatchRequest) (g : GeneratorSettings) : FileTree × Outcome :=
  match plan t.readText r g with
  | .error e => (t, ⟨"", .error (.ofError e)⟩)
  | .ok ds =>
    let (t, receipts) := deliverAll t ds
    (t, conclude receipts)

end Batch

end ServiceWiring
