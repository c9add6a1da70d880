import ServiceWiring.CommandLine
import ServiceWiring.Settings.Layers

/-! The program: from arguments, environment and files to what is printed, what is written, and how
it ends. -/
namespace ServiceWiring.Program
open ServiceWiring.Text

/-- What the program finds: its arguments, the variables of the environment, where the user keeps
settings, and the day. -/
structure Surroundings where
  arguments : List String
  environment : List (String × String)
  userDirectory : Option String
  date : String
  deriving DecidableEq, Repr

/-- How the program ends. -/
inductive Ending where
  | finished (output : String)
  | informed (topic : CommandLine.Topic)
  | misused
  | failed (output : String) (failure : Failure)
  | brokenLog
  deriving DecidableEq, Repr

/-- The lines of a text, each but the first behind an indentation. -/
def hanging (indentation s : String) : String := replaceChar '\n' ("\n" ++ indentation) s

/-- Numbers are right-aligned in five columns. -/
def causeLine (numbered : Bool) (n : Nat) (cause : String) : String :=
  if numbered then
    let digits := toString n
    String.ofList (List.replicate (5 - digits.length) ' ') ++ digits ++ ": " ++
      hanging "       " cause
  else "    " ++ hanging "    " cause

def causeLines (numbered : Bool) (n : Nat) : List String → String
  | [] => ""
  | cause :: causes => "\n" ++ causeLine numbered n cause ++ causeLines numbered (n + 1) causes

/-- A failure as the user is told it. Causes are numbered if there are several. -/
def failureText (f : Failure) : String :=
  "Error: " ++ f.message ++
    (if f.causes.isEmpty then ""
      else "\n\nCaused by:" ++ causeLines (1 < f.causes.length) 0 f.causes) ++ "\n"

namespace Ending

def code : Ending → Nat
  | .finished _ => 0
  | .informed _ => 0
  | .misused => 2
  | .failed _ _ => 1
  | .brokenLog => 101

def output : Ending → String
  | .finished output => output
  | .failed output _ => output
  | _ => ""

/-- What the user is told, if the program failed. -/
def error? : Ending → Option String
  | .failed _ f => some (failureText f)
  | _ => none

end Ending

/-- The name of a dialect, in ten columns, and what it is. -/
def dialectLine (d : Dialect) : String :=
  d.name ++ String.ofList (List.replicate (10 - d.name.length) ' ') ++ " " ++ d.description ++ "\n"

def dialectList : String := String.join (Dialect.all.map dialectLine)

/-- Where messages of a day are logged: the directory and the path of the file. -/
def logPlace (file date : String) : String × String :=
  let directory := (Path.parent? file).getD "."
  (directory, Path.join directory ((Path.fileName? file).getD "skanr" ++ "." ++ date))

/-- Opens a log. Its directory is made if the file cannot be opened at first. -/
def openLog (t : FileTree) (file date : String) : FileTree.Attempt :=
  let (directory, path) := logPlace file date
  let first := t.openToAppend path
  match first.result with
  | .ok () => first
  | .error _ =>
    let made := t.createDirectories directory
    match made.result with
    | .ok () => made.tree.openToAppend path
    | .error _ => made

def openLogs (t : FileTree) (l : LogSettings) (date : String) : FileTree.Attempt :=
  match l.file with
  | some file => openLog t file date
  | none => ⟨t, .ok ()⟩

def ending {α : Type} (output : String) : Except Failure α → Ending
  | .ok _ => .finished output
  | .error f => .failed output f

def perform (t : FileTree) (g : GeneratorSettings) : CommandLine.Task → FileTree × Ending
  | .generate request =>
    let (t, outcome) := Batch.generate t request g
    (t, ending outcome.output outcome.result)
  | .plan request =>
    let outcome := Preview.run t.readText request g
    (t, ending outcome.output outcome.result)
  | .dialects => (t, .finished dialectList)

def settings (look : String → Except FileFault String) (s : Surroundings) (config : Option String) :
    Except Failure Settings :=
  (Settings.load look config s.userDirectory Settings.usualFamily s.environment).mapError
    (.within "Failed to load configuration")

/-- The files in which settings may be. -/
def settingsFiles (s : Surroundings) : List String :=
  let named := match CommandLine.read s.arguments with
    | .ok invocation => invocation.config.toList
    | .error _ => []
  named ++ Settings.usualFiles s.userDirectory

/-- What is known before anything is done: how the program ends at once, or its settings and task. -/
inductive Start where
  | ended (ending : Ending)
  | ready (settings : Settings) (task : CommandLine.Task)
  deriving DecidableEq, Repr

def start (look : String → Except FileFault String) (s : Surroundings) : Start :=
  match CommandLine.read s.arguments with
  | .error (.inform topic) => .ended (.informed topic)
  | .error .misuse => .ended .misused
  | .ok invocation =>
    match settings look s invocation.config with
    | .error f => .ended (.failed "" f)
    | .ok loaded => .ready loaded invocation.task

/-- The settings come first, then the log, then the task. -/
def run (t : FileTree) (s : Surroundings) : FileTree × Ending :=
  match start t.readText s with
  | .ended ending => (t, ending)
  | .ready loaded task =>
    let logged := openLogs t loaded.logging s.date
    match logged.result with
    | .error _ => (logged.tree, .brokenLog)
    | .ok () => perform logged.tree loaded.generator task

end ServiceWiring.Program
