import ServiceWiring.CommandLine.Usage
import ServiceWiring.Program
import Std.Time.DateTime
import Std.Time.Format

/-! The program on a real system: reads its surroundings, has the library decide what is to be done,
does it, and prints what comes of it. -/
namespace ServiceWiring.Host

/-- A fault of the system as the library names it. -/
def fault : IO.Error → FileFault
  | .noFileOrDirectory _ _ _ => .notFound
  | .alreadyExists _ _ _ => .alreadyExists
  | .inappropriateType _ code _ => if code == 21 then .isDirectory else .notDirectory
  | .permissionDenied _ code details =>
    .stated (details ++ " (os error " ++ toString code ++ ")")
  | .invalidArgument _ code details =>
    if code == 36 then .nameTooLong else .stated (details ++ " (os error " ++ toString code ++ ")")
  | e => .stated (toString e)

/-- Attempts something at a path. No system takes a path with a NUL in it. -/
def attempt {α : Type} (path : String) (action : IO α) : IO (Except FileFault α) := do
  if Path.hasNul path then return .error .nulInName
  match ← action.toBaseIO with
  | .ok a => return .ok a
  | .error e => return .error (fault e)

/-- The fault of a file that could not be read. A file that cannot even be looked up is out of reach. -/
def readFault (path : String) : FileFault → IO FileFault
  | .stated text => do
    match ← attempt path (IO.FS.realPath path) with
    | .ok _ => return .stated text
    | .error _ => return .unreachable text
  | fault => return fault

def look (path : String) : IO (Except FileFault String) := do
  match ← attempt path (IO.FS.withFile path .read fun file => file.readBinToEnd) with
  | .error fault => return .error (← readFault path fault)
  | .ok content => return ((String.fromUTF8? content).elim (.error .notUnicode) .ok)

/-- What is in the files at some paths. -/
def contents (paths : List String) : IO (String → Except FileFault String) := do
  let found ← paths.mapM fun path => do return (path, ← look path)
  return fun path => (found.lookup path).getD (.error .notFound)

def save (directory : String) (d : Document) : IO (Except Error String) := do
  match ← attempt directory (IO.FS.createDirAll directory) with
  | .error fault => return .error (Document.directoryError directory fault)
  | .ok () =>
    let path := d.pathIn directory
    match ← attempt path (IO.FS.writeFile path d.text) with
    | .error fault => return .error (Document.writeError path fault)
    | .ok () => return .ok path

def deliver : Batch.Delivery → IO Batch.Receipt
  | .fail failure => return .failed failure
  | .nothing => return .nothing
  | .print d => return .printed d.text
  | .save manifest directory d => return Batch.saveReceipt manifest (← save directory d)

def generate (r : BatchRequest) (g : GeneratorSettings) : IO Program.Ending := do
  match Batch.plan (← contents r.manifests) r g with
  | .error e => return .failed "" (.ofError e)
  | .ok deliveries =>
    let outcome := Batch.conclude (← deliveries.mapM deliver)
    return Program.ending outcome.output outcome.result

def perform (g : GeneratorSettings) : CommandLine.Task → IO Program.Ending
  | .generate request => generate request g
  | .plan request => do
    let outcome := Preview.run (← contents [request.manifest]) request g
    return Program.ending outcome.output outcome.result
  | .dialects => return .finished Program.dialectList

/-- Makes a log, and its directory if the log cannot be opened without. -/
def openLog (file date : String) : IO (Except FileFault Unit) := do
  let (directory, path) := Program.logPlace file date
  let opened := attempt path (discard (IO.FS.Handle.mk path .append))
  match ← opened with
  | .ok () => return .ok ()
  | .error _ =>
    match ← attempt directory (IO.FS.createDirAll directory) with
    | .ok () => opened
    | .error fault => return .error fault

/-- All variables of the environment, in the order of their names. -/
def environment : IO (List (String × String)) := do
  match ← look "/proc/self/environ" with
  | .error _ => return []
  | .ok s =>
    let split (piece : List Char) : String × String :=
      (String.ofList (piece.takeWhile (· ≠ '=')),
        String.ofList ((piece.dropWhile (· ≠ '=')).drop 1))
    return ((Text.pieces '\x00' s.toList).map split).mergeSort fun a b => decide (a.1 ≤ b.1)

/-- Where the user keeps settings. -/
def userDirectory (environment : List (String × String)) : Option String :=
  let stated := (environment.lookup "XDG_CONFIG_HOME").filter Path.isAbsolute
  let home := (environment.lookup "HOME").filter (· != "")
  stated.or (home.map fun home => Path.join home ".config")

/-- The day in universal time, as year, month and day between dashes. -/
def today : IO String := do
  return (Std.Time.PlainDate.ofEpochDay (← Std.Time.Timestamp.now).toDaysSinceUnixEpoch).toSQLDateString

def surroundings (arguments : List String) : IO Program.Surroundings := do
  let environment ← environment
  return ⟨arguments, environment, userDirectory environment, ← today⟩

def run (s : Program.Surroundings) : IO Program.Ending := do
  match Program.start (← contents (Program.settingsFiles s)) s with
  | .ended ending => return ending
  | .ready loaded task =>
    let opened ← match loaded.logging.file with
      | some file => openLog file s.date
      | none => pure (.ok ())
    match opened with
    | .error _ => return .brokenLog
    | .ok () => perform loaded.generator task

/-- What is printed for the user, and what beside it. -/
def report : Program.Ending → IO Unit
  | .informed topic => IO.print topic.text
  | .misused => IO.eprint CommandLine.usage
  | .brokenLog => IO.eprintln "The log cannot be opened"
  | ending => do
    IO.print ending.output
    IO.eprint (ending.error?.getD "")

end ServiceWiring.Host

def main (arguments : List String) : IO UInt32 := do
  let ending ← ServiceWiring.Host.run (← ServiceWiring.Host.surroundings arguments)
  ServiceWiring.Host.report ending
  return ending.code.toUInt32
