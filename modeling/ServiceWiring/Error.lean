/-! What can go wrong, and how it is worded. -/
namespace ServiceWiring

/-- Why an annotation has no meaning. -/
inductive MarkFault where
  | unrecognized
  | withoutMeaning
  | badContract (name : String)
  | stated (text : String)
  deriving DecidableEq, Repr

def MarkFault.message : MarkFault → String
  | .unrecognized => "unrecognized annotation kind"
  | .withoutMeaning =>
    "annotation kind derives from the base kind but has no registration semantics"
  | .badContract name => "invalid interface type '" ++ name ++ "'"
  | .stated text => text

/-- A fault of one annotation, with the type that carries it and the tag as written. -/
structure MarkError where
  typeName : String
  tag : String
  fault : MarkFault
  deriving DecidableEq, Repr

/-- Why the system does not do what it is asked at a path. Where nothing can be looked up, the path
is out of reach, and otherwise some other fault is stated. -/
inductive FileFault where
  | notFound
  | alreadyExists
  | notDirectory
  | isDirectory
  | nameTooLong
  | nulInName
  | notUnicode
  | unreachable (text : String)
  | stated (text : String)
  deriving DecidableEq, Repr

def FileFault.message : FileFault → String
  | .notFound => "No such file or directory (os error 2)"
  | .alreadyExists => "File exists (os error 17)"
  | .notDirectory => "Not a directory (os error 20)"
  | .isDirectory => "Is a directory (os error 21)"
  | .nameTooLong => "File name too long (os error 36)"
  | .nulInName => "file name contained an unexpected NUL byte"
  | .notUnicode => "stream did not contain valid UTF-8"
  | .unreachable text => text
  | .stated text => text

inductive SettingsFault where
  | blankDialect
  | notIdentifier (setting : String) (text : String)
  | badLevel (text : String)
  | unreadable (doing : String) (cause : String)
  | stated (text : String)
  deriving DecidableEq, Repr

def SettingsFault.message : SettingsFault → String
  | .blankDialect => "Generator dialect cannot be empty"
  | .notIdentifier setting text =>
    "Generator " ++ setting ++ " must be a non-empty identifier, got '" ++ text ++ "'"
  | .badLevel text =>
    "Invalid log level: " ++ text ++ ". Use trace, debug, info, warn, or error"
  | .unreadable doing cause => doing ++ ": " ++ cause
  | .stated text => text

inductive ManifestFault where
  | unsupported (path : String)
  | unreadable (doing : String) (cause : String)
  | stated (text : String)
  deriving DecidableEq, Repr

def ManifestFault.message : ManifestFault → String
  | .unsupported path =>
    "Unsupported manifest extension for " ++ path ++ "; expected json, yaml, yml or toml"
  | .unreadable doing cause => doing ++ ": " ++ cause
  | .stated text => text

inductive Error where
  | unresolved (e : MarkError)
  | missingBaseKind (tag : String)
  | invalidTypeName (name : String)
  | unknownDialect (name : String) (available : String)
  | settings (fault : SettingsFault)
  | manifest (fault : ManifestFault)
  | file (doing : String) (fault : FileFault)
  | bareFile (fault : FileFault)
  deriving DecidableEq, Repr

namespace Error

def message : Error → String
  | .unresolved e =>
    "Configuration error on " ++ e.typeName ++ " [" ++ e.tag ++ "]: " ++ e.fault.message
  | .missingBaseKind tag => "Annotation kind '" ++ tag ++ "' not found; registration pass aborted"
  | .invalidTypeName name => "Invalid type name: '" ++ name ++ "'"
  | .unknownDialect name available =>
    "Unknown dialect '" ++ name ++ "' (available: " ++ available ++ ")"
  | .settings fault => "Settings error: " ++ fault.message
  | .manifest fault => "Manifest error: " ++ fault.message
  | .file doing fault => "I/O error: " ++ doing ++ ": " ++ fault.message
  | .bareFile fault => "I/O error: " ++ fault.message

/-- The wording of the cause behind an error that has one. -/
def cause? : Error → Option String
  | .settings (.unreadable _ cause) => some cause
  | .manifest (.unreadable _ cause) => some cause
  | .file _ fault => some fault.message
  | .bareFile fault => some fault.message
  | _ => none

/-- Whether the error ends a whole pass, and not the reading of one annotation. -/
def isFatal : Error → Bool
  | .unresolved _ => false
  | _ => true

/-- What is wrong with an annotation is never fatal, and everything else is. -/
theorem isFatal_eq_false_iff {e : Error} : e.isFatal = false ↔ ∃ fault, e = .unresolved fault := by
  cases e <;> simp [isFatal]

end Error

/-- A failure to be told to the user: what failed, and its causes from the nearest on. -/
structure Failure where
  message : String
  causes : List String
  deriving DecidableEq, Repr

namespace Failure

def ofError (e : Error) : Failure := ⟨e.message, e.cause?.toList⟩

/-- The error seen as the cause of something larger that failed. -/
def within (doing : String) (e : Error) : Failure := ⟨doing, e.message :: e.cause?.toList⟩

/-- All on one line. -/
def summary (f : Failure) : String := ": ".intercalate (f.message :: f.causes)

end Failure

end ServiceWiring
