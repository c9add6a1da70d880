import ServiceWiring.Settings
import ServiceWiring.Settings.Variable
import ServiceWiring.Path
import ServiceWiring.Toml.Reader

/-! Settings in layers: what is so initially, what one file says, what the environment says. Of what
two layers say about one setting, the later counts. -/
namespace ServiceWiring.Settings

def putField (fields : List (String × Value)) (key : String) (v : Value) : List (String × Value) :=
  if (fields.lookup key).isSome then
    fields.map fun field => if field.1 = key then (key, v) else field
  else fields ++ [(key, v)]

mutual

/-- A later value replaces an earlier one, but of two records the fields are merged. -/
def merge (earlier : Value) : Value → Value
  | .record fields =>
    match earlier with
    | .record old => .record (mergeFields old fields)
    | _ => .record fields
  | v => v

def mergeFields (old : List (String × Value)) : List (String × Value) → List (String × Value)
  | [] => old
  | (key, v) :: fields =>
    mergeFields (putField old key (merge ((old.lookup key).getD .null) v)) fields

end

/-- The family of the variables that hold settings. -/
def usualFamily : String := "SKANR"

def fileName : String := "skanr.toml"

/-- The usual places of a settings file: where the program runs, and where the user keeps settings. -/
def usualFiles (userDirectory : Option String) : List String :=
  fileName :: userDirectory.toList.map fun directory =>
    Path.join (Path.join directory "skanr") fileName

/-- Whether something is at a path that was looked up. What is there may still be unreadable. -/
def isThere : Except FileFault String → Bool
  | .error .notFound => false
  | .error .notDirectory => false
  | .error .nameTooLong => false
  | .error .nulInName => false
  | .error (.unreachable _) => false
  | _ => true

/-- The one file that counts. A path given explicitly is never passed over for a usual one. -/
def file? (look : String → Except FileFault String) (explicit userDirectory : Option String) :
    Option String :=
  match explicit with
  | some path => if isThere (look path) then some path else none
  | none => (usualFiles userDirectory).find? fun path => isThere (look path)

def extraction : String := "Failed to extract configuration"

def unreadable (cause : String) : Error := .settings (.unreadable extraction cause)

mutual

/-- Whether every integer fits into a signed word of 64 bits. -/
def inRange : Value → Bool
  | .integer n => (Value.integer n).int64?.isSome
  | .list items => allInRange items
  | .record fields => fieldsInRange fields
  | _ => true

def allInRange : List Value → Bool
  | [] => true
  | v :: items => inRange v && allInRange items

def fieldsInRange : List (String × Value) → Bool
  | [] => true
  | (_, v) :: fields => inRange v && fieldsInRange fields

end

/-- What a file says. A directory says nothing: where an explicit path is relative and leads to one,
the search that would go on, for a file of that path in the directories above, is left out. -/
def fileLayer (content : Except FileFault String) : Except Error Value :=
  match content with
  | .ok s =>
    match Toml.read? .first s with
    | some v => if inRange v then .ok v else .error (unreadable "unexpected number")
    | none => .error (unreadable "unexpected text")
  | .error .isDirectory => .ok (.record [])
  | .error fault => .error (unreadable fault.message)

def nested (keys : List String) (v : Value) : Value := keys.foldr (fun key v => .record [(key, v)]) v

/-- What the variables of a family say, in order. -/
def environmentLayer (family : String) (environment : List (String × String)) : Value :=
  environment.foldl (fun layer (name, value) =>
    match Variable.keys? family name with
    | some keys => merge layer (nested keys (Variable.read value))
    | none => layer) (.record [])

/-- What all layers together say. -/
def layered (look : String → Except FileFault String) (explicit userDirectory : Option String)
    (family : String) (environment : List (String × String)) : Except Error Value :=
  let files : Except Error Value :=
    match file? look explicit userDirectory with
    | some path => (fileLayer (look path)).map (merge initial.toValue)
    | none => .ok initial.toValue
  files.map fun layers => merge layers (environmentLayer family environment)

/-- Loads the settings. `look` tells what is in the file at a path. -/
def load (look : String → Except FileFault String) (explicit userDirectory : Option String)
    (family : String) (environment : List (String × String)) : Except Error Settings :=
  match layered look explicit userDirectory family environment with
  | .error e => .error e
  | .ok v =>
    match ofValue? .leading v with
    | some s => s.checked
    | none => .error (unreadable "unexpected value")

end ServiceWiring.Settings
