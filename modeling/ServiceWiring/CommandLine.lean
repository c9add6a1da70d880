import ServiceWiring.Preview

/-! The command line: commands, their options, and what a list of arguments asks for. -/
namespace ServiceWiring.CommandLine
open ServiceWiring.Text

/-- What options are read for: the program as a whole or one of its commands. -/
inductive Command where
  | program
  | generate
  | plan
  | dialects
  deriving DecidableEq, Repr

/-- Options with values. -/
inductive ValuedOption where
  | config
  | manifest
  | outDir
  | dialect
  | space
  | format
  deriving DecidableEq, Repr

/-- What the program can tell about itself. -/
inductive Topic where
  | usage
  | version
  deriving DecidableEq, Repr

/-- An option with a value, or one that ends everything by telling about the program. -/
inductive Switch where
  | valued (option : ValuedOption)
  | inform (topic : Topic)
  deriving DecidableEq, Repr

/-- Why nothing is run: the user asks about the program, or the arguments are wrong. -/
inductive Refusal where
  | inform (topic : Topic)
  | misuse
  deriving DecidableEq, Repr

/-- What the program is asked to do. -/
inductive Task where
  | generate (request : BatchRequest)
  | plan (request : PreviewRequest)
  | dialects
  deriving DecidableEq, Repr

structure Invocation where
  config : Option String
  task : Task
  deriving DecidableEq, Repr

namespace ValuedOption

def long : ValuedOption → String
  | .config => "config"
  | .manifest => "manifest"
  | .outDir => "out-dir"
  | .dialect => "dialect"
  | .space => "namespace"
  | .format => "format"

def short : ValuedOption → Char
  | .config => 'c'
  | .manifest => 'm'
  | .outDir => 'o'
  | .dialect => 'd'
  | .space => 'n'
  | .format => 'f'

/-- Paths are not empty, and a format is one of those there are. -/
def allows (option : ValuedOption) (value : String) : Bool :=
  match option with
  | .config => value != ""
  | .manifest => value != ""
  | .outDir => value != ""
  | .dialect => true
  | .space => true
  | .format => ReportFormat.all.any (·.name == value)

end ValuedOption

namespace Command

def all : List Command := [.generate, .plan, .dialects]

def name : Command → String
  | .program => "skanr"
  | .generate => "generate"
  | .plan => "plan"
  | .dialects => "dialects"

/-- The settings file may be named for the program or for any of its commands. -/
def options : Command → List ValuedOption
  | .program => [.config]
  | .generate => [.manifest, .outDir, .dialect, .space, .config]
  | .plan => [.manifest, .format, .config]
  | .dialects => [.config]

/-- Only source can be generated from several manifests. -/
def takesMany (command : Command) (option : ValuedOption) : Bool :=
  command == .generate && option == .manifest

def required (command : Command) : List ValuedOption :=
  if command.options.contains .manifest then [.manifest] else []

def ofLong? (command : Command) (name : String) : Option Switch :=
  match command.options.find? (·.long == name) with
  | some option => some (.valued option)
  | none =>
    if name == "help" then some (.inform .usage)
    else if name == "version" && command == .program then some (.inform .version)
    else none

def ofShort? (command : Command) (name : Char) : Option Switch :=
  match command.options.find? (·.short == name) with
  | some option => some (.valued option)
  | none =>
    if name == 'h' then some (.inform .usage)
    else if name == 'V' && command == .program then some (.inform .version)
    else none

end Command

/-- The options read so far with their values, and the option whose values are being read. -/
structure Reading where
  given : List (ValuedOption × String)
  pending : Option (ValuedOption × List String)

namespace Reading

def empty : Reading := ⟨[], none⟩

/-- Ends the values of the option being read. It must have got values that it allows, and only some
options may be given again. -/
def settle (command : Command) (r : Reading) : Except Refusal Reading :=
  match r.pending with
  | none => .ok r
  | some (option, values) =>
    let repeated := (r.given.lookup option).isSome && !command.takesMany option
    if values.isEmpty || repeated || !values.all option.allows then .error .misuse
    else .ok ⟨r.given ++ values.map (option, ·), none⟩

/-- Begins with an option. A value attached to it is its only one. -/
def start (command : Command) (r : Reading) (option : ValuedOption) (attached : Option String) :
    Except Refusal Reading :=
  match r.settle command with
  | .error refusal => .error refusal
  | .ok r =>
    match attached with
    | some value => settle command { r with pending := some (option, [value]) }
    | none => .ok { r with pending := some (option, []) }

/-- Whether the next argument may be a value of the option being read. -/
def takesValue (command : Command) (r : Reading) : Bool :=
  r.pending.any fun (option, values) => values.isEmpty || command.takesMany option

def addValue (r : Reading) (value : String) : Reading :=
  { r with pending := r.pending.map fun (option, values) => (option, values ++ [value]) }

/-- Ends the reading by telling about the program, if all is well until there. -/
def inform (command : Command) (r : Reading) (topic : Topic) : Refusal :=
  match r.settle command with
  | .ok _ => .inform topic
  | .error refusal => refusal

/-- Reads an option by its long name, which a value may follow after an equals sign. -/
def addLong (command : Command) (r : Reading) (cs : List Char) : Except Refusal Reading :=
  let attached := match cs.dropWhile (· ≠ '=') with
    | _ :: value => some (String.ofList value)
    | [] => none
  match command.ofLong? (String.ofList (cs.takeWhile (· ≠ '='))) with
  | some (.valued option) => r.start command option attached
  | some (.inform topic) => .error (if attached.isSome then .misuse else r.inform command topic)
  | none => .error .misuse

/-- Reads options by their short names, the last of which a value may follow at once. -/
def addShort (command : Command) (r : Reading) : List Char → Except Refusal Reading
  | [] => .ok r
  | c :: rest =>
    match command.ofShort? c with
    | some (.valued option) =>
      let attached := match rest with
        | [] => none
        | '=' :: value => some (String.ofList value)
        | value => some (String.ofList value)
      r.start command option attached
    | some (.inform topic) => .error (r.inform command topic)
    | none => .error .misuse

def values (r : Reading) (option : ValuedOption) : List String :=
  (r.given.filter (·.1 == option)).map (·.2)

def value? (r : Reading) (option : ValuedOption) : Option String := (r.values option).head?

end Reading

/-- What asking about commands by name comes to. -/
def inform : List String → Refusal
  | [] => .inform .usage
  | ["help"] => .inform .usage
  | [name] => if Command.all.any (·.name == name) then .inform .usage else .misuse
  | _ => .misuse

/-- Reads arguments up to the name of a command, which only the program has, and yields what is left
from there on. -/
def readOptions (command : Command) (r : Reading) :
    List String → Except Refusal (Reading × Option (Command × List String))
  | [] => .ok (r, none)
  | argument :: rest =>
    let named := command == .program && !r.takesValue command
    let next : Except Refusal Reading :=
      match argument.toList with
      | '-' :: '-' :: [] => if rest.isEmpty then .ok r else .error .misuse
      | '-' :: '-' :: cs => r.addLong command cs
      | '-' :: c :: cs => r.addShort command (c :: cs)
      | _ => if r.takesValue command then .ok (r.addValue argument) else .error .misuse
    if named && argument == "help" then .error (inform rest)
    else match if named then Command.all.find? (·.name == argument) else none with
      | some inner => .ok (r, some (inner, rest))
      | none =>
        match next with
        | .ok r => readOptions command r rest
        | .error refusal => .error refusal

def task? (command : Command) (r : Reading) : Option Task :=
  match command with
  | .program => none
  | .generate =>
    some (.generate {
      manifests := r.values .manifest
      directory := r.value? .outDir
      dialect := r.value? .dialect
      space := r.value? .space })
  | .plan =>
    (r.value? .manifest).map fun manifest =>
      .plan {
        manifest := manifest
        format := ((r.value? .format).bind fun name =>
          ReportFormat.all.find? (·.name == name)).getD .text }
  | .dialects => some .dialects

/-- What the arguments ask for. A settings file named for the command counts before one named for the
program. -/
def read (arguments : List String) : Except Refusal Invocation :=
  match readOptions .program .empty arguments with
  | .error refusal => .error refusal
  | .ok (_, none) => .error .misuse
  | .ok (outer, some (command, rest)) =>
    match readOptions command .empty rest with
    | .error refusal => .error refusal
    | .ok (inner, _) =>
      match inner.settle command, outer.settle .program with
      | .ok inner, .ok outer =>
        if command.required.any fun option => (inner.value? option).isNone then .error .misuse
        else
          let config := (inner.value? .config).or (outer.value? .config)
          match task? command inner with
          | some task => .ok ⟨config, task⟩
          | none => .error .misuse
      | _, _ => .error .misuse

end ServiceWiring.CommandLine
