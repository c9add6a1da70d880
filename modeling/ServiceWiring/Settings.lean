import ServiceWiring.Document.Scaffold
import ServiceWiring.Error
import ServiceWiring.Log.Level
import ServiceWiring.Pass
import ServiceWiring.Text.Blank
import ServiceWiring.Text.Identifier

/-! Settings of the program. -/
namespace ServiceWiring
open ServiceWiring.Text

/-- How source is written and marks are read. Without a namespace of its own, source goes into that
of the unit. -/
structure GeneratorSettings where
  dialect : String
  space : Option String
  className : String
  entryPoint : String
  hook : String
  container : Option String
  listed : ListedPolicy
  invalid : InvalidPolicy
  deriving DecidableEq, Repr

structure LogSettings where
  level : String
  json : Bool
  file : Option String
  deriving DecidableEq, Repr

structure Settings where
  generator : GeneratorSettings
  logging : LogSettings
  deriving DecidableEq, Repr

namespace GeneratorSettings

def initial : GeneratorSettings :=
  { dialect := Dialect.partialClass.name
    space := none
    className := Scaffold.defaultClassName
    entryPoint := Scaffold.defaultEntryPoint
    hook := Scaffold.defaultHook
    container := none
    listed := .unchecked
    invalid := .abort }

/-- The configured namespace, or else the name of the unit, or else the usual one. Blank ones do not
count. -/
def spaceFor (g : GeneratorSettings) (unit : String) : String :=
  let candidates := (g.space.toList ++ [unit]).map trim
  (candidates.find? (· != "")).getD Scaffold.defaultSpace

def scaffold (g : GeneratorSettings) (unit : String) : Scaffold :=
  { space := g.spaceFor unit
    className := g.className
    entryPoint := g.entryPoint
    hook := g.hook
    container := g.container }

def passOptions (g : GeneratorSettings) : PassOptions := ⟨g.listed, g.invalid⟩

def fieldNames : List String :=
  ["dialect", "namespace", "class_name", "entry_point", "hook", "container_namespace",
   "manual_interfaces", "on_invalid_annotation"]

def toValue (g : GeneratorSettings) : Value :=
  .record [("dialect", .text g.dialect), ("namespace", Value.ofOption .text g.space),
    ("class_name", .text g.className), ("entry_point", .text g.entryPoint),
    ("hook", .text g.hook), ("container_namespace", Value.ofOption .text g.container),
    ("manual_interfaces", g.listed.toValue), ("on_invalid_annotation", g.invalid.toValue)]

/-- Whatever is left out is as it is initially. -/
def ofValue? (form : Value.ListedFields) (v : Value) : Option GeneratorSettings :=
  match v.fields? form fieldNames with
  | some [dialect, space, className, entryPoint, hook, container, listed, invalid] => do
    return {
      dialect := ← dialect.withDefault initial.dialect Value.string?
      space := ← space.withDefault initial.space (Value.orNull? Value.string?)
      className := ← className.withDefault initial.className Value.string?
      entryPoint := ← entryPoint.withDefault initial.entryPoint Value.string?
      hook := ← hook.withDefault initial.hook Value.string?
      container := ← container.withDefault initial.container (Value.orNull? Value.string?)
      listed := ← listed.withDefault initial.listed ListedPolicy.ofValue?
      invalid := ← invalid.withDefault initial.invalid InvalidPolicy.ofValue? }
  | _ => none

/-- The settings that must be identifiers, with what they are called. -/
def identifiers (g : GeneratorSettings) : List (String × String) :=
  [("class_name", g.className), ("entry_point", g.entryPoint), ("hook", g.hook)]

def fault? (g : GeneratorSettings) : Option SettingsFault :=
  if isBlankText g.dialect then some .blankDialect
  else (g.identifiers.find? fun setting => !isIdentifier setting.2).map fun setting =>
    .notIdentifier setting.1 setting.2

end GeneratorSettings

namespace LogSettings

def initial : LogSettings := { level := "info", json := false, file := none }

def toValue (l : LogSettings) : Value :=
  .record [("level", .text l.level), ("json_format", .bool l.json),
    ("file_output", Value.ofOption .text l.file)]

def ofValue? (form : Value.ListedFields) (v : Value) : Option LogSettings :=
  match v.fields? form ["level", "json_format", "file_output"] with
  | some [level, json, file] => do
    return {
      level := ← level.withDefault initial.level Value.string?
      json := ← json.withDefault initial.json Value.bool?
      file := ← file.withDefault initial.file (Value.orNull? Value.string?) }
  | _ => none

end LogSettings

namespace Settings

def initial : Settings := ⟨.initial, .initial⟩

def toValue (s : Settings) : Value :=
  .record [("generator", s.generator.toValue), ("logging", s.logging.toValue)]

def ofValue? (form : Value.ListedFields) (v : Value) : Option Settings :=
  match v.fields? form ["generator", "logging"] with
  | some [generator, logging] => do
    return {
      generator := ← generator.withDefault initial.generator (GeneratorSettings.ofValue? form)
      logging := ← logging.withDefault initial.logging (LogSettings.ofValue? form) }
  | _ => none

/-- The settings themselves, if every one of them can be used. -/
def checked (s : Settings) : Except Error Settings :=
  match s.generator.fault? with
  | some fault => .error (.settings fault)
  | none => (Log.Level.ofSetting s.logging.level).map fun _ => s

end Settings

end ServiceWiring
