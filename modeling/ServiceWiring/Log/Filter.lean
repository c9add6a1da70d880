import ServiceWiring.Dialect
import ServiceWiring.Log.Level
import ServiceWiring.Log.Pattern
import ServiceWiring.Text.Letter
import ServiceWiring.Value.Plain

/-! Log filters: directives between commas, each of which lets messages of some origin through up to
a level. -/
namespace ServiceWiring.Log
open ServiceWiring.Text

/-- A level by its number or its name, in whatever case. -/
def Level.ofDirective? (cs : List Char) : Option Level :=
  let digits := match cs with
    | '+' :: rest => rest
    | _ => cs
  if digits.isEmpty then none
  else if digits.all Char.isDigit then
    let n := digits.foldl (fun n d => 10 * n + (d.toNat - 48)) 0
    all.find? (·.rank == n)
  else all.find? fun level => Dialect.sameUpToCase level.name (String.ofList cs)

/-- The names of numbers that digits do not spell. -/
def unusualNumbers : List String := ["inf", "infinity", "nan"]

/-- Whether the value of a field is compared as a number. -/
def isNumber (cs : List Char) : Bool :=
  let magnitude := Value.Plain.magnitudeChars cs
  (Value.Plain.Decimal.read? magnitude).isSome ||
    unusualNumbers.contains (String.ofList (magnitude.map Char.toLower))

/-- Whether a directive may ask for a field: by its name, or also by its value, which is a number or
matches a pattern. -/
def isCondition (cs : List Char) : Bool :=
  !cs.isEmpty &&
    match pieces '=' cs with
    | _ :: value :: _ => isNumber value || Pattern.isPattern value
    | _ => true

/-- Where a reader stands inside a directive. -/
inductive Place where
  | start
  | word
  | span
  | field
  | fields
  | closed
  | level

/-- What has been read of a directive. A directive that looks at the values of fields lets
everything through. -/
structure Draft where
  place : Place
  word : List Char
  valued : Bool

namespace Draft

def empty : Draft := ⟨.start, [], false⟩

/-- Reads on by a character `c` of the trimmed directive. Words are made of the characters `w` that
stand in the same places before trimming. -/
def next (d : Draft) (c w : Char) : Option Draft :=
  let longer : Draft := { d with word := d.word ++ [w] }
  match d.place with
  | .start =>
    if c = '[' then some { d with place := .span }
    else if isAlphanumeric c || c == '-' || c == ':' || c == '_' then
      some { longer with place := .word }
    else none
  | .word =>
    if c = '=' then some { d with place := .level, word := [] }
    else if c = '[' then some { d with place := .span }
    else some longer
  | .span =>
    if c = ']' then some { d with place := .closed }
    else if c = '{' then some { d with place := .field, word := [] }
    else some d
  | .field =>
    if c = '}' then
      if isCondition d.word then
        some { d with place := .fields, valued := d.valued || d.word.contains '=' }
      else none
    else some longer
  | .fields => if c = ']' then some { d with place := .closed } else none
  | .closed => if c = '=' then some { d with place := .level, word := [] } else none
  | .level => some longer

/-- The level up to which a whole directive lets messages through. Its last word goes on to the end. -/
def finish (d : Draft) (ending : List Char) : Option Level :=
  let word := d.word ++ ending
  let level : Option Level :=
    match d.place with
    | .word => some ((Level.ofDirective? word).getD .trace)
    | .level => if word.isEmpty then some .trace else Level.ofDirective? word
    | .closed => some .trace
    | _ => none
  level.map fun level => if d.valued then .trace else level

end Draft

def directive? (cs : List Char) : Option Level :=
  let trimmed := trimChars cs
  ((trimmed.zip cs).foldlM (fun (d : Draft) p => d.next p.1 p.2) .empty).bind
    (Draft.finish · (cs.drop trimmed.length))

/-- The highest level that a filter lets through. Without any directive that is none. -/
def filter? (text : String) : Option Level :=
  let directives := (pieces ',' text.toList).filter fun piece => !piece.isEmpty
  (directives.mapM directive?).map fun levels => levels.foldl Level.max .off

/-- A filter that can be read wins over the level that is configured. -/
def maxLevel (configured : String) (filter : Option String) : Except Error Level :=
  (Level.ofSetting configured).map fun level => (filter.bind filter?).getD level

end ServiceWiring.Log
