/-! Values that a manifest or a configuration is made of, whatever notation they were written in. -/
namespace ServiceWiring

/-- A value as read from a text. `plain` is a scalar without quotes, whose kind its reader decides.
`foreign` is well formed but nothing that any reader takes, such as a fraction. -/
inductive Value where
  | null
  | bool (b : Bool)
  | integer (n : Int)
  | text (s : String)
  | plain (s : String)
  | list (items : List Value)
  | record (fields : List (String × Value))
  | foreign
  deriving Inhabited

namespace Value

/-- How a list may stand for a record, its members being the fields in declared order. -/
inductive ListedFields where
  | never
  | exactly
  | leading
  deriving DecidableEq

/-- What a record has for one of its fields. A list that is too short has `ended`. -/
inductive Field where
  | given (v : Value)
  | absent
  | ended

def Field.ofListed : List Value → List String → List Field
  | _, [] => []
  | [], _ :: names => .ended :: ofListed [] names
  | v :: items, _ :: names => .given v :: ofListed items names

/-- The field of that name, unless the record repeats it. -/
def Field.ofRecord? (fields : List (String × Value)) (name : String) : Option Field :=
  match fields.filter fun field => field.1 == name with
  | [] => some .absent
  | [(_, v)] => some (.given v)
  | _ => none

/-- The named fields of a value. Other fields of a record are passed over. -/
def fields? (form : ListedFields) (names : List String) : Value → Option (List Field)
  | .record fields => names.mapM (Field.ofRecord? fields)
  | .list items =>
    match form with
    | .never => none
    | .exactly => if items.length ≤ names.length then some (Field.ofListed items names) else none
    | .leading => some (Field.ofListed items names)
  | .plain "" => some (names.map fun _ => .absent)
  | _ => none

namespace Field
variable {α : Type}

def required (read : Value → Option α) : Field → Option α
  | .given v => read v
  | _ => none

def withDefault (fallback : α) (read : Value → Option α) : Field → Option α
  | .given v => read v
  | _ => some fallback

/-- A field that may be left out of a record, but not off the end of a list. -/
def nullable (read : Value → Option (Option α)) : Field → Option (Option α)
  | .given v => read v
  | .absent => some none
  | .ended => none

end Field

def string? : Value → Option String
  | .text s => some s
  | .plain s => some s
  | _ => none

def bool? : Value → Option Bool
  | .bool b => some b
  | _ => none

def orNull? {α : Type} (read : Value → Option α) : Value → Option (Option α)
  | .null => some none
  | v => (read v).map some

/-- An integer that fits into a signed word of 64 bits. -/
def int64? : Value → Option Int
  | .integer n => if -0x8000000000000000 ≤ n ∧ n < 0x8000000000000000 then some n else none
  | _ => none

/-- A count that fits into a word of 64 bits. -/
def count? : Value → Option Nat
  | .integer n => if 0 ≤ n ∧ n < 0x10000000000000000 then some n.toNat else none
  | _ => none

/-- A list of things; an empty plain scalar is an empty list. -/
def listOf? {α : Type} (read : Value → Option α) : Value → Option (List α)
  | .list items => items.mapM read
  | .plain "" => some []
  | _ => none

/-- The name of an alternative, which may also be written as the only key of a record. -/
def choice? : Value → Option String
  | .record [(name, .null)] => some name
  | v => v.string?

/-- The alternative with the given name. -/
def oneOf? {α : Type} (all : List α) (name : α → String) (v : Value) : Option α :=
  v.choice?.bind fun s => all.find? fun a => name a == s

def ofOption {α : Type} (write : α → Value) : Option α → Value
  | some a => write a
  | none => .null

end Value

end ServiceWiring
