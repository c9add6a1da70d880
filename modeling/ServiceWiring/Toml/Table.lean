import ServiceWiring.Value

/-! The tables of a TOML document while it is read. A table may be opened by a header, implied by the
header of another, or made by dotted keys, and each may be added to in its own way only. -/
namespace ServiceWiring.Toml

inductive Origin where
  | header
  | implied
  | dotted
  deriving DecidableEq, Repr

/-- What a key stands for: a finished value, a table, or an array of tables. -/
inductive Item where
  | value (v : Value)
  | table (origin : Origin) (fields : List (String × Item))
  | tables (items : List (List (String × Item)))

structure Table where
  origin : Origin
  fields : List (String × Item)

mutual

def Item.toValue : Item → Value
  | .value v => v
  | .table _ fields => .record (fieldValues fields)
  | .tables items => .list (tableValues items)

def fieldValues : List (String × Item) → List (String × Value)
  | [] => []
  | (key, item) :: fields => (key, item.toValue) :: fieldValues fields

def tableValues : List (List (String × Item)) → List Value
  | [] => []
  | fields :: items => .record (fieldValues fields) :: tableValues items

end

namespace Table

def empty (origin : Origin) : Table := ⟨origin, []⟩

def toValue (t : Table) : Value := .record (fieldValues t.fields)

def get? (t : Table) (key : String) : Option Item := t.fields.lookup key

/-- Gives a key another item, or adds the key. -/
def put (t : Table) (key : String) (item : Item) : Table :=
  if (t.get? key).isSome then
    { t with fields := t.fields.map fun field => if field.1 = key then (key, item) else field }
  else { t with fields := t.fields ++ [(key, item)] }

/-- Changes the table that a path leads to. Missing tables on the way are made, and of an array of
tables the last one counts. Dotted keys do not lead through the table of a header. -/
def change (dotted : Bool) (f : Table → Option Table) : List String → Table → Option Table
  | [], t => f t
  | key :: path, t =>
    match t.get? key with
    | none =>
      (change dotted f path (empty (if dotted then .dotted else .implied))).map fun u =>
        t.put key (.table u.origin u.fields)
    | some (.table origin fields) =>
      if dotted && origin == .header then none
      else (change dotted f path ⟨origin, fields⟩).map fun u =>
        t.put key (.table u.origin u.fields)
    | some (.tables items) =>
      (change dotted f path ⟨.header, items.getLastD []⟩).map fun u =>
        t.put key (.tables (items.dropLast ++ [u.fields]))
    | some (.value _) => none

/-- Sets the value of a dotted key. A table takes keys either through dots or without. -/
def set (path : List String) (key : String) (v : Value) (t : Table) : Option Table :=
  change true (fun u =>
    if (u.origin == .dotted) != path.isEmpty && (u.get? key).isNone then
      some (u.put key (.value v))
    else none) path t

/-- Opens the table of a header. It may have been implied before, but not made. -/
def openTable (path : List String) (key : String) (t : Table) : Option Table :=
  change false (fun u =>
    match u.get? key with
    | none => some (u.put key (.table .header []))
    | some (.table .implied fields) => some (u.put key (.table .header fields))
    | _ => none) path t

/-- Opens one more table of an array. -/
def openArray (path : List String) (key : String) (t : Table) : Option Table :=
  change false (fun u =>
    match u.get? key with
    | none => some (u.put key (.tables [[]]))
    | some (.tables items) => some (u.put key (.tables (items ++ [[]])))
    | _ => none) path t

end Table

end ServiceWiring.Toml
