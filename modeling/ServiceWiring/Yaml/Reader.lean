import ServiceWiring.Value
import ServiceWiring.Yaml.Scalar

/-! Reading YAML: block and flow collections of plain and quoted scalars, in one document. Anchors,
tags, directives, explicit keys and block scalars are refused. -/
namespace ServiceWiring.Yaml

/-- A key stands on one line with its colon, at most so many bytes before it. -/
def keyLimit : Nat := 1024

/-- The place behind the colon that makes what was read from `key` on a key. -/
def afterColon? (flow : Bool) (key here : Cursor) : Option Cursor :=
  match here.rest with
  | ':' :: rest =>
    if (flow || endsToken rest) && here.place.line == key.place.line &&
        here.place.byte ≤ key.place.byte + keyLimit then
      some (here.skip 1)
    else none
  | _ => none

/-- A record whose keys are all scalars; with another key it is foreign. -/
def recordOf (pairs : List (Value × Value)) : Value :=
  match pairs.mapM fun pair => pair.1.string?.map (·, pair.2) with
  | some fields => .record fields
  | none => .foreign

/-- What stands where nothing is written. -/
def nothing : Value := .plain ""

def closes (close : Char) (c : Cursor) : Bool := c.rest.head? == some close

/-- No collection has more parts than characters, and each part takes three calls at most. -/
def flowFuel (c : Cursor) : Nat := 3 * c.rest.length + 3

/-- Whether a flow collection goes on behind a member. -/
def continues (close : Char) (c : Cursor) : Bool := closes close c || closes ',' c

mutual

/-- Reads a scalar or a flow collection, up to its last character. -/
def readAtom : Nat → (flow : Bool) → (least : Nat) → Cursor → Option (Value × Cursor)
  | 0, _, _, _ => none
  | fuel + 1, flow, least, c =>
    if c.atMarker then none
    else match c.rest with
      | '[' :: _ =>
        match readItems fuel least (c.skip 1) with
        | some (items, c) => some (.list items, c)
        | none => none
      | '{' :: _ =>
        match readPairs fuel least (c.skip 1) with
        | some (pairs, c) => some (recordOf pairs, c)
        | none => none
      | '\x27' :: rest => (singleFrom (c.place.along 1) .empty rest).map fun r => (.text r.1, r.2)
      | '"' :: rest => (doubleFrom (c.place.along 1) .empty rest).map fun r => (.text r.1, r.2)
      | rest =>
        if beginsPlain flow rest then
          (plainFrom flow least c.place .empty rest).map fun r => (.plain r.1, r.2)
        else none

/-- Reads the value behind a colon in a flow collection. It may be left out. -/
def readFlowValue : Nat → (least : Nat) → (close : Char) → Cursor → Option (Value × Cursor)
  | 0, _, _, _ => none
  | fuel + 1, least, close, c =>
    let c := c.gap true
    if continues close c then some (nothing, c)
    else match readAtom fuel true least c with
      | some (v, c) => some (v, c.gap true)
      | none => none

/-- Reads the members of a flow sequence and its closing bracket. A member with a colon behind it is
a record of one field. -/
def readItems : Nat → (least : Nat) → Cursor → Option (List Value × Cursor)
  | 0, _, _ => none
  | fuel + 1, least, c =>
    let start := c.gap true
    if closes ']' start then some ([], start.skip 1)
    else match readAtom fuel true least start with
      | none => none
      | some (v, c) =>
        let c := c.gap true
        let member : Option (Value × Cursor) :=
          match afterColon? true start c with
          | some c => (readFlowValue fuel least ']' c).map fun r => (recordOf [(v, r.1)], r.2)
          | none => some (v, c)
        match member with
        | none => none
        | some (v, c) =>
          if closes ']' c then some ([v], c.skip 1)
          else if closes ',' c then
            match readItems fuel least (c.skip 1) with
            | some (vs, c) => some (v :: vs, c)
            | none => none
          else none

/-- Reads the fields of a flow mapping and its closing brace. -/
def readPairs : Nat → (least : Nat) → Cursor → Option (List (Value × Value) × Cursor)
  | 0, _, _ => none
  | fuel + 1, least, c =>
    let start := c.gap true
    if closes '}' start then some ([], start.skip 1)
    else match readAtom fuel true least start with
      | none => none
      | some (key, c) =>
        let c := c.gap true
        let member : Option (Value × Cursor) :=
          match afterColon? true start c with
          | some c => readFlowValue fuel least '}' c
          | none => some (nothing, c)
        match member with
        | none => none
        | some (v, c) =>
          if closes '}' c then some ([(key, v)], c.skip 1)
          else if closes ',' c then
            match readPairs fuel least (c.skip 1) with
            | some (pairs, c) => some ((key, v) :: pairs, c)
            | none => none
          else none

end

mutual

/-- Reads what stands at the column `least` or behind it, and the gap that follows. -/
def readNode : Nat → (least : Nat) → Cursor → Option (Value × Cursor)
  | 0, _, _ => none
  | fuel + 1, least, c =>
    if c.atDash then
      if c.fresh then
        match readEntries fuel false c.place.column c with
        | some (items, c) => some (.list items, c)
        | none => none
      else none
    else match readAtom (flowFuel c) false least c with
      | none => none
      | some (v, here) =>
        let here := here.gap false
        match if c.fresh then afterColon? false c here else none with
        | some here =>
          match readFields fuel c.place.column v here with
          | some (pairs, c) => some (recordOf pairs, c)
          | none => none
        | none => some (v, here)

/-- Reads the value of a key at the column given. A sequence may stand at that column itself. -/
def readValue : Nat → (column : Nat) → Cursor → Option (Value × Cursor)
  | 0, _, _ => none
  | fuel + 1, column, c =>
    let c := c.gap false
    if c.atEnd || c.place.column ≤ column then
      if !c.atEnd && c.place.column == column && c.atDash then
        match readEntries fuel true column c with
        | some (items, c) => some (.list items, c)
        | none => none
      else some (nothing, c)
    else readNode fuel (column + 1) c

/-- Reads a block mapping from behind the colon of a key on. -/
def readFields : Nat → (column : Nat) → (key : Value) → Cursor →
    Option (List (Value × Value) × Cursor)
  | 0, _, _, _ => none
  | fuel + 1, column, key, c =>
    match readValue fuel column c with
    | none => none
    | some (v, c) =>
      if c.atEnd || c.place.column < column then some ([(key, v)], c)
      else if c.place.column == column && c.fresh then
        match readAtom (flowFuel c) false (column + 1) c with
        | none => none
        | some (next, here) =>
          match afterColon? false c (here.gap false) with
          | none => none
          | some here =>
            match readFields fuel column next here with
            | some (pairs, c) => some ((key, v) :: pairs, c)
            | none => none
      else none

/-- Reads a block sequence from a dash on. One that shares the column of a key ends where the next
key stands. -/
def readEntries : Nat → (shared : Bool) → (column : Nat) → Cursor → Option (List Value × Cursor)
  | 0, _, _, _ => none
  | fuel + 1, shared, column, c =>
    let inner := Cursor.gap false { c.skip 1 with fresh := true }
    let entry :=
      if inner.atEnd || inner.place.column ≤ column then some (nothing, inner)
      else readNode fuel (column + 1) inner
    match entry with
    | none => none
    | some (v, c) =>
      if c.atEnd || c.place.column < column then some ([v], c)
      else if c.place.column == column && c.fresh then
        if c.atDash then
          match readEntries fuel shared column c with
          | some (vs, c) => some (v :: vs, c)
          | none => none
        else if shared then some ([v], c)
        else none
      else none

end

/-- Whether nothing is left but ends of the document. -/
def finished : Nat → Cursor → Bool
  | 0, _ => false
  | fuel + 1, c =>
    let c := c.gap false
    if c.rest.isEmpty then true
    else if c.atMarker && closes '.' c then finished fuel (c.skip 3)
    else false

/-- The place where the content begins, behind the start of the document; and whether that was
written. -/
def beginning (cs : List Char) : Cursor × Bool :=
  let start := (Cursor.ofText cs).gap false
  if start.atMarker && closes '-' start then ((start.skip 3).gap false, true) else (start, false)

/-- Reads the content of a document. There may be none in a text without anything, and where the
start of the document is written. -/
def readContent (fuel : Nat) (cs : List Char) : Option (Value × Cursor) :=
  let (start, explicit) := beginning cs
  if start.rest.isEmpty || (explicit && start.atMarker) then some (nothing, start)
  else if start.atMarker then none
  else readNode fuel 0 start

def readChars (cs : List Char) : Option Value :=
  if cs.all isAllowed then
    let cs := unifyBreaks cs
    let fuel := 4 * cs.length + 4
    match readContent fuel cs with
    | some (v, rest) => if finished fuel rest then some v else none
    | none => none
  else none

/-- The value of the only document of a text. -/
def read? (s : String) : Option Value := readChars s.toList

end ServiceWiring.Yaml
