import ServiceWiring.Toml.Quoted
import ServiceWiring.Toml.Scalar
import ServiceWiring.Toml.Table

/-! Reading TOML. -/
namespace ServiceWiring.Toml

/-- What follows a comment, if the text begins with one; the text itself otherwise. -/
def skipComment? : List Char → Option (List Char)
  | '#' :: rest =>
    let isComment (c : Char) : Bool := c != '\n' && c != '\r'
    if (rest.takeWhile isComment).all isPrintable then some (rest.dropWhile isComment) else none
  | cs => some cs

/-- What follows the end of a line, on which there may be a comment. -/
def endLine? (cs : List Char) : Option (List Char) :=
  match skipComment? (skipBlanks cs) with
  | some [] => some []
  | some rest => afterBreak? rest
  | none => none

/-- Passes blanks, comments and line breaks. -/
def skipSpace? : Nat → List Char → Option (List Char)
  | 0, _ => none
  | fuel + 1, cs =>
    match skipComment? (skipBlanks cs) with
    | none => none
    | some rest =>
      match afterBreak? rest with
      | some rest => skipSpace? fuel rest
      | none => some rest

def isBare (c : Char) : Bool := c.isAlphanum || c == '_' || c == '-'

def readSimpleKey (ed : Edition) (cs : List Char) : Read String :=
  match cs with
  | '"' :: rest => (readBasic ed rest).map fun r => (String.ofList r.1, r.2)
  | '\x27' :: rest => (readLiteral rest).map fun r => (String.ofList r.1, r.2)
  | _ =>
    let key := cs.takeWhile isBare
    if key.isEmpty then none else some (String.ofList key, cs.dropWhile isBare)

/-- Reads the parts of a key, the last one apart, and the blanks behind it. -/
def readKeyParts (ed : Edition) : Nat → List Char → Read (List String × String)
  | 0, _ => none
  | fuel + 1, cs =>
    match readSimpleKey ed cs with
    | none => none
    | some (part, rest) =>
      match skipBlanks rest with
      | '.' :: rest =>
        (readKeyParts ed fuel (skipBlanks rest)).map fun r => ((part :: r.1.1, r.1.2), r.2)
      | rest => some (([], part), rest)

/-- Reads a key of one or more parts, but not of too many. -/
def readKey (ed : Edition) (cs : List Char) : Read (List String × String) :=
  (readKeyParts ed (cs.length + 1) cs).filter fun r => r.1.1.length < ed.keyLimit

def inScalar (c : Char) : Bool := c.isAlphanum || ['+', '-', '.', ':', '_'].contains c

/-- Reads a scalar without quotes. Between a date and a time there may be a space. -/
def readScalar (ed : Edition) (cs : List Char) : Read Value :=
  let word := cs.takeWhile inScalar
  let rest := cs.dropWhile inScalar
  let spaced := isDate word && rest.head? == some ' ' && (rest.drop 1).head?.any Char.isDigit
  if spaced then
    let time := (rest.drop 1).takeWhile inScalar
    (scalar? ed (word ++ 'T' :: time)).map (·, (rest.drop 1).dropWhile inScalar)
  else (scalar? ed word).map (·, rest)

/-- Passes what may stand between the parts of an inline table. -/
def skipInside? (ed : Edition) (cs : List Char) : Option (List Char) :=
  if ed.looseTables then skipSpace? (cs.length + 1) cs else some (skipBlanks cs)

mutual

/-- Reads a value that may hold so many levels of others. -/
def readValue (ed : Edition) : Nat → (levels : Nat) → List Char → Read Value
  | 0, _, _ => none
  | fuel + 1, levels, cs =>
    match cs with
    | '"' :: _ => (readString ed cs).map fun r => (.text (String.ofList r.1), r.2)
    | '\x27' :: _ => (readString ed cs).map fun r => (.text (String.ofList r.1), r.2)
    | '[' :: rest =>
      if levels == 0 then none
      else match readItems ed fuel (levels - 1) rest with
        | some (items, rest) => some (.list items, rest)
        | none => none
    | '{' :: rest =>
      if levels == 0 then none
      else match skipInside? ed rest with
        | none => none
        | some ('}' :: rest) => some (.record [], rest)
        | some rest =>
          match readFields ed fuel (levels - 1) (.empty .header) rest with
          | some (table, rest) => some (table.toValue, rest)
          | none => none
    | _ => readScalar ed cs

/-- Reads the members of an array and its closing bracket. -/
def readItems (ed : Edition) : Nat → (levels : Nat) → List Char → Read (List Value)
  | 0, _, _ => none
  | fuel + 1, levels, cs =>
    match skipSpace? (cs.length + 1) cs with
    | none => none
    | some (']' :: rest) => some ([], rest)
    | some rest =>
      match readValue ed fuel levels rest with
      | none => none
      | some (v, rest) =>
        match skipSpace? (rest.length + 1) rest with
        | some (']' :: rest) => some ([v], rest)
        | some (',' :: rest) =>
          match readItems ed fuel levels rest with
          | some (vs, rest) => some (v :: vs, rest)
          | none => none
        | _ => none

/-- Reads the fields of an inline table, of which there is one at least, and its closing brace. -/
def readFields (ed : Edition) : Nat → (levels : Nat) → Table → List Char → Read Table
  | 0, _, _, _ => none
  | fuel + 1, levels, t, cs =>
    match readField ed fuel levels t cs with
    | none => none
    | some (t, '}' :: rest) => some (t, rest)
    | some (t, ',' :: rest) =>
      match skipInside? ed rest with
      | none => none
      | some ('}' :: rest) => if ed.looseTables then some (t, rest) else none
      | some rest => readFields ed fuel levels t rest
    | some _ => none

/-- Reads one field of an inline table, and what may stand behind it. -/
def readField (ed : Edition) : Nat → (levels : Nat) → Table → List Char → Read Table
  | 0, _, _, _ => none
  | fuel + 1, levels, t, cs =>
    match readKey ed cs with
    | none => none
    | some ((path, key), rest) =>
      match skipInside? ed rest with
      | some ('=' :: rest) =>
        match (skipInside? ed rest).bind (readValue ed fuel levels) with
        | none => none
        | some (v, rest) =>
          match t.set path key v, skipInside? ed rest with
          | some t, some rest => some (t, rest)
          | _, _ => none
      | _ => none

end

/-- What has been read of a document, and the path of the header that the next keys stand under. -/
structure Draft where
  root : Table
  header : List String

def Draft.empty : Draft := ⟨.empty .header, []⟩

def Draft.setKey (d : Draft) (path : List String) (key : String) (v : Value) : Option Draft :=
  (d.root.change false (Table.set path key v) d.header).map fun root => { d with root := root }

/-- No value has more parts than characters, and each part takes three calls at most. -/
def valueFuel (cs : List Char) : Nat := 3 * cs.length + 3

/-- Reads a header or a key with its value, up to the end of the line. -/
def readLine (ed : Edition) (d : Draft) (cs : List Char) : Read Draft :=
  match cs with
  | '[' :: '[' :: rest =>
    match readKey ed (skipBlanks rest) with
    | some ((path, key), ']' :: ']' :: rest) =>
      match d.root.openArray path key, endLine? rest with
      | some root, some rest => some (⟨root, path ++ [key]⟩, rest)
      | _, _ => none
    | _ => none
  | '[' :: rest =>
    match readKey ed (skipBlanks rest) with
    | some ((path, key), ']' :: rest) =>
      match d.root.openTable path key, endLine? rest with
      | some root, some rest => some (⟨root, path ++ [key]⟩, rest)
      | _, _ => none
    | _ => none
  | _ =>
    match readKey ed cs with
    | some ((path, key), '=' :: rest) =>
      match readValue ed (valueFuel rest) ed.nestingLimit (skipBlanks rest) with
      | none => none
      | some (v, rest) =>
        match d.setKey path key v, endLine? rest with
        | some d, some rest => some (d, rest)
        | _, _ => none
    | _ => none

def readLines (ed : Edition) : Nat → Draft → List Char → Option Draft
  | 0, _, _ => none
  | fuel + 1, d, cs =>
    match skipSpace? (cs.length + 1) cs with
    | none => none
    | some [] => some d
    | some rest =>
      match readLine ed d rest with
      | some (d, rest) => readLines ed fuel d rest
      | none => none

def readChars (ed : Edition) (cs : List Char) : Option Value :=
  let cs := match cs with
    | '\ufeff' :: rest => rest
    | _ => cs
  (readLines ed (cs.length + 1) .empty cs).map (·.root.toValue)

/-- The record that a text spells. -/
def read? (ed : Edition) (s : String) : Option Value := readChars ed s.toList

end ServiceWiring.Toml
