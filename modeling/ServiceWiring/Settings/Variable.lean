import ServiceWiring.Text.Blank
import ServiceWiring.Text.Pieces
import ServiceWiring.Toml.Quoted
import ServiceWiring.Value.Plain

/-! Variables of the environment that hold settings, and the values that they spell. -/
namespace ServiceWiring.Settings.Variable
open ServiceWiring.Text

/-- Underscores in pairs separate the keys of nested records, like dots. -/
def dotted : List Char → List Char
  | '_' :: '_' :: rest => '.' :: dotted rest
  | c :: rest => c :: dotted rest
  | [] => []

/-- The keys that a variable is for, if its name begins with the family and an underscore. Case does
not matter, and no key is empty. -/
def keys? (family name : String) : Option (List String) :=
  let start := family.toList ++ ['_']
  let name := trimChars name.toList
  if (name.take start.length).map Char.toLower = start.map Char.toLower then
    let rest := (dotted (trimChars (name.drop start.length))).map Char.toLower
    let keys := pieces '.' rest
    if keys.contains [] then none else some (keys.map String.ofList)
  else none

/-- White space around the parts of a value. -/
def isSpace (c : Char) : Bool := [' ', '\t', '\n', '\x0c', '\r'].contains c

def skipSpace (cs : List Char) : List Char := cs.dropWhile isSpace

def isSeparator (c : Char) : Bool := [',', '{', '}', '[', ']'].contains c

def isKeyChar (c : Char) : Bool := c.isAlphanum || c == '_' || c == '-'

abbrev Read (α : Type) := Option (α × List Char)

def digits? (cs : List Char) : Option Nat := Value.Plain.number? 10 cs

/-- An integer that fits into 64 bits, with a sign or without. -/
def integer? : List Char → Option Int
  | '-' :: rest => (digits? rest).bind fun n => if n ≤ 0x8000000000000000 then some (-(n : Int)) else none
  | '+' :: rest => (digits? rest).bind fun n => if n < 0x10000000000000000 then some (n : Int) else none
  | cs => (digits? cs).bind fun n => if n < 0x10000000000000000 then some (n : Int) else none

def isFraction (cs : List Char) : Bool :=
  cs.contains '.' && (Value.Plain.Decimal.read? (Value.Plain.magnitudeChars cs)).isSome

/-- What a word without quotes spells. -/
def word (cs : List Char) : Value :=
  if isFraction cs then .foreign
  else match integer? cs with
    | some n => .integer n
    | none => .text (String.ofList cs)

/-- Reads a text in quotes, which is written as in a settings file, from behind the opening quote. -/
def readQuoted (cs : List Char) : Read String :=
  (Toml.readBasic .first cs).map fun r => (String.ofList r.1, r.2)

def readKey (cs : List Char) : Read String :=
  match cs with
  | '"' :: rest => readQuoted rest
  | _ =>
    let key := cs.takeWhile isKeyChar
    if key.isEmpty then none else some (String.ofList key, cs.dropWhile isKeyChar)

mutual

def readValue : Nat → List Char → Read Value
  | 0, _ => none
  | fuel + 1, cs =>
    let read : Read Value :=
      match skipSpace cs with
      | 't' :: 'r' :: 'u' :: 'e' :: rest => some (.bool true, rest)
      | 'f' :: 'a' :: 'l' :: 's' :: 'e' :: rest => some (.bool false, rest)
      | '"' :: rest => (readQuoted rest).map fun r => (.text r.1, r.2)
      | '\x27' :: c :: '\x27' :: rest => some (.text (String.ofList [c]), rest)
      | '\x27' :: _ => none
      | '[' :: rest => (readItems fuel rest).map fun r => (.list r.1, r.2)
      | '{' :: rest => (readFields fuel rest).map fun r => (.record r.1, r.2)
      | rest =>
        let cs := rest.takeWhile fun c => !isSeparator c
        some (word (trimChars cs), rest.dropWhile fun c => !isSeparator c)
    read.map fun r => (r.1, skipSpace r.2)

/-- Reads the members of a list and its closing bracket. White space before the bracket would be a
member. -/
def readItems : Nat → List Char → Read (List Value)
  | 0, _ => none
  | fuel + 1, cs =>
    match cs with
    | ']' :: rest => some ([], rest)
    | cs =>
      match readValue fuel cs with
      | some (v, ']' :: rest) => some ([v], rest)
      | some (v, ',' :: rest) => (readItems fuel rest).map fun r => (v :: r.1, r.2)
      | _ => none

/-- Reads the fields of a record and its closing brace. White space before the brace would belong to a
field. -/
def readFields : Nat → List Char → Read (List (String × Value))
  | 0, _ => none
  | fuel + 1, cs =>
    match cs with
    | '}' :: rest => some ([], rest)
    | cs =>
      match readKey (skipSpace cs) with
      | none => none
      | some (key, rest) =>
        match skipSpace rest with
        | '=' :: rest =>
          match readValue fuel rest with
          | some (v, '}' :: rest) => some ([(key, v)], rest)
          | some (v, ',' :: rest) => (readFields fuel rest).map fun r => ((key, v) :: r.1, r.2)
          | _ => none
        | _ => none

end

/-- What the value of a variable spells. A value that spells nothing else is a text as it stands. -/
def read (s : String) : Value :=
  match readValue (2 * s.length + 2) s.toList with
  | some (v, []) => v
  | _ => .text s

end ServiceWiring.Settings.Variable
