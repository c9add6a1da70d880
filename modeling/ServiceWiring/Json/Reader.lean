import ServiceWiring.Text.Hex
import ServiceWiring.Value

/-! Reading JSON text. Numbers that are no integers, and strings with half of a surrogate pair, are
foreign values: they may stand where nobody reads them. -/
namespace ServiceWiring.Json
open ServiceWiring.Text

/-- What was being read when the text ended. -/
inductive Place where
  | value
  | list
  | record
  | string
  deriving DecidableEq, Repr

inductive Fault where
  | ended (place : Place)
  | unexpected
  deriving DecidableEq, Repr

abbrev Read (α : Type) := Except Fault (α × List Char)

def isBlank (c : Char) : Bool := c == ' ' || c == '\n' || c == '\t' || c == '\r'

def skipBlank (cs : List Char) : List Char := cs.dropWhile isBlank

/-- A character of a string, or a surrogate that an escape stands for. -/
inductive Unit16 where
  | char (c : Char)
  | surrogate (n : Nat)

def Unit16.ofCode (n : Nat) : Unit16 :=
  match charOfCode? n with
  | some c => .char c
  | none => .surrogate n

/-- The characters that the units spell, if every surrogate is half of a pair. -/
def Unit16.combine : List Unit16 → Option (List Char)
  | [] => some []
  | .char c :: rest => (combine rest).map (c :: ·)
  | .surrogate high :: .surrogate low :: rest =>
    if high < 0xdc00 ∧ 0xdc00 ≤ low then
      (combine rest).map (Char.ofNat (0x10000 + (high - 0xd800) * 0x400 + (low - 0xdc00)) :: ·)
    else none
  | .surrogate _ :: _ => none

def shortEscape? (c : Char) : Option Char :=
  if c = '"' then some '"'
  else if c = '\\' then some '\\'
  else if c = '/' then some '/'
  else if c = 'b' then some '\x08'
  else if c = 'f' then some '\x0c'
  else if c = 'n' then some '\n'
  else if c = 'r' then some '\r'
  else if c = 't' then some '\t'
  else none

private def Read.push (u : Unit16) : Read (List Unit16) → Read (List Unit16)
  | .ok (us, rest) => .ok (u :: us, rest)
  | .error fault => .error fault

/-- Reads a string behind its opening quote. -/
def readUnits : List Char → Read (List Unit16)
  | [] => .error (.ended .string)
  | '"' :: rest => .ok ([], rest)
  | ['\\'] => .error (.ended .string)
  | '\\' :: 'u' :: a :: b :: c :: d :: rest =>
    match hexNumber? [a, b, c, d] with
    | some n => (readUnits rest).push (.ofCode n)
    | none => .error .unexpected
  | '\\' :: e :: rest =>
    match shortEscape? e with
    | some c => (readUnits rest).push (.char c)
    | none => .error .unexpected
  | c :: rest => if c.toNat < 0x20 then .error .unexpected else (readUnits rest).push (.char c)

/-- The text of a string; there is none where surrogates are left over. -/
def readString (cs : List Char) : Read (Option String) :=
  match readUnits cs with
  | .ok (us, rest) => .ok ((Unit16.combine us).map String.ofList, rest)
  | .error fault => .error fault

def digitsValue (ds : List Char) : Nat := ds.foldl (fun n d => 10 * n + (d.toNat - 48)) 0

/-- Reads the fraction and the exponent of a number, and tells whether there was one. -/
def readFraction (cs : List Char) : Read Bool :=
  let afterFraction : Read Bool :=
    match cs with
    | '.' :: rest =>
      if (rest.takeWhile Char.isDigit).isEmpty then .error .unexpected
      else .ok (true, rest.dropWhile Char.isDigit)
    | _ => .ok (false, cs)
  match afterFraction with
  | .error fault => .error fault
  | .ok (fractional, rest) =>
    match rest with
    | e :: rest' =>
      if e = 'e' ∨ e = 'E' then
        let rest' := match rest' with
          | s :: rest'' => if s = '+' ∨ s = '-' then rest'' else rest'
          | [] => []
        if (rest'.takeWhile Char.isDigit).isEmpty then .error .unexpected
        else .ok (true, rest'.dropWhile Char.isDigit)
      else .ok (fractional, rest)
    | [] => .ok (fractional, rest)

/-- Reads a number without sign. -/
def readMagnitude (negative : Bool) (cs : List Char) : Read Value :=
  let digits := cs.takeWhile Char.isDigit
  if digits.isEmpty then .error (if cs.isEmpty then .ended .value else .unexpected)
  else if digits.head? = some '0' ∧ 1 < digits.length then .error .unexpected
  else match readFraction (cs.dropWhile Char.isDigit) with
    | .error fault => .error fault
    | .ok (fractional, rest) =>
      let n := digitsValue digits
      if fractional ∨ (negative ∧ n = 0) then .ok (.foreign, rest)
      else .ok (.integer (if negative then -(n : Int) else n), rest)

def readNumber : List Char → Read Value
  | '-' :: rest => readMagnitude true rest
  | cs => readMagnitude false cs

/-- A record whose keys all have a text; otherwise the record is foreign. -/
def recordOf (fields : List (Option String × Value)) : Value :=
  match fields.mapM fun field => field.1.map (·, field.2) with
  | some fields => .record fields
  | none => .foreign

mutual

/-- Reads one value. No text nests deeper, or has more members in a row, than it has characters, so
its length is fuel enough. -/
def readValue : Nat → List Char → Read Value
  | 0, _ => .error .unexpected
  | fuel + 1, cs =>
    match skipBlank cs with
    | [] => .error (.ended .value)
    | 'n' :: 'u' :: 'l' :: 'l' :: rest => .ok (.null, rest)
    | 't' :: 'r' :: 'u' :: 'e' :: rest => .ok (.bool true, rest)
    | 'f' :: 'a' :: 'l' :: 's' :: 'e' :: rest => .ok (.bool false, rest)
    | '"' :: rest =>
      match readString rest with
      | .ok (some s, rest) => .ok (.text s, rest)
      | .ok (none, rest) => .ok (.foreign, rest)
      | .error fault => .error fault
    | '[' :: rest =>
      match skipBlank rest with
      | ']' :: rest => .ok (.list [], rest)
      | [] => .error (.ended .list)
      | _ =>
        match readItems fuel rest with
        | .ok (items, rest) => .ok (.list items, rest)
        | .error fault => .error fault
    | '{' :: rest =>
      match skipBlank rest with
      | '}' :: rest => .ok (.record [], rest)
      | [] => .error (.ended .record)
      | _ =>
        match readFields fuel rest with
        | .ok (fields, rest) => .ok (recordOf fields, rest)
        | .error fault => .error fault
    | c :: rest => if c = '-' ∨ c.isDigit then readNumber (c :: rest) else .error .unexpected

/-- Reads the members of a list, of which there is one at least, and the closing bracket. -/
def readItems : Nat → List Char → Read (List Value)
  | 0, _ => .error .unexpected
  | fuel + 1, cs =>
    match readValue fuel cs with
    | .error fault => .error fault
    | .ok (v, rest) =>
      match skipBlank rest with
      | ']' :: rest => .ok ([v], rest)
      | ',' :: rest =>
        match readItems fuel rest with
        | .ok (vs, rest) => .ok (v :: vs, rest)
        | .error fault => .error fault
      | [] => .error (.ended .list)
      | _ => .error .unexpected

/-- Reads the fields of a record, of which there is one at least, and the closing brace. -/
def readFields : Nat → List Char → Read (List (Option String × Value))
  | 0, _ => .error .unexpected
  | fuel + 1, cs =>
    match skipBlank cs with
    | '"' :: rest =>
      match readString rest with
      | .error fault => .error fault
      | .ok (key, rest) =>
        match skipBlank rest with
        | ':' :: rest =>
          match readValue fuel rest with
          | .error fault => .error fault
          | .ok (v, rest) =>
            match skipBlank rest with
            | '}' :: rest => .ok ([(key, v)], rest)
            | ',' :: rest =>
              match readFields fuel rest with
              | .ok (fields, rest) => .ok ((key, v) :: fields, rest)
              | .error fault => .error fault
            | [] => .error (.ended .record)
            | _ => .error .unexpected
        | [] => .error (.ended .record)
        | _ => .error .unexpected
    | [] => .error (.ended .value)
    | _ => .error .unexpected

end

def readChars (cs : List Char) : Except Fault Value :=
  match readValue (cs.length + 1) cs with
  | .error fault => .error fault
  | .ok (v, rest) => if (skipBlank rest).isEmpty then .ok v else .error .unexpected

/-- The value that a whole text spells. -/
def read (s : String) : Except Fault Value := readChars s.toList

def read? (s : String) : Option Value := (read s).toOption

def Place.describe : Place → String
  | .value => "a value"
  | .list => "a list"
  | .record => "an object"
  | .string => "a string"

/-- The number of the last line of a text, from one, and the bytes on it. -/
def lastPosition (cs : List Char) : Nat × Nat :=
  (cs.count '\n' + 1, (String.ofList (cs.reverse.takeWhile (· ≠ '\n')).reverse).utf8ByteSize)

/-- The wording of a fault in a text. A text that ended is told by its last position. -/
def Fault.describe (s : String) : Fault → String
  | .ended place =>
    let (line, column) := lastPosition s.toList
    s!"EOF while parsing {place.describe} at line {line} column {column}"
  | .unexpected => "unexpected text"

end ServiceWiring.Json
