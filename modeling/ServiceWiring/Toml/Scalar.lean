import ServiceWiring.Text.Pieces
import ServiceWiring.Toml.Edition
import ServiceWiring.Value.Plain

/-! TOML scalars without quotes: booleans, integers, floats, dates and times. -/
namespace ServiceWiring.Toml
open ServiceWiring.Text

/-- The digits without the underscores, each of which stands between two digits. -/
def digits? (radix : Nat) (cs : List Char) : Option (List Char) :=
  let groups := pieces '_' cs
  if groups.any fun g => g.isEmpty || g.any fun c => (Value.Plain.digitValue? radix c).isNone then none
  else some groups.flatten

/-- The digits of a whole number, which has no leading zeros. -/
def wholeDigits? (cs : List Char) : Option (List Char) :=
  (digits? 10 cs).filter fun ds => !Value.Plain.isPadded ds

def magnitude? : List Char → Option Nat
  | '0' :: 'x' :: rest => (digits? 16 rest).bind (Value.Plain.number? 16)
  | '0' :: 'o' :: rest => (digits? 8 rest).bind (Value.Plain.number? 8)
  | '0' :: 'b' :: rest => (digits? 2 rest).bind (Value.Plain.number? 2)
  | cs => (wholeDigits? cs).bind (Value.Plain.number? 10)

/-- Only decimal numbers have a sign. -/
def integer? : List Char → Option Int
  | '-' :: rest => ((wholeDigits? rest).bind (Value.Plain.number? 10)).map fun n => -(n : Int)
  | '+' :: rest => ((wholeDigits? rest).bind (Value.Plain.number? 10)).map fun n => (n : Int)
  | cs => (magnitude? cs).map fun n => (n : Int)

def exponent? : List Char → Option Int
  | '-' :: rest => ((digits? 10 rest).bind (Value.Plain.number? 10)).map fun n => -(n : Int)
  | '+' :: rest => ((digits? 10 rest).bind (Value.Plain.number? 10)).map fun n => (n : Int)
  | cs => ((digits? 10 cs).bind (Value.Plain.number? 10)).map fun n => (n : Int)

/-- A float has a fraction or an exponent, with digits on both sides of the point. -/
def decimal? (cs : List Char) : Option Value.Plain.Decimal :=
  let isMark (c : Char) : Bool := c == 'e' || c == 'E'
  let mantissa := cs.takeWhile fun c => !isMark c
  let exponent := match cs.dropWhile fun c => !isMark c with
    | [] => some 0
    | _ :: rest => exponent? rest
  match exponent, pieces '.' mantissa with
  | some e, [whole, fraction] =>
    match wholeDigits? whole, digits? 10 fraction with
    | some ds, some fs => some ⟨ds ++ fs, e - fs.length⟩
    | _, _ => none
  | some e, [whole] =>
    if mantissa.length < cs.length then (wholeDigits? whole).map fun ds => ⟨ds, e⟩ else none
  | _, _ => none

def isFloat (cs : List Char) : Bool :=
  let magnitude := Value.Plain.magnitudeChars cs
  magnitude == ['i', 'n', 'f'] || magnitude == ['n', 'a', 'n'] ||
    ((decimal? magnitude).map Value.Plain.Decimal.isFinite).getD false

/-- The number that the characters spell, if they are so many digits. -/
def fixed? (width : Nat) (cs : List Char) : Option Nat :=
  if cs.length == width then Value.Plain.number? 10 cs else none

def daysIn (year month : Nat) : Nat :=
  if month == 2 then
    if year % 4 == 0 && (year % 100 != 0 || year % 400 == 0) then 29 else 28
  else if [4, 6, 9, 11].contains month then 30
  else 31

def isDate (cs : List Char) : Bool :=
  match pieces '-' cs with
  | [year, month, day] =>
    match fixed? 4 year, fixed? 2 month, fixed? 2 day with
    | some y, some m, some d => 1 ≤ m && m ≤ 12 && 1 ≤ d && d ≤ daysIn y m
    | _, _, _ => false
  | _ => false

/-- The hours and minutes of a day. -/
def isClock (hour minute : List Char) : Bool :=
  (fixed? 2 hour).any (· ≤ 23) && (fixed? 2 minute).any (· ≤ 59)

def isTime (ed : Edition) (cs : List Char) : Bool :=
  match pieces ':' cs with
  | [hour, minute] => ed.bareMinutes && isClock hour minute
  | [hour, minute, second] =>
    isClock hour minute &&
      match pieces '.' second with
      | [whole] => (fixed? 2 whole).any (· ≤ 60)
      | [whole, fraction] => (fixed? 2 whole).any (· ≤ 60) && (Value.Plain.number? 10 fraction).isSome
      | _ => false
  | _ => false

def isOffset : List Char → Bool
  | [c] => c == 'Z' || c == 'z'
  | c :: rest =>
    (c == '+' || c == '-') &&
      match pieces ':' rest with
      | [hour, minute] => isClock hour minute
      | _ => false
  | [] => false

/-- A time of day, with or without the distance of its zone. -/
def isZonedTime (ed : Edition) (cs : List Char) : Bool :=
  let inTime (c : Char) : Bool := c.isDigit || c == ':' || c == '.'
  let offset := cs.dropWhile inTime
  isTime ed (cs.takeWhile inTime) && (offset.isEmpty || isOffset offset)

/-- A date, a time of day, or both with a letter between them. -/
def isMoment (ed : Edition) (cs : List Char) : Bool :=
  let date := cs.take 10
  isDate cs || isTime ed cs ||
    (isDate date &&
      match cs.drop 10 with
      | c :: time => (c == 'T' || c == 't') && isZonedTime ed time
      | [] => false)

/-- A date or a time of day is a record, of one field that nothing takes notice of. -/
def moment (cs : List Char) : Value := .record [("moment", .text (String.ofList cs))]

def scalar? (ed : Edition) (cs : List Char) : Option Value :=
  if cs = "true".toList then some (.bool true)
  else if cs = "false".toList then some (.bool false)
  else match integer? cs with
    | some n => if Value.Plain.isWide n then some (.integer n) else none
    | none =>
      if isFloat cs then some .foreign
      else if isMoment ed cs then some (moment cs)
      else none

end ServiceWiring.Toml
