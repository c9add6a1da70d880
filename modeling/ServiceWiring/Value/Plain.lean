import ServiceWiring.Text.Hex
import ServiceWiring.Value

/-! What a scalar without quotes spells: null, a boolean, a number, or else a text. -/
namespace ServiceWiring.Value.Plain
open ServiceWiring.Text

def isNull (s : String) : Bool := ["", "~", "null", "Null", "NULL"].contains s

def bool? (s : String) : Option Bool :=
  if ["true", "True", "TRUE"].contains s then some true
  else if ["false", "False", "FALSE"].contains s then some false
  else none

def digitValue? (radix : Nat) (c : Char) : Option Nat :=
  (hexValue c).filter (· < radix)

/-- The number that all the characters spell as digits, of which there must be one. -/
def number? (radix : Nat) : List Char → Option Nat
  | [] => none
  | cs => cs.foldlM (fun n c => (digitValue? radix c).map (radix * n + ·)) 0

/-- Several digits of which the first is zero: not a number but a text. -/
def isPadded : List Char → Bool
  | '0' :: d :: rest => (d :: rest).all Char.isDigit
  | _ => false

/-- A number without sign: hexadecimal, octal, binary or decimal, the last without leading zeros. -/
def magnitude? : List Char → Option Nat
  | '0' :: 'x' :: rest => number? 16 rest
  | '0' :: 'o' :: rest => number? 8 rest
  | '0' :: 'b' :: rest => number? 2 rest
  | cs => if isPadded cs then none else number? 10 cs

/-- Whether an integer fits into a word of 128 bits, with a sign or without. -/
def isWide (n : Int) : Bool :=
  decide (-0x80000000000000000000000000000000 ≤ n) &&
    decide (n < 0x100000000000000000000000000000000)

def signed? : List Char → Option Int
  | '-' :: rest => (magnitude? rest).map fun n => -(n : Int)
  | '+' :: rest => (magnitude? rest).map fun n => (n : Int)
  | cs => (magnitude? cs).map fun n => (n : Int)

/-- An integer, with a sign or without, that is not too large. -/
def integer? (cs : List Char) : Option Int := (signed? cs).filter isWide

/-- The digits and the scale of a decimal fraction: `digits` without point times ten to the
`exponent`. -/
structure Decimal where
  digits : List Char
  exponent : Int

def Decimal.exponent? : List Char → Option Int
  | [] => some 0
  | e :: rest =>
    if e = 'e' ∨ e = 'E' then
      match rest with
      | '-' :: rest => (number? 10 rest).map fun n => -(n : Int)
      | '+' :: rest => (number? 10 rest).map fun n => (n : Int)
      | rest => (number? 10 rest).map fun n => (n : Int)
    else none

def Decimal.read? (cs : List Char) : Option Decimal :=
  let whole := cs.takeWhile Char.isDigit
  let rest := cs.dropWhile Char.isDigit
  let (fraction, rest) := match rest with
    | '.' :: rest => (rest.takeWhile Char.isDigit, rest.dropWhile Char.isDigit)
    | rest => ([], rest)
  if (whole ++ fraction).isEmpty then none
  else (exponent? rest).map fun e => ⟨whole ++ fraction, e - fraction.length⟩

/-- The middle between the largest double and the next power of two. -/
def doubleLimit : Nat := (Nat.pow 2 54 - 1) * Nat.pow 2 970

/-- Whether the decimal rounds to a number that a double can hold. -/
def Decimal.isFinite (d : Decimal) : Bool :=
  let significant := d.digits.dropWhile (· == '0')
  let magnitude := significant.length + d.exponent
  let n := significant.foldl (fun n c => 10 * n + (c.toNat - 48)) 0
  if magnitude ≤ 308 then true
  else if 310 ≤ magnitude then significant.isEmpty
  else if 0 ≤ d.exponent then n * Nat.pow 10 d.exponent.toNat < doubleLimit
  else n < doubleLimit * Nat.pow 10 (-d.exponent).toNat

def infinities : List String := [".inf", ".Inf", ".INF"]

def notANumbers : List String := [".nan", ".NaN", ".NAN"]

def magnitudeChars : List Char → List Char
  | '-' :: rest => rest
  | '+' :: rest => rest
  | cs => cs

/-- Whether the text spells a number that need not be whole, an infinity or no number at all. -/
def isFraction (s : String) : Bool :=
  let magnitude := magnitudeChars s.toList
  notANumbers.contains s || infinities.contains (String.ofList magnitude) ||
    (!isPadded magnitude && ((Decimal.read? magnitude).map Decimal.isFinite).getD false)

/-- The value that a plain scalar spells. -/
def read (s : String) : Value :=
  if isNull s then .null
  else match bool? s with
    | some b => .bool b
    | none =>
      match integer? s.toList with
      | some n => .integer n
      | none => if isFraction s then .foreign else .text s

end ServiceWiring.Value.Plain

namespace ServiceWiring.Value

/-- The value itself, where a plain scalar is what it spells. -/
def settled : Value → Value
  | .plain s => Plain.read s
  | v => v

end ServiceWiring.Value
