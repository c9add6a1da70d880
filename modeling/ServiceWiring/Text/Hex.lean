/-! Hexadecimal digits. -/
namespace ServiceWiring.Text

def hexValue (c : Char) : Option Nat :=
  if '0' ≤ c ∧ c ≤ '9' then some (c.toNat - 48)
  else if 'a' ≤ c ∧ c ≤ 'f' then some (c.toNat - 87)
  else if 'A' ≤ c ∧ c ≤ 'F' then some (c.toNat - 55)
  else none

/-- The number that all the characters spell as hexadecimal digits, of which there must be one. -/
def hexNumber? : List Char → Option Nat
  | [] => none
  | cs => cs.foldlM (fun n c => (hexValue c).map (16 * n + ·)) 0

/-- The lower-case digits of a number, without leading zeros. -/
def hexDigits (n : Nat) : List Char := Nat.toDigits 16 n

/-- The character with the given code point, unless it is a surrogate or too large. -/
def charOfCode? (n : Nat) : Option Char :=
  if h : n.isValidChar then some (Char.ofNatAux n h) else none

end ServiceWiring.Text
