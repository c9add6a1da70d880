import ServiceWiring.Text.Hex
import ServiceWiring.Text.Hidden

/-! Quoted literals: a text between double quotes, in which quotes, backslashes and every hidden
character are escaped, so that a literal is one line of visible text. -/
namespace ServiceWiring.Text.Quoted
open ServiceWiring.Text

def escape (c : Char) : List Char :=
  if c = '\x00' then ['\\', '0']
  else if c = '\t' then ['\\', 't']
  else if c = '\n' then ['\\', 'n']
  else if c = '\r' then ['\\', 'r']
  else if c = '"' then ['\\', '"']
  else if c = '\\' then ['\\', '\\']
  else if isHidden c then ['\\', 'u', '{'] ++ hexDigits c.toNat ++ ['}']
  else [c]

def encode (s : String) : String := String.ofList ('"' :: (s.toList.flatMap escape ++ ['"']))

/-- Where a reader stands inside a literal. -/
inductive Place where
  | plain
  | backslash
  | brace
  | digits (n : Nat)

/-- Reads the inside of a literal and its closing quote, which must end the text. -/
def inside : Place → List Char → Option (List Char)
  | .plain, [] => none
  | .plain, c :: cs =>
    if c = '"' then (if cs.isEmpty then some [] else none)
    else if c = '\\' then inside .backslash cs
    else (inside .plain cs).map (c :: ·)
  | .backslash, [] => none
  | .backslash, c :: cs =>
    if c = '0' then (inside .plain cs).map ('\x00' :: ·)
    else if c = 't' then (inside .plain cs).map ('\t' :: ·)
    else if c = 'n' then (inside .plain cs).map ('\n' :: ·)
    else if c = 'r' then (inside .plain cs).map ('\r' :: ·)
    else if c = '"' then (inside .plain cs).map ('"' :: ·)
    else if c = '\\' then (inside .plain cs).map ('\\' :: ·)
    else if c = 'u' then inside .brace cs
    else none
  | .brace, [] => none
  | .brace, c :: cs => if c = '{' then inside (.digits 0) cs else none
  | .digits _, [] => none
  | .digits n, c :: cs =>
    if c = '}' then
      match charOfCode? n with
      | some d => (inside .plain cs).map (d :: ·)
      | none => none
    else match hexValue c with
      | some v => inside (.digits (16 * n + v)) cs
      | none => none

def decode (s : String) : Option String :=
  match s.toList with
  | '"' :: cs => (inside .plain cs).map String.ofList
  | _ => none

end ServiceWiring.Text.Quoted
