import ServiceWiring.Text.Hex
import ServiceWiring.Value

/-! Writing values as JSON text, one member to a line, nested by two spaces. -/
namespace ServiceWiring.Json
open ServiceWiring.Text

/-- Quotes, backslashes and the controls below the space are escaped, all else stands as it is. -/
def escape (c : Char) : List Char :=
  if c = '"' then ['\\', '"']
  else if c = '\\' then ['\\', '\\']
  else if c = '\x08' then ['\\', 'b']
  else if c = '\x0c' then ['\\', 'f']
  else if c = '\n' then ['\\', 'n']
  else if c = '\r' then ['\\', 'r']
  else if c = '\t' then ['\\', 't']
  else if c.toNat < 0x20 then
    ['\\', 'u', '0', '0'] ++ (if c.toNat < 0x10 then ['0'] else []) ++ hexDigits c.toNat
  else [c]

def quote (s : String) : List Char := '"' :: (s.toList.flatMap escape ++ ['"'])

def integerChars (n : Int) : List Char :=
  (if n < 0 then ['-'] else []) ++ Nat.toDigits 10 n.natAbs

/-- A line feed and the indentation of a level. -/
def newLine (depth : Nat) : List Char := '\n' :: List.replicate (2 * depth) ' '

mutual

def prettyChars (depth : Nat) : Value → List Char
  | .null => ['n', 'u', 'l', 'l']
  | .bool true => ['t', 'r', 'u', 'e']
  | .bool false => ['f', 'a', 'l', 's', 'e']
  | .integer n => integerChars n
  | .text s => quote s
  | .plain s => quote s
  | .foreign => ['n', 'u', 'l', 'l']
  | .list [] => ['[', ']']
  | .list (v :: vs) =>
    '[' :: (newLine (depth + 1) ++ prettyChars (depth + 1) v ++ prettyItems (depth + 1) vs ++
      newLine depth ++ [']'])
  | .record [] => ['{', '}']
  | .record ((key, v) :: fields) =>
    '{' :: (newLine (depth + 1) ++ quote key ++ [':', ' '] ++ prettyChars (depth + 1) v ++
      prettyFields (depth + 1) fields ++ newLine depth ++ ['}'])

/-- The members of a list that follow its first. -/
def prettyItems (depth : Nat) : List Value → List Char
  | [] => []
  | v :: vs => ',' :: (newLine depth ++ prettyChars depth v ++ prettyItems depth vs)

/-- The fields of a record that follow its first. -/
def prettyFields (depth : Nat) : List (String × Value) → List Char
  | [] => []
  | (key, v) :: fields =>
    ',' :: (newLine depth ++ quote key ++ [':', ' '] ++ prettyChars depth v ++
      prettyFields depth fields)

end

def pretty (v : Value) : String := String.ofList (prettyChars 0 v)

end ServiceWiring.Json
