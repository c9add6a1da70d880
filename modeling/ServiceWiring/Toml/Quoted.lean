import ServiceWiring.Text.Hex
import ServiceWiring.Toml.Edition

/-! TOML strings: basic ones, in which a backslash escapes, and literal ones, both on one line or on
several. Each reader begins behind the opening quotes and yields the text and what follows it. -/
namespace ServiceWiring.Toml
open ServiceWiring.Text

def isBlank (c : Char) : Bool := c == ' ' || c == '\t'

def skipBlanks (cs : List Char) : List Char := cs.dropWhile isBlank

/-- Characters that may stand in strings and comments. -/
def isPrintable (c : Char) : Bool := c == '\t' || (0x20 ≤ c.toNat && c.toNat != 0x7f)

/-- What follows a line break, if the text begins with one. -/
def afterBreak? : List Char → Option (List Char)
  | '\n' :: rest => some rest
  | '\r' :: '\n' :: rest => some rest
  | _ => none

def Edition.shortEscape? (ed : Edition) (c : Char) : Option Char :=
  if c = 'e' then (if ed.shortCodes then some '\x1b' else none)
  else [('b', '\x08'), ('t', '\t'), ('n', '\n'), ('f', '\x0c'), ('r', '\r'), ('"', '"'),
    ('\\', '\\')].lookup c

def codeEscape? (digits : List Char) : Option Char := (hexNumber? digits).bind charOfCode?

def Edition.shortCode? (ed : Edition) (digits : List Char) : Option Char :=
  if ed.shortCodes then codeEscape? digits else none

abbrev Read (α : Type) := Option (α × List Char)

private def push (c : Char) (r : Read (List Char)) : Read (List Char) :=
  r.map fun read => (c :: read.1, read.2)

/-- What is kept of a carriage return and the line feed behind it. -/
private def pushReturn (ed : Edition) (r : Read (List Char)) : Read (List Char) :=
  if ed.keepsReturns then push '\r' (push '\n' r) else push '\n' r

def readBasic (ed : Edition) : List Char → Read (List Char)
  | [] => none
  | '"' :: rest => some ([], rest)
  | '\\' :: 'x' :: a :: b :: rest =>
    match ed.shortCode? [a, b] with
    | some c => push c (readBasic ed rest)
    | none => none
  | '\\' :: 'u' :: a :: b :: c :: d :: rest =>
    match codeEscape? [a, b, c, d] with
    | some e => push e (readBasic ed rest)
    | none => none
  | '\\' :: 'U' :: a :: b :: c :: d :: e :: f :: g :: h :: rest =>
    match codeEscape? [a, b, c, d, e, f, g, h] with
    | some i => push i (readBasic ed rest)
    | none => none
  | '\\' :: c :: rest =>
    match ed.shortEscape? c with
    | some d => push d (readBasic ed rest)
    | none => none
  | c :: rest => if isPrintable c then push c (readBasic ed rest) else none

/-- Reads on in a basic string of several lines. A backslash at the end of a line takes all white
space behind it away, and while that goes on, `trims`. -/
def readLongBasic (ed : Edition) (trims : Bool) : List Char → Read (List Char)
  | [] => none
  | '"' :: '"' :: '"' :: '"' :: '"' :: rest => some (['"', '"'], rest)
  | '"' :: '"' :: '"' :: '"' :: rest => some (['"'], rest)
  | '"' :: '"' :: '"' :: rest => some ([], rest)
  | '\\' :: 'x' :: a :: b :: rest =>
    match ed.shortCode? [a, b] with
    | some c => push c (readLongBasic ed false rest)
    | none => none
  | '\\' :: 'u' :: a :: b :: c :: d :: rest =>
    match codeEscape? [a, b, c, d] with
    | some e => push e (readLongBasic ed false rest)
    | none => none
  | '\\' :: 'U' :: a :: b :: c :: d :: e :: f :: g :: h :: rest =>
    match codeEscape? [a, b, c, d, e, f, g, h] with
    | some i => push i (readLongBasic ed false rest)
    | none => none
  | '\\' :: c :: rest =>
    if (afterBreak? (skipBlanks (c :: rest))).isSome then readLongBasic ed true (c :: rest)
    else match ed.shortEscape? c with
      | some d => push d (readLongBasic ed false rest)
      | none => none
  | '\r' :: '\n' :: rest =>
    if trims then readLongBasic ed true rest else pushReturn ed (readLongBasic ed false rest)
  | c :: rest =>
    if trims && (isBlank c || c == '\n') then readLongBasic ed true rest
    else if isPrintable c || c == '\n' then push c (readLongBasic ed false rest)
    else none

def readLiteral : List Char → Read (List Char)
  | [] => none
  | '\x27' :: rest => some ([], rest)
  | c :: rest => if isPrintable c then push c (readLiteral rest) else none

def readLongLiteral (ed : Edition) : List Char → Read (List Char)
  | [] => none
  | '\x27' :: '\x27' :: '\x27' :: '\x27' :: '\x27' :: rest => some (['\x27', '\x27'], rest)
  | '\x27' :: '\x27' :: '\x27' :: '\x27' :: rest => some (['\x27'], rest)
  | '\x27' :: '\x27' :: '\x27' :: rest => some ([], rest)
  | '\r' :: '\n' :: rest => pushReturn ed (readLongLiteral ed rest)
  | c :: rest => if isPrintable c || c == '\n' then push c (readLongLiteral ed rest) else none

/-- A line break right behind the opening quotes of a long string does not count. -/
def skipBreak (cs : List Char) : List Char := (afterBreak? cs).getD cs

/-- Reads a string with its opening quotes. -/
def readString (ed : Edition) : List Char → Read (List Char)
  | '"' :: '"' :: '"' :: rest => readLongBasic ed false (skipBreak rest)
  | '"' :: rest => readBasic ed rest
  | '\x27' :: '\x27' :: '\x27' :: rest => readLongLiteral ed (skipBreak rest)
  | '\x27' :: rest => readLiteral rest
  | _ => none

end ServiceWiring.Toml
