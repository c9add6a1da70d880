import ServiceWiring.Text.Hex
import ServiceWiring.Yaml.Cursor

/-! YAML scalars: plain, in single quotes, in double quotes. Line breaks inside a scalar are folded. -/
namespace ServiceWiring.Yaml
open ServiceWiring.Text

/-- White space inside a scalar that may still turn out to be its end. -/
structure Fold where
  blanks : List Char
  breaks : List Char
  escaped : Bool
  deriving DecidableEq, Repr

namespace Fold

def empty : Fold := ⟨[], [], false⟩

/-- An escaped line break, which leaves nothing behind. -/
def afterEscape : Fold := ⟨[], [], true⟩

def isOnNewLine (f : Fold) : Bool := f.escaped || !f.breaks.isEmpty

def isEmpty (f : Fold) : Bool := f.blanks.isEmpty && !f.isOnNewLine

/-- Blanks count only on the line that they end. -/
def addBlank (f : Fold) (c : Char) : Fold :=
  if f.isOnNewLine then f else { f with blanks := f.blanks ++ [c] }

def addBreak (f : Fold) (c : Char) : Fold := { f with breaks := f.breaks ++ [c] }

/-- What is left of the white space: one line feed becomes a space, and of several the first is
dropped. -/
def chars (f : Fold) : List Char :=
  if f.escaped then f.breaks
  else match f.breaks with
    | [] => f.blanks
    | '\n' :: [] => [' ']
    | '\n' :: more => more
    | breaks => breaks

end Fold

/-- What has been read of a scalar, backwards, and the white space behind it. -/
structure Partly where
  text : List Char
  fold : Fold

def Partly.empty : Partly := ⟨[], .empty⟩

def Partly.push (s : Partly) (c : Char) : Partly := ⟨c :: (s.fold.chars.reverse ++ s.text), .empty⟩

def Partly.close (s : Partly) : String := String.ofList (s.fold.chars.reverse ++ s.text).reverse

def isFlowIndicator (c : Char) : Bool := [',', '[', ']', '{', '}'].contains c

def beginsPlain (flow : Bool) : List Char → Bool
  | [] => false
  | c :: rest =>
    if c == '-' then !endsToken rest
    else if c == '?' || c == ':' then !flow && !endsToken rest
    else !(isBlank c || isBreak c || isFlowIndicator c ||
      ['#', '&', '*', '!', '|', '>', '\x27', '"', '%', '@', '\x60'].contains c)

/-- Whether a plain scalar ends before the next character. -/
def endsPlain (flow : Bool) (least : Nat) (fold : Fold) (p : Place) (c : Char) (rest : List Char) :
    Bool :=
  (c == ':' && endsToken rest) || (flow && isFlowIndicator c) || (c == '#' && !fold.isEmpty) ||
    (fold.isOnNewLine &&
      ((!flow && p.column < least) || (p.column == 0 && beginsMarker (c :: rest))))

/-- Reads on in a plain scalar whose lines stand at the column `least` or behind it. -/
def plainFrom (flow : Bool) (least : Nat) (p : Place) (s : Partly) :
    List Char → Option (String × Cursor)
  | [] => some (String.ofList s.text.reverse, ⟨p, [], s.fold.isOnNewLine⟩)
  | c :: rest =>
    if isBlank c then
      if c == '\t' && s.fold.isOnNewLine && p.column < least then none
      else plainFrom flow least (p.past c) { s with fold := s.fold.addBlank c } rest
    else if isBreak c then
      plainFrom flow least p.nextLine { s with fold := s.fold.addBreak c } rest
    else if endsPlain flow least s.fold p c rest then
      some (String.ofList s.text.reverse, ⟨p, c :: rest, s.fold.isOnNewLine⟩)
    else if flow && c == ':' && rest.head?.any (fun d => d == '?' || isFlowIndicator d) then none
    else plainFrom flow least (p.past c) (s.push c) rest

/-- Reads on in a scalar in single quotes, in which a quote is written twice. -/
def singleFrom (p : Place) (s : Partly) : List Char → Option (String × Cursor)
  | [] => none
  | '\x27' :: '\x27' :: rest => singleFrom (p.along 2) (s.push '\x27') rest
  | '\x27' :: rest => some (s.close, ⟨p.along 1, rest, false⟩)
  | c :: rest =>
    if isBlank c then singleFrom (p.past c) { s with fold := s.fold.addBlank c } rest
    else if isBreak c then singleFrom p.nextLine { s with fold := s.fold.addBreak c } rest
    else if p.column == 0 && beginsMarker (c :: rest) then none
    else singleFrom (p.past c) (s.push c) rest

def shortEscape? (c : Char) : Option Char :=
  [('0', '\x00'), ('a', '\x07'), ('b', '\x08'), ('t', '\t'), ('\t', '\t'), ('n', '\n'),
   ('v', '\x0b'), ('f', '\x0c'), ('r', '\r'), ('e', '\x1b'), (' ', ' '), ('"', '"'), ('/', '/'),
   ('\\', '\\'), ('N', '\u0085'), ('_', '\u00a0'), ('L', '\u2028'), ('P', '\u2029')].lookup c

def codeEscape? (digits : List Char) : Option Char := (hexNumber? digits).bind charOfCode?

/-- Reads on in a scalar in double quotes, in which a backslash escapes. -/
def doubleFrom (p : Place) (s : Partly) : List Char → Option (String × Cursor)
  | [] => none
  | '"' :: rest => some (s.close, ⟨p.along 1, rest, false⟩)
  | '\\' :: 'x' :: a :: b :: rest =>
    match codeEscape? [a, b] with
    | some d => doubleFrom (p.along 4) (s.push d) rest
    | none => none
  | '\\' :: 'u' :: a :: b :: c :: d :: rest =>
    match codeEscape? [a, b, c, d] with
    | some e => doubleFrom (p.along 6) (s.push e) rest
    | none => none
  | '\\' :: 'U' :: a :: b :: c :: d :: e :: f :: g :: h :: rest =>
    match codeEscape? [a, b, c, d, e, f, g, h] with
    | some i => doubleFrom (p.along 10) (s.push i) rest
    | none => none
  | '\\' :: c :: rest =>
    if isBreak c then
      doubleFrom (p.along 1).nextLine ⟨s.fold.chars.reverse ++ s.text, .afterEscape⟩ rest
    else match shortEscape? c with
      | some d => doubleFrom (p.along 2) (s.push d) rest
      | none => none
  | c :: rest =>
    if isBlank c then doubleFrom (p.past c) { s with fold := s.fold.addBlank c } rest
    else if isBreak c then doubleFrom p.nextLine { s with fold := s.fold.addBreak c } rest
    else if p.column == 0 && beginsMarker (c :: rest) then none
    else doubleFrom (p.past c) (s.push c) rest

end ServiceWiring.Yaml
