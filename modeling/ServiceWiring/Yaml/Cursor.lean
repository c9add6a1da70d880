/-! Places in a YAML text, and the gaps between what stands there. -/
namespace ServiceWiring.Yaml

/-- Lines, columns and bytes are counted from zero. -/
structure Place where
  line : Nat
  column : Nat
  byte : Nat
  deriving DecidableEq, Repr

/-- A place in a text and the characters that follow. At a `fresh` place a key or a dash may begin:
nothing stands before it on its line but indentation and dashes. -/
structure Cursor where
  place : Place
  rest : List Char
  fresh : Bool
  deriving DecidableEq, Repr

/-- The place behind so many characters of one byte each. -/
def Place.along (p : Place) (n : Nat) : Place := { p with column := p.column + n, byte := p.byte + n }

/-- The place behind a character that does not end the line. -/
def Place.past (p : Place) (c : Char) : Place :=
  { p with column := p.column + 1, byte := p.byte + c.utf8Size }

/-- The place behind a line break. Bytes are only compared within a line. -/
def Place.nextLine (p : Place) : Place := ⟨p.line + 1, 0, p.byte + 1⟩

def isBlank (c : Char) : Bool := c == ' ' || c == '\t'

/-- Line feeds, line separators and paragraph separators. -/
def isBreak (c : Char) : Bool := c == '\n' || c == '\u2028' || c == '\u2029'

/-- Writes every carriage return, pair of carriage return and line feed, and next line as a line
feed. -/
def unifyBreaks : List Char → List Char
  | [] => []
  | '\r' :: '\n' :: rest => '\n' :: unifyBreaks rest
  | c :: rest => (if c = '\r' ∨ c = '\u0085' then '\n' else c) :: unifyBreaks rest

/-- Characters that a text may consist of. -/
def isAllowed (c : Char) : Bool :=
  let n := c.toNat
  n == 0x9 || n == 0xa || n == 0xd || n == 0x85 || (0x20 ≤ n && n ≤ 0x7e) ||
    (0xa0 ≤ n && n ≤ 0xfffd) || 0x10000 ≤ n

/-- Whether an indicator before this text would stand by itself. -/
def endsToken : List Char → Bool
  | [] => true
  | c :: _ => isBlank c || isBreak c

/-- Whether the text begins with the start or the end of a document, which only counts in the first
column. -/
def beginsMarker : List Char → Bool
  | a :: b :: c :: rest => a == b && b == c && (a == '-' || a == '.') && endsToken rest
  | _ => false

namespace Cursor

def ofText (cs : List Char) : Cursor := ⟨⟨0, 0, 0⟩, cs, true⟩

/-- The place behind the next few characters, which are on one line and of one byte each. -/
def skip (c : Cursor) (n : Nat) : Cursor := ⟨c.place.along n, c.rest.drop n, false⟩

def atMarker (c : Cursor) : Bool := c.place.column == 0 && beginsMarker c.rest

/-- Whether the document ends here. -/
def atEnd (c : Cursor) : Bool := c.rest.isEmpty || c.atMarker

def atDash (c : Cursor) : Bool :=
  match c.rest with
  | '-' :: rest => endsToken rest
  | _ => false

/-- Passes blanks, comments and line breaks. A tab is not indentation, so none is passed where a key
may begin. A byte order mark may begin a line, of which it takes a column. -/
def gapFrom (flow comment fresh : Bool) (p : Place) : List Char → Cursor
  | [] => ⟨p, [], fresh⟩
  | c :: rest =>
    if isBreak c then gapFrom flow false (fresh || !flow) p.nextLine rest
    else if c == '\ufeff' && p.column == 0 then gapFrom flow comment fresh (p.past c) rest
    else if comment || c == ' ' || (c == '\t' && (flow || !fresh)) then
      gapFrom flow comment fresh (p.past c) rest
    else if c == '#' then gapFrom flow true fresh (p.past c) rest
    else ⟨p, c :: rest, fresh⟩

/-- The next place where something stands. -/
def gap (flow : Bool) (c : Cursor) : Cursor := gapFrom flow false c.fresh c.place c.rest

end Cursor

end ServiceWiring.Yaml
