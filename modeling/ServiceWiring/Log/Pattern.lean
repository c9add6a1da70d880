import ServiceWiring.Text.Blank
import ServiceWiring.Text.Hex
import ServiceWiring.Text.Letter

/-! Patterns that the values of fields are compared with: regular expressions. Here it is decided
which texts without a closing brace are patterns. Nothing is known of sets of characters beyond ASCII,
so a pattern in need of them is refused, as is a pattern that would match bytes beyond ASCII. -/
namespace ServiceWiring.Log.Pattern
open ServiceWiring.Text

/-- The switches that bear on what is a pattern: whether case does not matter, whether characters are
matched and not bytes, and whether blanks and comments are passed over. -/
structure Switches where
  caseless : Bool
  characters : Bool
  spaced : Bool
  deriving DecidableEq, Repr

namespace Switches

def usual : Switches := ⟨false, true, false⟩

/-- Letters for switches, and the dash that turns those behind it off. -/
def letters : List Char := ['i', 'm', 's', 'U', 'u', 'R', 'x', '-']

def turn (s : Switches) (c : Char) (on : Bool) : Switches :=
  if c = 'i' then { s with caseless := on }
  else if c = 'u' then { s with characters := on }
  else if c = 'x' then { s with spaced := on }
  else s

/-- Turns switches. No letter is repeated, and the dash is not the last. -/
def turnAll? (s : Switches) (cs : List Char) : Option Switches :=
  if cs.all letters.contains && decide cs.Nodup && cs.getLast? != some '-' then
    let on := cs.takeWhile (· ≠ '-')
    let off := cs.dropWhile (· ≠ '-')
    some (off.foldl (·.turn · false) (on.foldl (·.turn · true) s))
  else none

/-- Whether both cases of characters are needed, which are not known. -/
def needsCases (s : Switches) : Bool := s.caseless && s.characters

end Switches

/-- Passes blanks and comments, each of which goes up to the end of its line. -/
def skipBlanks (comment : Bool) : List Char → List Char
  | [] => []
  | c :: rest =>
    if comment then skipBlanks (c != '\n') rest
    else if isBlank c then skipBlanks false rest
    else if c == '#' then skipBlanks true rest
    else c :: rest

def Switches.skip (s : Switches) (cs : List Char) : List Char :=
  if s.spaced then skipBlanks false cs else cs

/-- What stands for a single character, for one of a set, or for a place between two. -/
inductive Atom where
  | literal (c : Char)
  | set
  | place
  deriving DecidableEq, Repr

abbrev Read (α : Type) := Option (α × List Char)

def literal? (s : Switches) (c : Char) : Option Atom :=
  if s.needsCases then none else some (.literal c)

def readDigits (s : Switches) : Nat → List Char → Read (List Char)
  | 0, cs => some ([], cs)
  | width + 1, cs =>
    match s.skip cs with
    | [] => none
    | d :: rest =>
      if (hexValue d).isSome then (readDigits s width rest).map fun r => (d :: r.1, r.2) else none

/-- Reads a character given by so many hexadecimal digits. Two of them stand for a byte where bytes
are matched. -/
def readCode (s : Switches) (width : Nat) (cs : List Char) : Read Atom :=
  match readDigits s width cs with
  | none => none
  | some (digits, rest) =>
    match (hexNumber? digits).bind charOfCode? with
    | none => none
    | some c =>
      if width == 2 && !s.characters && 0x7f < c.toNat then none
      else (literal? s c).map (·, rest)

def control? (c : Char) : Option Char :=
  [('a', '\x07'), ('f', '\x0c'), ('t', '\t'), ('n', '\n'), ('r', '\r'), ('v', '\x0b')].lookup c

/-- Reads on behind a backslash. Letters and digits have meanings of their own or none. -/
def readEscape (s : Switches) : List Char → Read Atom
  | [] => none
  | c :: rest =>
    if c = 'x' then readCode s 2 rest
    else if c = 'u' then readCode s 4 rest
    else if c = 'U' then readCode s 8 rest
    else if c = 'd' ∨ c = 's' ∨ c = 'w' then (if s.characters then none else some (.set, rest))
    else if c = 'b' ∨ c = 'B' ∨ c = '<' ∨ c = '>' then
      (if s.characters then none else some (.place, rest))
    else if c = 'A' ∨ c = 'z' then some (.place, rest)
    else if c.toNat < 0x80 && !c.isAlphanum then (literal? s c).map (·, rest)
    else ((control? c).bind (literal? s)).map (·, rest)

/-- How two parts of a set between brackets are joined. -/
inductive Joint where
  | common
  | without
  | either
  deriving DecidableEq, Repr

def Joint.apply (a b : Bool) : Joint → Bool
  | .common => a && b
  | .without => a && !b
  | .either => a != b

/-- What has been read of a set between brackets: whether it is what the brackets do not list, the
part before the last joint, and whether the part behind it has the bytes beyond ASCII. A part has
either all of them or none. -/
structure Bracket where
  negated : Bool
  before : Option (Bool × Joint)
  high : Bool

namespace Bracket

def joined (b : Bracket) : Bool :=
  match b.before with
  | some (high, joint) => joint.apply high b.high
  | none => b.high

def join (b : Bracket) (joint : Joint) : Bracket :=
  { b with before := some (b.joined, joint), high := false }

def isHigh (b : Bracket) : Bool := b.joined != b.negated

end Bracket

/-- Whether nothing has been read of what stands between brackets, only dashes, or something else. -/
inductive Opening where
  | bare
  | dashed
  | past

def classNames : List (List Char) :=
  ["alnum", "alpha", "ascii", "blank", "cntrl", "digit", "graph", "lower", "print", "punct", "space",
    "upper", "word", "xdigit"].map String.toList

/-- Reads the rest of a named class of ASCII, and whether it is negated. -/
def readClass : List Char → Read Bool
  | ':' :: rest =>
    let negated := rest.head? == some '^'
    let rest := if negated then rest.drop 1 else rest
    match rest.dropWhile (· ≠ ':') with
    | ':' :: ']' :: after =>
      if classNames.contains (rest.takeWhile (· ≠ ':')) then some (negated, after) else none
    | _ => none
  | _ => none

def readMember (s : Switches) : List Char → Read Atom
  | [] => none
  | '\\' :: rest => readEscape s rest
  | c :: rest => (literal? s c).map (·, rest)

/-- Whether an atom may stand by itself between brackets. -/
def isMember (s : Switches) : Atom → Bool
  | .literal c => s.characters || c.toNat < 0x80
  | .set => true
  | .place => false

def isInterval (s : Switches) : Atom → Atom → Bool
  | .literal a, .literal b => isMember s (.literal a) && isMember s (.literal b) && a ≤ b
  | _, _ => false

/-- Passes a member of a set, or an interval of members. -/
def skipMembers? (s : Switches) (cs : List Char) : Option (List Char) :=
  match readMember s cs with
  | none => none
  | some (a, rest) =>
    let rest := s.skip rest
    let bound? : Option (List Char) :=
      match rest with
      | '-' :: rest =>
        match s.skip rest with
        | ']' :: _ => none
        | '-' :: _ => none
        | rest => some rest
      | _ => none
    match bound? with
    | none => if isMember s a then some rest else none
    | some rest =>
      match readMember s rest with
      | some (b, rest) => if isInterval s a b then some rest else none
      | none => none

/-- What a set between brackets begins as, and what follows its opening. -/
def openBracket (s : Switches) (cs : List Char) : Bracket × List Char :=
  match s.skip cs with
  | '^' :: rest => (⟨true, none, false⟩, rest)
  | rest => (⟨false, none, false⟩, rest)

/-- Passes the rest of a set between brackets. -/
def skipBracket? (s : Switches) : Nat → Opening → Bracket → List Char → Option (List Char)
  | 0, _, _, _ => none
  | fuel + 1, opening, b, cs =>
    match opening, s.skip cs with
    | .bare, '-' :: rest => if s.needsCases then none else skipBracket? s fuel .dashed b rest
    | .dashed, '-' :: rest => if s.needsCases then none else skipBracket? s fuel .dashed b rest
    | .bare, ']' :: rest => if s.needsCases then none else skipBracket? s fuel .past b rest
    | _, ']' :: rest => if !s.characters && b.isHigh then none else some rest
    | _, '&' :: '&' :: rest => skipBracket? s fuel .past (b.join .common) rest
    | _, '-' :: '-' :: rest => skipBracket? s fuel .past (b.join .without) rest
    | _, '~' :: '~' :: rest => skipBracket? s fuel .past (b.join .either) rest
    | _, '[' :: rest =>
      match readClass rest with
      | some (negated, rest) =>
        if s.needsCases then none
        else skipBracket? s fuel .past { b with high := b.high || negated } rest
      | none =>
        let (inner, rest) := openBracket s rest
        (skipBracket? s fuel .bare inner rest).bind (skipBracket? s fuel .past b)
    | _, rest => (skipMembers? s rest).bind (skipBracket? s fuel .past b)

/-- What has been read of a pattern: the switches that hold, those that hold behind each open group,
the names of groups, and whether there is something that may be repeated. -/
structure Draft where
  switches : Switches
  outer : List Switches
  names : List (List Char)
  repeatable : Bool

namespace Draft

def empty : Draft := ⟨.usual, [], [], false⟩

def openGroup (d : Draft) (s : Switches) : Draft :=
  { d with switches := s, outer := d.switches :: d.outer, repeatable := false }

/-- Closes the innermost group, whose switches go with it. -/
def closeGroup? (d : Draft) : Option Draft :=
  match d.outer with
  | [] => none
  | s :: outer => some { d with switches := s, outer := outer, repeatable := true }

/-- The name of a group begins with a letter or an underscore, and no two groups share one. -/
def nameGroup? (d : Draft) (name : List Char) : Option Draft :=
  match name with
  | [] => none
  | c :: rest =>
    if (isAlphabetic c || c == '_') &&
        rest.all (fun c => isAlphanumeric c || ['_', '.', '[', ']'].contains c) &&
        !d.names.contains name then
      some { d.openGroup d.switches with names := name :: d.names }
    else none

/-- Reads the name of a group and the bracket behind it. -/
def readName (d : Draft) (cs : List Char) : Read Draft :=
  match cs.dropWhile (· ≠ '>') with
  | _ :: rest => (d.nameGroup? (cs.takeWhile (· ≠ '>'))).map (·, rest)
  | [] => none

/-- Reads switches, for a group of their own or for what is left of the group around them. -/
def readSwitches (d : Draft) (cs : List Char) : Read Draft :=
  let inside (c : Char) : Bool := c != ':' && c != ')'
  let letters := cs.takeWhile inside
  match d.switches.turnAll? letters, cs.dropWhile inside with
  | some s, ':' :: rest => some (d.openGroup s, rest)
  | some s, ')' :: rest =>
    if letters.isEmpty then none else some ({ d with switches := s, repeatable := false }, rest)
  | _, _ => none

/-- Reads on behind a parenthesis that opens. -/
def readOpening (d : Draft) (cs : List Char) : Read Draft :=
  match d.switches.skip cs with
  | '?' :: 'P' :: '<' :: rest => d.readName rest
  | '?' :: '<' :: rest => d.readName rest
  | '?' :: rest => d.readSwitches rest
  | rest => some (d.openGroup d.switches, rest)

/-- Reads the next part of a pattern. -/
def next? (d : Draft) (cs : List Char) : Read Draft :=
  let s := d.switches
  let item : Draft := { d with repeatable := true }
  match cs with
  | [] => none
  | '(' :: rest => d.readOpening rest
  | ')' :: rest => d.closeGroup?.map (·, rest)
  | '|' :: rest => some ({ d with repeatable := false }, rest)
  | '[' :: rest =>
    let (b, rest) := openBracket s rest
    (skipBracket? s (rest.length + 1) .bare b rest).map (item, ·)
  | '.' :: rest => if s.characters then some (item, rest) else none
  | '\\' :: rest => (readEscape s rest).map fun r => (item, r.2)
  | '{' :: _ => none
  | c :: rest =>
    if c = '?' ∨ c = '*' ∨ c = '+' then
      if d.repeatable then some (d, if rest.head? = some '?' then rest.drop 1 else rest) else none
    else if c = '^' ∨ c = '$' then some (item, rest)
    else (literal? s c).map fun _ => (item, rest)

end Draft

/-- Whether a pattern ends well that has been begun. -/
def endsWell : Nat → Draft → List Char → Bool
  | 0, _, _ => false
  | fuel + 1, d, cs =>
    match d.switches.skip cs with
    | [] => d.outer.isEmpty
    | rest =>
      match d.next? rest with
      | some (d, rest) => endsWell fuel d rest
      | none => false

/-- Whether a text without a closing brace is a pattern. -/
def isPattern (cs : List Char) : Bool := endsWell (cs.length + 1) .empty cs

end ServiceWiring.Log.Pattern
