import ServiceWiring.Text.CodeSet

/-! Blank characters (the White_Space property) and trimming them off both ends of a text. -/
namespace ServiceWiring.Text

def blankIntervals : List (Nat × Nat) :=
  [(0x9, 0xd), (0x20, 0x20), (0x85, 0x85), (0xa0, 0xa0), (0x1680, 0x1680), (0x2000, 0x200a),
   (0x2028, 0x2029), (0x202f, 0x202f), (0x205f, 0x205f), (0x3000, 0x3000)]

def isBlank (c : Char) : Bool := inIntervals blankIntervals c.toNat

/-- The characters between the first and the last that are not blank. -/
def trimChars (cs : List Char) : List Char :=
  ((cs.dropWhile isBlank).reverse.dropWhile isBlank).reverse

def trim (s : String) : String := String.ofList (trimChars s.toList)

/-- A text is blank when nothing is left of it after trimming. -/
def isBlankText (s : String) : Bool := s.toList.all isBlank

end ServiceWiring.Text
