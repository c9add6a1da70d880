import ServiceWiring.Text.Letter

/-! Identifiers: letters, digits and underscores, not beginning with a digit. -/
namespace ServiceWiring.Text

def isIdentifierStart (c : Char) : Bool := isAlphabetic c || c == '_'

def isIdentifierPart (c : Char) : Bool := isAlphanumeric c || c == '_'

def isIdentifierChars : List Char → Bool
  | [] => false
  | c :: cs => isIdentifierStart c && cs.all isIdentifierPart

def isIdentifier (s : String) : Bool := isIdentifierChars s.toList

end ServiceWiring.Text
