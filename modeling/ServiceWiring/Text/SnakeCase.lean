import ServiceWiring.Text.Case
import ServiceWiring.Text.Letter
import ServiceWiring.Text.Pieces

/-! Snake case: the words of a text in lower case, joined by underscores. -/
namespace ServiceWiring.Text.SnakeCase
open ServiceWiring.Text

/-- The case of the last cased character of the word being read. -/
inductive Mode where
  | start
  | lower
  | upper
  deriving DecidableEq

def Mode.next (mode : Mode) (c : Char) : Mode :=
  if isLower c then .lower else if isUpper c then .upper else mode

/-- The words of a run of letters and digits. A word ends where lower case meets upper case, and
before the last of several capitals that a small letter follows. `word` holds, backwards, what has
been read of the current word. -/
def wordsFrom (mode : Mode) (word : List Char) : List Char → List (List Char)
  | [] => []
  | [c] => [(c :: word).reverse]
  | c :: d :: rest =>
    if mode.next c = .lower ∧ isUpper d then
      (c :: word).reverse :: wordsFrom .start [] (d :: rest)
    else if mode = .upper ∧ isUpper c ∧ isLower d then
      word.reverse :: wordsFrom .start [c] (d :: rest)
    else wordsFrom (mode.next c) (c :: word) (d :: rest)

/-- The maximal runs of letters and digits. -/
def runs : List Char → List (List Char)
  | [] => []
  | c :: cs =>
    if isAlphanumeric c then
      match cs with
      | [] => [[c]]
      | d :: _ =>
        if isAlphanumeric d then
          match runs cs with
          | [] => [[c]]
          | run :: rest => (c :: run) :: rest
        else [c] :: runs cs
    else runs cs

def words (cs : List Char) : List (List Char) := (runs cs).flatMap (wordsFrom .start [])

/-- The lower case of a word, in which a sigma at the end has its final form. -/
def lowerWord : List Char → List Char
  | [] => []
  | [c] => if c = 'Σ' then ['ς'] else lowerChar c
  | c :: cs => lowerChar c ++ lowerWord cs

def convert (s : String) : String :=
  String.ofList (unpieces '_' ((words s.toList).map lowerWord))

end ServiceWiring.Text.SnakeCase
