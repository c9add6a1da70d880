/-! Cutting a text at a separator and putting the pieces together again. -/
namespace ServiceWiring.Text

/-- The pieces between the separators; a text without a separator is one piece. -/
def pieces (separator : Char) : List Char → List (List Char)
  | [] => [[]]
  | c :: cs =>
    if c = separator then [] :: pieces separator cs
    else match pieces separator cs with
      | [] => [[c]]
      | piece :: rest => (c :: piece) :: rest

def unpieces (separator : Char) (parts : List (List Char)) : List Char :=
  [separator].intercalate parts

theorem pieces_ne_nil (separator : Char) (cs : List Char) : pieces separator cs ≠ [] := by
  cases cs with
  | nil => simp [pieces]
  | cons c cs =>
    simp only [pieces]
    split
    · simp
    · split <;> simp

/-- Cutting loses nothing but the separators. -/
theorem unpieces_pieces (separator : Char) (cs : List Char) :
    unpieces separator (pieces separator cs) = cs := by
  induction cs with
  | nil => rfl
  | cons c cs ih =>
    obtain ⟨piece, rest, h⟩ := List.exists_cons_of_ne_nil (pieces_ne_nil separator cs)
    rw [h] at ih
    simp only [pieces, h]
    split
    · next e => subst e; simpa [unpieces, List.intercalate] using ih
    · cases rest <;> simp_all [unpieces, List.intercalate]

/-- Where a character stands for the last time. -/
def lastIndex? (c : Char) (cs : List Char) : Option Nat :=
  (cs.reverse.findIdx? (· == c)).map fun i => cs.length - 1 - i

/-- The same text with every occurrence of one character written as another text. -/
def replaceChar (c : Char) (replacement : String) (s : String) : String :=
  String.ofList (s.toList.flatMap fun d => if d = c then replacement.toList else [d])

/-- The texts one after another, with a separator between neighbours. -/
def joined (separator : String) (parts : List String) : String := separator.intercalate parts

end ServiceWiring.Text
