/-! Lists in strictly increasing order. -/
namespace ServiceWiring.Sorted
variable {α : Type} [Ord α]

/-- Puts an element in its place, unless it is there already. -/
def insert (a : α) : List α → List α
  | [] => [a]
  | b :: rest =>
    match compare a b with
    | .lt => a :: b :: rest
    | .eq => b :: rest
    | .gt => b :: insert a rest

def ofList (items : List α) : List α := items.foldr insert []

end ServiceWiring.Sorted
