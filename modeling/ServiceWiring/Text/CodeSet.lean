/-! Sets of code points, given by intervals or by strides. -/
namespace ServiceWiring.Text

/-- Whether a code point lies in one of the intervals, both ends included. -/
def inIntervals (intervals : List (Nat × Nat)) (n : Nat) : Bool :=
  intervals.any fun i => decide (i.1 ≤ n) && decide (n ≤ i.2)

/-- Every `step`-th code point from `first` to `last`. -/
structure Stride where
  first : Nat
  last : Nat
  step : Nat

def Stride.contains (s : Stride) (n : Nat) : Bool :=
  decide (s.first ≤ n) && decide (n ≤ s.last) && (n - s.first) % s.step == 0

def inStrides (strides : List Stride) (n : Nat) : Bool := strides.any (·.contains n)

end ServiceWiring.Text
