namespace DnsSteering.Text.Table

-- Rows are first and last of a range.
def covers (rows : List (Nat × Nat)) (n : Nat) : Bool :=
  rows.any fun (first, last) => first ≤ n && n ≤ last

-- Characters at one distance from each other, with images as far apart as they are themselves.
structure Run where
  first : Nat
  last : Nat
  step : Nat
  image : Nat
  deriving DecidableEq, Repr

def Run.image? (r : Run) (n : Nat) : Option Nat :=
  if r.first ≤ n && n ≤ r.last && (n - r.first) % r.step = 0 then some (r.image + (n - r.first))
  else none

def shift? (rows : List Run) (n : Nat) : Option Nat := rows.findSome? fun r => r.image? n

end DnsSteering.Text.Table
