namespace DnsSteering.International.Punycode

-- The bias after a distance; `points` is how many code points are in place by then.
def damp : Nat → Nat → Nat → Nat
  | 0, k, _ => k
  | fuel + 1, k, delta =>
    if 455 < delta then damp fuel (k + 36) (delta / 35) else k + 36 * delta / (delta + 38)

def adapt (delta points : Nat) (first : Bool) : Nat :=
  let delta := if first then delta / 700 else delta / 2
  let delta := delta + delta / points
  damp (delta + 1) 0 delta

def digit (d : Nat) : Char := if d < 26 then Char.ofNat (97 + d) else Char.ofNat (22 + d)

def threshold (bias k : Nat) : Nat :=
  if k ≤ bias + 1 then 1 else if bias + 26 ≤ k then 26 else k - bias

-- A distance in digits, least first; a digit below its threshold is the last. From the first digit
-- on the number shrinks, so it bounds their count.
def number : Nat → Nat → Nat → Nat → List Char
  | 0, _, _, _ => []
  | fuel + 1, bias, k, n =>
    let t := threshold bias k
    if n < t then [digit n]
    else digit (t + (n - t) % (36 - t)) :: number fuel bias (k + 36) ((n - t) / (36 - t))

structure State where
  delta : Nat
  bias : Nat
  placed : Nat
  first : Bool

-- Goes once over all code points for the value `m`: smaller ones lengthen the way to the next
-- place, and at each `m` the way is written.
def place (m : Nat) : State → List Nat → List Char × State
  | s, [] => ([], s)
  | s, n :: ns =>
    if n < m then place m { s with delta := s.delta + 1 } ns
    else if n = m then
      let next : State := ⟨0, adapt s.delta (s.placed + 1) s.first, s.placed + 1, false⟩
      let (rest, t) := place m next ns
      (number (s.delta + 1) s.bias 36 s.delta ++ rest, t)
    else place m s ns

-- `values` are the values to insert, ascending; `last` is the one before them.
def insertAll (all : List Nat) (last : Nat) (s : State) : List Nat → List Char
  | [] => []
  | m :: ms =>
    let (written, t) := place m { s with delta := s.delta + (m - last - 1) * (s.placed + 1) } all
    written ++ insertAll all m { t with delta := t.delta + 1 } ms

def insertValue (n : Nat) : List Nat → List Nat
  | [] => [n]
  | m :: ms => if n < m then n :: m :: ms else if n = m then m :: ms else m :: insertValue n ms

-- First those that are ASCII, then a hyphen if there are any, then for each further code point, from the
-- least up, where it is inserted.
def encode (ns : List Nat) : List Char :=
  let basic := ns.filter (· < 128)
  let others := (ns.filter (128 ≤ ·)).foldr insertValue []
  let start := basic.map Char.ofNat
  (if basic.isEmpty then [] else start ++ ['-']) ++
    insertAll ns 127 ⟨0, 72, basic.length, true⟩ others

end DnsSteering.International.Punycode
