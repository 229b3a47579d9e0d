import DnsSteering.Number.Binary64

namespace DnsSteering.Binary64

-- `num / den` lies below ten to this power, and not below the power before. For positive values.
def pointPlace (num den : Nat) : Int :=
  if den ≤ num then (decimalLength (num / den) : Int)
  else
    let k := decimalLength (den / num)
    if den = num * Nat.pow 10 (k - 1) then 2 - (k : Int) else 1 - (k : Int)

-- The whole multiples of ten to the `place` around `num / den`, and the rest above the lower one
-- as a fraction of ten to the `place`.
def neighbours (num den : Nat) (place : Int) : Nat × Nat × Nat :=
  let (a, b) :=
    if 0 ≤ place then (num, den * Nat.pow 10 place.toNat) else (num * Nat.pow 10 (-place).toNat, den)
  (a / b, a % b, b)

-- The one of the two neighbours that reads back as `x` and is nearer.
def candidate? (x : Binary64) (num den : Nat) (place : Int) : Option (Nat × Int) :=
  let (low, rest, unit) := neighbours num den place
  let lowReads := ofDecimal false low place = x
  let highReads := ofDecimal false (low + 1) place = x
  let lowNearer := 2 * rest < unit || (2 * rest = unit && low % 2 = 0)
  if lowReads && (lowNearer || !highReads) then some (low, place)
  else if highReads then some (low + 1, place)
  else none

-- Digits and place of the last digit, for a positive double.
def shortest (m : Nat) (e : Int) : Nat × Int :=
  let (num, den) := scaleTwo m 1 e
  let point := pointPlace num den
  let found := (List.range 17).findSome? fun (i : Nat) =>
    candidate? (.finite false m e) num den (point - ((i : Int) + 1))
  found.getD (m, 0)

-- A carry may leave zeros at the end, which belong to the place.
def stripZeros : Nat → Nat → Int → Nat × Int
  | 0, n, place => (n, place)
  | fuel + 1, n, place =>
    if n ≠ 0 && n % 10 = 0 then stripZeros fuel (n / 10) (place + 1) else (n, place)

def zeros (n : Nat) : List Char := List.replicate n '0'

-- `point` is where the point stands, counted from before the first digit.
def positional (digits : List Char) (point : Int) : List Char :=
  if point ≤ 0 then ['0', '.'] ++ zeros (-point).toNat ++ digits
  else if (digits.length : Int) ≤ point then
    digits ++ zeros (point.toNat - digits.length) ++ ['.', '0']
  else digits.take point.toNat ++ '.' :: digits.drop point.toNat

def exponentText (e : Int) : List Char :=
  let digits := Nat.toDigits 10 e.natAbs
  (if e < 0 then '-' else '+') :: zeros (2 - digits.length) ++ digits

def scientific (digits : List Char) (point : Int) : List Char :=
  let mantissa :=
    match digits with
    | [] => []
    | [d] => [d]
    | d :: ds => d :: '.' :: ds
  mantissa ++ 'e' :: exponentText (point - 1)

-- The digits are the fewest that read back as the same double, and of those the nearest; a tie goes to the
-- even digit. Values from 0.0001 up to ten to the 16 are written positionally, with a place after the
-- point, all others with an exponent of at least two digits.
def text : Binary64 → String
  | .nan => "nan"
  | .infinite negative => if negative then "-inf" else "inf"
  | .finite negative m e =>
    let body :=
      if m = 0 then ['0', '.', '0']
      else
        let (n, place) := shortest m e
        let (n, place) := stripZeros 20 n place
        let digits := Nat.toDigits 10 n
        let point := (digits.length : Int) + place
        if -4 < point && point ≤ 16 then positional digits point else scientific digits point
    String.ofList (if negative then '-' :: body else body)

end DnsSteering.Binary64
