namespace DnsSteering

-- A sign, a whole significand below two to the 53 and a power of two; an infinity; or no number at all.
-- The significand is at least two to the 52, or the exponent is the least one. Nothing goes through
-- machine floats, so every comparison and every rounding is exact.
inductive Binary64 where
  | finite (negative : Bool) (significand : Nat) (exponent : Int)
  | infinite (negative : Bool)
  | nan
  deriving DecidableEq, Repr

namespace Binary64

def leastExponent : Int := -1074

-- The whole number nearest to `num / den`; of two, the even one.
def roundHalfEven (num den : Nat) : Nat :=
  let low := num / den
  let rest := num % den
  if 2 * rest < den then low
  else if den < 2 * rest then low + 1
  else if low % 2 = 0 then low else low + 1

-- `num * 2 ^ e` over `den`, as a quotient of two whole numbers.
def scaleTwo (num den : Nat) (e : Int) : Nat × Nat :=
  if 0 ≤ e then (num * Nat.pow 2 e.toNat, den) else (num, den * Nat.pow 2 (-e).toNat)

-- The exponent of the leading bit of `num / den`.
def leadingBit (num den : Nat) : Int :=
  let guess : Int := (num.log2 : Int) - (den.log2 : Int)
  let (a, b) := scaleTwo num den (-guess)
  if a < b then guess - 1 else guess

-- The double nearest to `num / den`.
def ofRatio (negative : Bool) (num den : Nat) : Binary64 :=
  if num = 0 then .finite negative 0 leastExponent
  else
    let e := max (leadingBit num den - 52) leastExponent
    let (a, b) := scaleTwo num den (-e)
    let m := roundHalfEven a b
    let (m, e) := if m = Nat.pow 2 53 then (Nat.pow 2 52, e + 1) else (m, e)
    if 971 < e then .infinite negative else .finite negative m e

def decimalLength (n : Nat) : Nat := (Nat.toDigits 10 n).length

-- The double nearest to `digits * 10 ^ e`. Far outside the range no power is computed.
def ofDecimal (negative : Bool) (digits : Nat) (e : Int) : Binary64 :=
  if digits = 0 then .finite negative 0 leastExponent
  else
    let magnitude := (decimalLength digits : Int) + e
    if 400 < magnitude then .infinite negative
    else if magnitude < -400 then .finite negative 0 leastExponent
    else if 0 ≤ e then ofRatio negative (digits * Nat.pow 10 e.toNat) 1
    else ofRatio negative digits (Nat.pow 10 (-e).toNat)

-- The value as a fraction, where there is one.
def fraction? : Binary64 → Option (Int × Nat)
  | .finite negative m e =>
    let (a, b) := scaleTwo m 1 e
    some (if negative then -(a : Int) else (a : Int), b)
  | .infinite _ => none
  | .nan => none

-- Toward zero.
def truncate? : Binary64 → Option Int
  | .finite negative m e =>
    let (a, b) := scaleTwo m 1 e
    some (if negative then -((a / b : Nat) : Int) else ((a / b : Nat) : Int))
  | .infinite _ => none
  | .nan => none

end Binary64

-- A number of a document: whole, or a double.
inductive Number where
  | whole (n : Int)
  | double (x : Binary64)
  deriving DecidableEq, Repr

namespace Number

-- Where a number stands on the line. Finite ones stand at a fraction, an infinity beyond them all.
inductive Standing where
  | below
  | point (num : Int) (den : Nat)
  | above
  | nowhere

def standing : Number → Standing
  | .whole n => .point n 1
  | .double (.infinite negative) => if negative then .below else .above
  | .double x =>
    match x.fraction? with
    | some (a, b) => .point a b
    | none => .nowhere

-- One and the same, as for a look-up: what stands nowhere is only itself.
def same (x y : Number) : Bool :=
  match x.standing, y.standing with
  | .point a b, .point c d => a * d = c * b
  | .below, .below => true
  | .above, .above => true
  | .nowhere, .nowhere => true
  | _, _ => false

def less (x y : Number) : Bool :=
  match x.standing, y.standing with
  | .point a b, .point c d => a * d < c * b
  | .below, .point _ _ => true
  | .below, .above => true
  | .point _ _, .above => true
  | _, _ => false

end Number
end DnsSteering
