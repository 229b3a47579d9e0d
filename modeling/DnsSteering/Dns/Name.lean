namespace DnsSteering

abbrev Label := List UInt8

-- The root has no labels. The written form is a printer of names and never the name itself.
structure Name where
  labels : List Label
  deriving DecidableEq, Repr

namespace Name

def root : Name := ⟨[]⟩

-- One byte for the length of each label, and one for the root.
def wireLength (name : Name) : Nat := name.labels.foldr (fun l n => l.length + 1 + n) 1

-- The first label is a lone asterisk, however it was spelled.
def isWild (name : Name) : Bool := name.labels.head? = some [42]

def parent (name : Name) : Name := ⟨name.labels.tail⟩

-- Bytes that mean something in zone text.
def special : List UInt8 := [34, 40, 41, 46, 59, 92, 64, 36]

def decimalByte (b : UInt8) : List Char :=
  let n := b.toNat
  [Nat.digitChar (n / 100), Nat.digitChar (n / 10 % 10), Nat.digitChar (n % 10)]

def escapeByte (b : UInt8) : List Char :=
  if b ∈ special then ['\\', Char.ofNat b.toNat]
  else if 32 < b && b < 127 then [Char.ofNat b.toNat]
  else '\\' :: decimalByte b

def labelText (l : Label) : List Char := l.flatMap escapeByte

-- Without the dot at the end; nothing for the root.
def relativeText : List Label → List Char
  | [] => []
  | [l] => labelText l
  | l :: ls => labelText l ++ '.' :: relativeText ls

def text (name : Name) : List Char :=
  match name.labels with
  | [] => ['.']
  | ls => relativeText ls ++ ['.']

end Name
end DnsSteering
