import DnsSteering.International.Normalization
import DnsSteering.International.Punycode

namespace DnsSteering.International

open DnsSteering.Text

def fold (n : Nat) : List Nat :=
  match Table.shift? foldTable n with
  | some image => [image]
  | none => (foldManyTable.lookup n).getD [n]

def foldAll (ns : List Nat) : List Nat :=
  (ns.filter fun n => !Table.covers droppedTable n).flatMap fold

-- If any character runs from right to left, the first and the last one do, and none runs the other
-- way.
def directionsAgree (ns : List Nat) : Bool :=
  let backward := Table.covers rightToLeftTable
  !ns.any backward ||
    (!ns.any (Table.covers leftToRightTable) && ns.head?.any backward && ns.getLast?.any backward)

-- Characters are dropped, folded and normalized, and then checked.
def prepare? (ns : List Nat) : Option (List Nat) :=
  let prepared := normalize (foldAll ns)
  if prepared.any (Table.covers prohibitedTable) then none
  else if directionsAgree prepared then some prepared
  else none

def isAscii (ns : List Nat) : Bool := ns.all (· < 128)

def encodedMark : List Char := ['x', 'n', '-', '-']

-- A label has between one and sixty-three characters.
def fit? (cs : List Char) : Option (List Char) :=
  if 0 < cs.length && cs.length < 64 then some cs else none

def encodePrepared? (ns : List Nat) : Option (List Char) :=
  if isAscii ns then fit? (ns.map Char.ofNat)
  else if encodedMark.isPrefixOf (ns.map Char.ofNat) then none
  else fit? (encodedMark ++ Punycode.encode ns)

-- A label in ASCII stands for itself. Any other one is prepared and, if that leaves it outside ASCII,
-- encoded behind a mark of its own.
def asciiLabel? (cs : List Char) : Option (List Char) :=
  let ns := cs.map Char.toNat
  if isAscii ns then fit? cs else (prepare? ns).bind encodePrepared?

end DnsSteering.International
