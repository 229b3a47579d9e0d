import DnsSteering.Text.Split

namespace DnsSteering.Ipv4

-- Without leading zeros.
def octet? (cs : List Char) : Option Nat :=
  if cs.isEmpty || !cs.all Char.isDigit then none
  else if 1 < cs.length && cs.head? = some '0' then none
  else
    let n := cs.foldl (fun n c => 10 * n + (c.toNat - 48)) 0
    if n < 256 then some n else none

def octets? (cs : List Char) : Option (List Nat) :=
  match (Text.split '.' cs).map octet? with
  | [some a, some b, some c, some d] => some [a, b, c, d]
  | _ => none

def isValid (cs : List Char) : Bool := (octets? cs).isSome

def text (octets : List Nat) : List Char := Text.join '.' (octets.map (Nat.toDigits 10))

end DnsSteering.Ipv4
