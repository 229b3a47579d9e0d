import DnsSteering.Address.Ipv4
import DnsSteering.Text.Hex

namespace DnsSteering.Ipv6

def isGroup (cs : List Char) : Bool :=
  cs.length ≤ 4 && cs.all fun c => (Text.hexValue? c).isSome

-- Groups as they stand between colons. One of them may be empty: there the zeros go.
def groupsFit (groups : List (List Char)) : Bool :=
  groups.length ≤ 8 && groups.countP List.isEmpty ≤ 1 && groups.all isGroup &&
    (groups.length = 8 || groups.any List.isEmpty)

def endsWith (tail cs : List Char) : Bool := tail.reverse.isPrefixOf cs.reverse

-- A double colon at an edge leaves one empty group and not two.
def trimEdge (cs : List Char) : List Char :=
  match cs with
  | ':' :: ':' :: rest => ':' :: rest
  | cs => if endsWith [':', ':'] cs then cs.dropLast else cs

-- Four runs of digits parted by dots: the look of an IPv4 address, whether or not it is one.
def isDotted (cs : List Char) : Bool :=
  let parts := Text.split '.' cs
  parts.length = 4 && parts.all fun p => !p.isEmpty && p.all Char.isDigit

-- A line break at the very end does not count.
def dropLastBreak (cs : List Char) : List Char :=
  if cs.getLast? = some '\n' then cs.dropLast else cs

-- Replaces an IPv4 address after the last colon by two groups; none if it only looks like one.
def expandTail (cs : List Char) : Option (List Char) :=
  let tail := dropLastBreak (cs.reverse.takeWhile (· ≠ ':')).reverse
  let front := ((cs.reverse.dropWhile (· ≠ ':')).drop 1).reverse
  if cs.contains ':' && isDotted tail && !front.contains '\n' then
    match Ipv4.octets? tail with
    | some [a, b, c, d] =>
      some (front ++ ':' :: Text.hexDigits 4 (256 * a + b) ++ ':' :: Text.hexDigits 4 (256 * c + d))
    | _ => none
  else some cs

-- A single colon at an edge.
def hasLoneEdge (cs : List Char) : Bool :=
  (endsWith [':'] cs && !endsWith [':', ':'] cs) ||
    ([':'].isPrefixOf cs && !([':', ':'].isPrefixOf cs))

def isUnscoped (cs : List Char) : Bool :=
  if cs.isEmpty || hasLoneEdge cs then false
  else
    match expandTail (if cs = [':', ':'] then ['0', ':', ':'] else cs) with
    | none => false
    | some cs => groupsFit (Text.split ':' (trimEdge cs))

-- Eight groups parted by colons. A double colon stands for as many zero groups as are missing, an IPv4
-- address may take the place of the last two, and a scope may follow a percent sign.
def isValid (cs : List Char) : Bool :=
  match Text.split '%' cs with
  | [cs] => isUnscoped cs
  | [cs, _] => isUnscoped cs
  | _ => false

end DnsSteering.Ipv6
