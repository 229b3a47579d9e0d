import DnsSteering.Records.Basic

namespace DnsSteering.Resolution

def ofName (records : List Record) (name : Json) : List Record :=
  records.filter fun r => r.name.same name

def holds (seen : List Json) (v : Json) : Bool := seen.any fun w => w.same v

-- A set as a list without repetitions.
def adjoin (v : Json) (seen : List Json) : List Json := if holds seen v then seen else seen ++ [v]

def adjoinAll (vs : List Json) (seen : List Json) : List Json :=
  vs.foldl (fun seen v => adjoin v seen) seen

structure State where
  visited : List Json
  pending : List Json
  final : List Json
  deriving DecidableEq, Repr

def aliases (rs : List Record) : List Json :=
  (rs.filter fun r => r.type = RecordType.cname).flatMap (·.targets)

def ends (rs : List Record) : List Json :=
  (rs.filter fun r => r.type ≠ RecordType.cname).flatMap (·.targets)

-- Visits a name. The names it leads to are visited before those that were pending.
def visit (records : List Record) (name : Json) (s : State) : Except Fault State :=
  if !name.canIdentify then .error .wrongKind
  else if holds s.visited name then .ok s
  else
    let rs := ofName records name
    let visited := s.visited ++ [name]
    if rs.isEmpty then .ok ⟨visited, s.pending, adjoin name s.final⟩
    else if !(ends rs).all Json.canIdentify then .error .wrongKind
    else .ok ⟨visited, (aliases rs).reverse ++ s.pending, adjoinAll (ends rs) s.final⟩

-- Each name with records is expanded once, so there are never more visits than targets, and one.
def visits : Nat → List Record → State → Except Fault (List Json)
  | 0, _, s => .ok s.final
  | fuel + 1, records, s =>
    match s.pending with
    | [] => .ok s.final
    | name :: pending =>
      match visit records name { s with pending := pending } with
      | .error f => .error f
      | .ok s => visits fuel records s

def targetCount : List Record → Nat
  | [] => 0
  | r :: rs => r.targets.length + targetCount rs

def bound (records : List Record) : Nat := targetCount records + 2

-- Where a hostname leads. All aliases are followed, across all set identifiers; targets of other records
-- are final, and so is a name that has no records.
def finalValues (records : List Record) (hostname : Json) : Except Fault (List Json) :=
  if !records.all fun r => r.name.canIdentify then .error .wrongKind
  else visits (bound records) records ⟨[], [hostname], []⟩

def sameSet (xs ys : List Json) : Bool := xs.all (holds ys) && ys.all (holds xs)

-- Whether a hostname leads exactly to the expected values.
def leadsTo (records : List Record) (hostname : Json) (expected : List Json) : Except Fault Bool :=
  match finalValues records hostname with
  | .error f => .error f
  | .ok found =>
    if expected.all Json.canIdentify then .ok (sameSet found expected) else .error .wrongKind

end DnsSteering.Resolution
