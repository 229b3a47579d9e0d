import DnsSteering.Log
import DnsSteering.Records.Basic

namespace DnsSteering

structure Slot where
  name : Json
  identifier : Json
  type : RecordType
  deriving DecidableEq, Repr

namespace Slot

def sameKey (s t : Slot) : Bool := s.name.same t.name && s.identifier.same t.identifier

def same (s t : Slot) : Bool := s.sameKey t && s.type = t.type

def canIdentify (s : Slot) : Bool := s.name.canIdentify && s.identifier.canIdentify

end Slot

def Record.slot (r : Record) : Slot := ⟨r.name, r.identifier, r.type⟩

-- Slots and the numbers of their records. No slot stands twice.
abbrev Holdings := List (Slot × Nat)

namespace Holdings

-- A slot that is there keeps its place.
def put (s : Slot) (id : Nat) : Holdings → Holdings
  | [] => [(s, id)]
  | (t, old) :: hs => if t.same s then (t, id) :: hs else (t, old) :: put s id hs

def find? (s : Slot) (hs : Holdings) : Option Nat :=
  (List.find? (fun h => h.1.same s) hs).map (·.2)

-- Takes out the first holding of a kind.
def take? (wanted : Slot → Bool) : Holdings → Option (Nat × Holdings)
  | [] => none
  | (t, id) :: hs =>
    if wanted t then some (id, hs)
    else (take? wanted hs).map fun r => (r.1, (t, id) :: r.2)

-- The holding of a slot itself before any of its name and identifier.
def claim? (s : Slot) (hs : Holdings) : Option (Nat × Holdings) :=
  match take? (fun t => t.same s) hs with
  | some r => some r
  | none => take? (fun t => t.sameKey s) hs

end Holdings

-- Records are known by number and live on while others are added. Those that were published before are
-- pending until they are given out, each at most once.
structure Ledger where
  records : List Record
  pending : Holdings
  emitted : Holdings
  deriving DecidableEq, Repr

-- What a record is to hold.
structure Request where
  name : Json
  targets : Json
  type : RecordType
  identifier : Json
  ttl : Json
  deriving DecidableEq, Repr

def Request.slot (q : Request) : Slot := ⟨q.name, q.identifier, q.type⟩

namespace Ledger

-- Of two records in one slot the later one is pending, in the place of the earlier.
def pendingOf (records : List Record) : List Nat → Holdings → Except Fault Holdings
  | [], hs => .ok hs
  | id :: ids, hs =>
    match records[id]? with
    | none => pendingOf records ids hs
    | some r =>
      if r.canIdentify then pendingOf records ids (hs.put r.slot id) else .error .wrongKind

-- Nothing emitted yet; the records numbered by `current` are pending.
def opening (records : List Record) (current : List Nat) : Except Fault Ledger :=
  (pendingOf records current []).map fun pending => ⟨records, pending, []⟩

def emit (l : Ledger) (s : Slot) (id : Nat) : Ledger := { l with emitted := l.emitted.put s id }

-- Replaces what a request gives in a record that is there.
def renew (l : Ledger) (id : Nat) (q : Request) : Ledger × Option Fault :=
  match l.records[id]? with
  | none => (l, none)
  | some r =>
    let (r, fault) := r.update q.type q.targets q.ttl
    ({ l with records := l.records.set id r }, fault)

def reuse (l : Ledger) (id : Nat) (q : Request) : Ledger × Except Fault Nat :=
  match l.renew id q with
  | (l, some f) => (l, .error f)
  | (l, none) => (l.emit q.slot id, .ok id)

def create (l : Ledger) (q : Request) : Ledger × Except Fault Nat :=
  match Record.make q.name q.type q.targets q.ttl q.identifier .null .null with
  | .error f => (l, .error f)
  | .ok r =>
    let id := l.records.length
    (({ l with records := l.records ++ [r] } : Ledger).emit q.slot id, .ok id)

-- Answers with the number of the slot's record. A refused request may leave a claimed record
-- behind, no longer pending and with its new type.
def put (l : Ledger) (q : Request) : Ledger × Except Fault Nat :=
  if !q.slot.canIdentify then (l, .error .wrongKind)
  else
    match l.emitted.find? q.slot with
    | some id => l.reuse id q
    | none =>
      match l.pending.claim? q.slot with
      | some (id, pending) => { l with pending := pending }.reuse id q
      | none => l.create q

def setAttribute (l : Ledger) (id : Nat) (name value : Json) : Ledger × Option Fault :=
  match l.records[id]? with
  | none => (l, none)
  | some r =>
    match r.setAttribute name value with
    | .error f => (l, some f)
    | .ok r => ({ l with records := l.records.set id r }, none)

def setAttributes (l : Ledger) (id : Nat) : List (Json × Json) → Ledger × Option Fault
  | [] => (l, none)
  | (name, value) :: rest =>
    match l.setAttribute id name value with
    | (l, some f) => (l, some f)
    | (l, none) => l.setAttributes id rest

-- Numbers of the emitted records, in the order in which their slots were first requested.
def emittedIds (l : Ledger) : List Nat := l.emitted.map (·.2)

-- How an answered request is logged, given the ledger before it.
def noteOf (before after : Ledger) (id : Nat) : List Log.Line :=
  let word := if id < before.records.length then "Updated" else "Created"
  match (after.records[id]?).bind Record.describe? with
  | some shown => [⟨.debug, .ledger, s!"{word} {shown}"⟩]
  | none => []

end Ledger
end DnsSteering
