import DnsSteering.Fault
import DnsSteering.Json.Printer

namespace DnsSteering

-- Values under keys, in the order of their first writing. Two keys that are equal by value are one key.
abbrev Entries := List (Json × Json)

namespace Entries

-- A key that is there keeps its place and its spelling, a new one goes to the end.
def set (key value : Json) : Entries → Entries
  | [] => [(key, value)]
  | (k, v) :: es => if k.same key then (k, value) :: es else (k, v) :: set key value es

def ofFields (fields : List (LooseText × Json)) : Entries := fields.map fun f => (.str f.1, f.2)

-- Adds what is read as pairs: whatever has two items.
def addPairs (es : Entries) (index : Nat) : List Json → Except Fault Entries
  | [] => .ok es
  | v :: vs =>
    match v.items? with
    | none => .error .wrongKind
    | some [key, value] =>
      if key.canIdentify then addPairs (es.set key value) (index + 1) vs else .error .wrongKind
    | some items => .error (.value (.pairLength index items.length))

def ofJson (v : Json) : Except Fault Entries :=
  if !v.truthy then .ok []
  else
    match v with
    | .obj fields => .ok (ofFields fields)
    | v =>
      match v.items? with
      | none => .error .wrongKind
      | some items => addPairs [] 0 items

-- How a key is written as the name of a field.
def keyText : Json → LooseText
  | .str t => t
  | .null => "null"
  | .bool b => if b then "true" else "false"
  | .int n => toString n
  | .float x => Json.printFloat x
  | v => v.text

def toJson (es : Entries) : Json := .obj (es.map fun e => (keyText e.1, e.2))

end Entries
end DnsSteering
