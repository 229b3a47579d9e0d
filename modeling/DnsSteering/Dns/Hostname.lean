import DnsSteering.Dns.Name.Reader
import DnsSteering.Json.Display
import DnsSteering.Text.Alphanumeric
import DnsSteering.Text.Split

namespace DnsSteering.Hostname

def isLabelChar (c : Char) : Bool := Text.isAlphanumeric c || c = '-'

def isLabel (cs : List Char) : Bool := !cs.isEmpty && cs.all isLabelChar

-- Where a wildcard is allowed, a lone asterisk may stand before other labels.
def labels (wildcard : Bool) (cs : List Char) : List (List Char) :=
  match Text.split '.' cs with
  | ['*'] :: l :: ls => if wildcard then l :: ls else ['*'] :: l :: ls
  | ls => ls

-- Why a text is no hostname.
def refusal? (wildcard : Bool) (s : String) : Option String :=
  if s.isEmpty then some "It cannot be empty"
  else if !(labels wildcard s.toList).all isLabel then
    some "Labels must contain only alphanumeric characters or hyphens"
  else
    match Name.read s with
    | .error f => some ("It is not a valid DNS name: " ++ f.message)
    | .ok _ => none

-- Absent values are refused like an empty text; other values that are no texts have no labels.
def check (wildcard : Bool) (v : Json) : Except Fault (Option String) :=
  match v with
  | .str t => .ok (refusal? wildcard t.mended)
  | v => if v.truthy then .error .noMember else .ok (some "It cannot be empty")

-- What is left of a listener's name without a leading wildcard, nothing if it was only that. A name
-- that is not wild is left as it was written.
def base (v : Json) : Except Fault String :=
  match Name.ofJson v with
  | .error f => .error f
  | .ok name =>
    if name.isWild then .ok (String.ofList (Name.relativeText name.parent.labels))
    else if name = Name.root then .ok ""
    else .ok v.display.mended

end DnsSteering.Hostname
