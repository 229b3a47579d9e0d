import DnsSteering.Order
import DnsSteering.Records.Basic
import DnsSteering.Zone.Data

namespace DnsSteering

-- What a name is, the data of an alias may be wrong about; the zone reports it as its own fault.
def ZoneFault.toFault : ZoneFault → Fault
  | .name .emptyLabel => .name .emptyLabel
  | .name .labelTooLong => .name .labelTooLong
  | .name .badEscape => .name .badEscape
  | f => .zone f

-- Faults of text that is read as a zone, as opposed to those of values and of lengths.
def Fault.isSyntactic : Fault → Bool
  | .zone _ => true
  | .name .emptyLabel => true
  | .name .labelTooLong => true
  | .name .badEscape => true
  | _ => false

namespace Zone

def lessEntry? (x y : Json × Json) : Option Bool :=
  if x.1.same y.1 then x.2.less? y.2 else x.1.less? y.1

def attributeText (e : Json × Json) : LooseText := e.1.display ++ "=" ++ e.2.display

def commentParts (r : Record) (attributes : Entries) : List LooseText :=
  let identifier :=
    if r.identifier.truthy then [.plain "set-identifier=" ++ r.identifier.display] else []
  identifier ++ attributes.map attributeText

def comment (r : Record) : Except Fault LooseText :=
  match Order.sort? (fun e => e.1.isOrderly) lessEntry? r.attributes with
  | none => .error .wrongKind
  | some attributes =>
    match commentParts r attributes with
    | [] => .ok ""
    | parts => .ok (.plain " ; " ++ LooseText.intercalate " " parts)

def data (type : RecordType) : Json → Except Fault Data
  | .str t =>
    match Data.read type t.mended.toList with
    | .error f => .error f.toFault
    | .ok d => .ok d
  | _ => .error (.value .targetNoText)

def line (r : Record) (owner : Name) (comment : LooseText) (d : Data) : LooseText :=
  let front := String.ofList owner.text
  let back := String.ofList d.text
  .plain (front ++ " ") ++ r.ttl.display ++ .plain s!" IN {r.type.text} {back}" ++ comment

def targetLines (r : Record) (owner : Name) (comment : LooseText) :
    List Json → Except Fault (List LooseText)
  | [] => .ok []
  | t :: ts =>
    match data r.type t with
    | .error f => .error f
    | .ok d => (targetLines r owner comment ts).map (line r owner comment d :: ·)

-- One line a target. The set identifier and the attributes, by name, follow as a comment.
def recordLines (r : Record) : Except Fault (List LooseText) :=
  match Name.ofJson r.name with
  | .error f => .error f
  | .ok owner =>
    match comment r with
    | .error f => .error f
    | .ok comment => targetLines r owner comment r.targets

def lines : List Record → Except Fault (List LooseText)
  | [] => .ok []
  | r :: rs =>
    match recordLines r with
    | .error f => .error f
    | .ok ls => (lines rs).map (ls ++ ·)

end Zone
end DnsSteering
