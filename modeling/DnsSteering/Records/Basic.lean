import DnsSteering.Dns.RecordType
import DnsSteering.Json.Display
import DnsSteering.Records.Entries
import DnsSteering.Text.Numeral

namespace DnsSteering

-- A record is known by its name and set identifier. Type, targets and time to live are replaced when it is
-- published anew, attributes are added, and labels stay as others left them.
structure Record where
  name : Json
  type : RecordType
  targets : List Json
  ttl : Json
  identifier : Json
  attributes : Entries
  labels : Entries
  deriving DecidableEq, Repr

-- A value as a whole number.
def Json.wholeNumber : Json → Except Fault Int
  | .bool b => .ok (if b then 1 else 0)
  | .int n => .ok n
  | .float x =>
    match x with
    | .nan => .error (.value .integerOfNothing)
    | .infinite _ => .error .integerInfinite
    | x => .ok (x.truncate?.getD 0)
  | .str t =>
    match t.plain?.bind Text.integer? with
    | some n => .ok n
    | none => .error (.value (.integer (Text.quotedStart t)))
  | _ => .error .wrongKind

def Json.itemList (v : Json) : Except Fault (List Json) :=
  match v.items? with
  | some items => .ok items
  | none => .error .wrongKind

-- A type by its text or its number.
def Json.recordType : Json → Except Fault RecordType
  | .str t => RecordType.read t.mended
  | .bool b => RecordType.ofCode (if b then 1 else 0)
  | .int n => if n < 0 then .error (.value .recordTypeTooLarge) else RecordType.ofCode n.toNat
  | _ => .error .wrongKind

namespace Record

-- What a record is exchanged as. The type is its text; keys of attributes and labels stay as they
-- are, and only as JSON text all become texts.
structure Form where
  name : Json
  type : String
  targets : List Json
  ttl : Json
  identifier : Json
  attributes : Entries
  labels : Entries
  deriving DecidableEq, Repr

def Form.toJson (f : Form) : Json := .obj [
  ("name", f.name), ("type", .str f.type), ("targets", .arr f.targets), ("ttl", f.ttl),
  ("set_identifier", f.identifier), ("provider_attributes", f.attributes.toJson),
  ("labels", f.labels.toJson)]

-- An absent identifier is the empty text.
def plainIdentifier (v : Json) : Json := if v.truthy then v else .str ""

def make (name : Json) (type : RecordType) (targets ttl identifier attributes labels : Json) :
    Except Fault Record :=
  match targets.itemList with
  | .error f => .error f
  | .ok targets =>
    match Entries.ofJson attributes with
    | .error f => .error f
    | .ok attributes =>
      match Entries.ofJson labels with
      | .error f => .error f
      | .ok labels =>
        .ok ⟨name, type, targets, ttl, plainIdentifier identifier, attributes, labels⟩

-- The type is replaced first: where the targets are refused it is new all the same.
def update (r : Record) (type : RecordType) (targets ttl : Json) : Record × Option Fault :=
  match targets.itemList with
  | .error f => ({ r with type := type }, some f)
  | .ok targets => ({ r with type := type, targets := targets, ttl := ttl }, none)

def setAttribute (r : Record) (name value : Json) : Except Fault Record :=
  if name.canIdentify then .ok { r with attributes := r.attributes.set name value }
  else .error .wrongKind

def toForm (r : Record) : Form :=
  ⟨r.name, r.type.text, r.targets, r.ttl, r.identifier, r.attributes, r.labels⟩

def toJson (r : Record) : Json := r.toForm.toJson

def required (key : LooseText) (fields : List (LooseText × Json)) : Except Fault Json :=
  match Json.field? key fields with
  | some v => .ok v
  | none => .error (.value (.fieldMissing (Text.quoted key)))

def typeOfJson : Json → Except Fault RecordType
  | .str t =>
    match RecordType.read t.mended with
    | .error .unknownRecordType => .error (.value (.unknownRecordType t.shown))
    | r => r
  | _ => .error .noMember

def ofForm (f : Form) : Except Fault Record :=
  match typeOfJson (.str f.type) with
  | .error e => .error e
  | .ok type =>
    match f.ttl.wholeNumber with
    | .error e => .error e
    | .ok ttl =>
      let identifier := plainIdentifier f.identifier
      .ok ⟨f.name, type, f.targets, .int ttl, identifier, f.attributes, f.labels⟩

def ofFields (fields : List (LooseText × Json)) : Except Fault Record := do
  let name ← required "name" fields
  let type ← (required "type" fields).bind typeOfJson
  let targets ← required "targets" fields
  let ttl ← (required "ttl" fields).bind Json.wholeNumber
  make name type targets (.int ttl)
    ((Json.field? "set_identifier" fields).getD (.str ""))
    ((Json.field? "provider_attributes" fields).getD .null)
    ((Json.field? "labels" fields).getD .null)

def ofJson : Json → Except Fault Record
  | .obj fields => ofFields fields
  | _ => .error .wrongKind

def ofJsonAll : List Json → Except Fault (List Record)
  | [] => .ok []
  | v :: vs =>
    match ofJson v with
    | .error f => .error f
    | .ok r => (ofJsonAll vs).map (r :: ·)

def sameKey (r s : Record) : Bool := r.name.same s.name && r.identifier.same s.identifier

def canIdentify (r : Record) : Bool := r.name.canIdentify && r.identifier.canIdentify

-- Targets that are no texts cannot be shown.
def describe? (r : Record) : Option String :=
  let shown := r.targets.map fun
    | .str t => some t.shown
    | _ => none
  if shown.all Option.isSome then
    let targets := Json.parted (shown.filterMap id)
    some (s!"Record(name={r.name.shown}, type={r.type.text}, " ++
      s!"set_identifier='{r.identifier.shown}', ttl={r.ttl.shown}, targets=[{targets}])")
  else none

def isOrderly (r : Record) : Bool := r.name.isOrderly && r.identifier.isOrderly

-- By name, then set identifier, then type as text.
def less? (r s : Record) : Option Bool :=
  if !r.name.same s.name then r.name.less? s.name
  else if !r.identifier.same s.identifier then r.identifier.less? s.identifier
  else some (r.type.text < s.type.text)

end Record
end DnsSteering
