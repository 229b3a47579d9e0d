import DnsSteering.Gateway
import DnsSteering.Json.Reader
import DnsSteering.Log
import DnsSteering.Policy
import DnsSteering.Records.Basic

namespace DnsSteering

-- The input of a run, read from a hostname and three JSON documents.
structure Config where
  hostname : String
  gateway : Gateway
  policy : Policy
  current : List Record
  deriving DecidableEq

namespace Config

-- The values as given; a missing one is only missed when it is read.
structure Source where
  hostname : Option Json
  gateway : Option Json
  routing : Option Json
  current : Option Json
  deriving DecidableEq, Repr

-- What comes of a reading: it is accepted, refused, or broken off by a fault.
inductive Ending (α : Type) where
  | accepted (a : α)
  | refused
  | broken (f : Fault)
  deriving DecidableEq

@[ext] structure Reading (α : Type) where
  ending : Ending α
  log : List Log.Line
  deriving DecidableEq

namespace Reading

def quiet {α : Type} (ending : Ending α) : Reading α := ⟨ending, []⟩

def bind {α β : Type} (r : Reading α) (f : α → Reading β) : Reading β :=
  match r.ending with
  | .accepted a => ⟨(f a).ending, r.log ++ (f a).log⟩
  | .refused => ⟨.refused, r.log⟩
  | .broken fault => ⟨.broken fault, r.log⟩

@[simp] theorem ending_quiet {α : Type} (ending : Ending α) : (quiet ending).ending = ending := rfl

@[simp] theorem log_quiet {α : Type} (ending : Ending α) : (quiet ending).log = [] := rfl

@[simp] theorem bind_accepted_quiet {α β : Type} (a : α) (f : α → Reading β) :
    (quiet (.accepted a)).bind f = f a := by
  simp [bind]

@[simp] theorem bind_refused_quiet {α β : Type} (f : α → Reading β) :
    (quiet .refused).bind f = quiet .refused := rfl

end Reading

def refuse {α : Type} (origin : Log.Origin) (message : String) : Reading α :=
  ⟨.refused, [⟨.error, origin, message⟩]⟩

@[simp] theorem ending_refuse {α : Type} (origin : Log.Origin) (message : String) :
    (refuse (α := α) origin message).ending = .refused := rfl

@[simp] theorem refuse_bind {α β : Type} (origin : Log.Origin) (message : String) (f : α → Reading β) :
    (refuse origin message).bind f = refuse origin message := rfl

-- Faults of one kind are a reason to refuse, others break the reading off.
def orRefuse {α : Type} (origin : Log.Origin) (what : String) (isReason : Fault → Bool) :
    Except Fault α → Reading α
  | .ok a => .quiet (.accepted a)
  | .error f => if isReason f then refuse origin (what ++ f.message) else .quiet (.broken f)

def given (key : LooseText) : Option Json → Reading Json
  | none => .quiet (.broken (.keyMissing (Text.quoted key)))
  | some v => .quiet (.accepted v)

def document (key : LooseText) (what : String) (text : Option Json) : Reading Json :=
  (given key text).bind fun
    | .str t =>
      match Json.read t.mended with
      | .error message => refuse .document s!"Failed to parse {what}: {message}"
      | .ok .null => .quiet .refused
      | .ok v => .quiet (.accepted v)
    | _ => .quiet (.broken .wrongKind)

def readHostname (v : Option Json) : Reading String :=
  (given "hostname" v).bind fun v =>
    match Hostname.check true v with
    | .error f => .quiet (.broken f)
    | .ok (some reason) =>
      refuse .hostname s!"Hostname '{v.shown}' is not a valid FQDN: {reason}"
    | .ok none =>
      match v with
      | .str t => .quiet (.accepted t.mended)
      | _ => .quiet .refused

def isAddressReason : Fault → Bool
  | .keyMissing _ => true
  | .wrongKind => true
  | f => f.isValue

def isWeightReason : Fault → Bool
  | .noMember => true
  | f => isAddressReason f

def isRecordReason : Fault → Bool
  | .wrongKind => true
  | f => f.isValue

-- A field of what should be an object.
def member (key : LooseText) : Json → Except Fault Json
  | .obj fields =>
    match Json.field? key fields with
    | some v => .ok v
    | none => .error (.keyMissing (Text.quoted key))
  | _ => .error .wrongKind

def address (v : Json) : Except Fault Address := do
  let kind ← member "type" v
  let value ← member "value" v
  Address.ofJson kind value

def readAll {α : Type} (f : Json → Except Fault α) : List Json → Except Fault (List α)
  | [] => .ok []
  | v :: vs =>
    match f v with
    | .error e => .error e
    | .ok a => (readAll f vs).map (a :: ·)

def gatewayOfFields (fields : List (LooseText × Json)) : Reading Gateway :=
  let part key := (Json.field? key fields).getD
  match part "labels" (.obj []) with
  | .obj labels =>
    match part "addresses" (.arr []) with
    | .arr items =>
      (orRefuse .gateway "Invalid gateway address: " isAddressReason
        (readAll address items)).bind fun addresses =>
          .quiet (.accepted
            ⟨part "name" (.str ""), part "namespace" (.str ""), .obj labels, addresses⟩)
    | v => refuse .gateway s!"Gateway addresses must be a list, got {v.kindName}"
  | v => refuse .gateway s!"Gateway labels must be a dictionary, got {v.kindName}"

def readGateway (text : Option Json) : Reading Gateway :=
  (document "gateway" "gateway" text).bind fun
    | .obj fields => gatewayOfFields fields
    | v => refuse .gateway s!"Gateway must be a dictionary, got {v.kindName}"

-- Values that count as absent are none.
def valueList (v : Json) : Except Fault Json :=
  if v.truthy then v.itemList.map .arr else .ok (.arr [])

def expression (v : Json) : Except Fault Expression := do
  let key ← member "key" v
  let operator ← member "operator" v
  match v with
  | .obj fields =>
    let values ← valueList ((Json.field? "values" fields).getD .null)
    return .requirement key operator values
  | _ => .error .wrongKind

def expressions : Json → Except Fault Expressions
  | .null => .ok .none
  | v =>
    match v.itemList with
    | .error f => .error f
    | .ok items => (readAll expression items).map .listed

def selector : Json → Except Fault Selector
  | .obj fields =>
    (expressions ((Json.field? "match_expressions" fields).getD .null)).map fun es =>
      ⟨(Json.field? "match_labels" fields).getD .null, es⟩
  | _ => .error .noMember

def weightRule (v : Json) : Except Fault WeightRule := do
  let weight ← (member "weight" v).bind Json.wholeNumber
  match v with
  | .obj fields =>
    let selector ← selector ((Json.field? "selector" fields).getD (.obj []))
    return ⟨.int weight, some selector⟩
  | _ => .error .wrongKind

def weightRules (v : Json) : Except Fault (List WeightRule) :=
  match v.itemList with
  | .error f => .error f
  | .ok items => readAll weightRule items

def isPolicyReason : Fault → Bool
  | .policy _ => true
  | _ => false

def build (d : Draft) : Reading Policy :=
  orRefuse .policy "Invalid routing: " isPolicyReason d.build

def policyOfFields (fields : List (LooseText × Json)) : Reading Policy :=
  let part key := (Json.field? key fields).getD
  let strategy := part "strategy" (.str Policy.balancedStrategy)
  if strategy = .str Policy.simpleStrategy then build (({} : Draft).set .simple)
  else if strategy = .str Policy.balancedStrategy then
    let draft := ({} : Draft).set
      (.balanced (part "cluster_id" (.str "")) (part "default_geo" (.str ""))
        (part "default_weight" (.int 0)))
    (orRefuse .rules "Invalid custom weight: " isWeightReason
      (weightRules (part "custom_weights" (.arr [])))).bind fun rules =>
        build (draft.set (.rules rules))
  else refuse .policy s!"Unknown routing strategy '{strategy.shown}'"

def readPolicy (text : Option Json) : Reading Policy :=
  (document "routing" "routing" text).bind fun
    | .obj fields => policyOfFields fields
    | v => refuse .policy s!"Routing must be a dictionary, got {v.kindName}"

def readCurrent (text : Option Json) : Reading (List Record) :=
  (document "current_records" "current records" text).bind fun
    | .arr items =>
      orRefuse .current "Invalid current record: " isRecordReason
        (Record.ofJsonAll items)
    | v => refuse .current s!"Current records must be a list, got {v.kindName}"

def read (s : Source) : Reading Config :=
  (readHostname s.hostname).bind fun hostname =>
    (readGateway s.gateway).bind fun gateway =>
      (readPolicy s.routing).bind fun policy =>
        (readCurrent s.current).bind fun current =>
          .quiet (.accepted ⟨hostname, gateway, policy, current⟩)

end Config
end DnsSteering
