import DnsSteering.Gateway
import DnsSteering.Hash.ShortCode
import DnsSteering.Records.Ledger
import DnsSteering.Text.Lowercase
import DnsSteering.Weight

namespace DnsSteering

-- What to do to publish a hostname, said before anything published is looked at. Only running it on a
-- ledger touches records.
inductive Act where
  | emit (request : Request) (attributes : List (Json × Json))
  | note (line : Log.Line)
  deriving DecidableEq, Repr

-- A plan may end in a fault; what it emits before, it emits all the same.
structure Plan where
  acts : List Act
  fault : Option Fault
  deriving DecidableEq, Repr

namespace Plan

def runActs (l : Ledger) : List Act → Ledger × Option Fault × List Log.Line
  | [] => (l, none, [])
  | .note line :: acts =>
    let (l, fault, log) := runActs l acts
    (l, fault, line :: log)
  | .emit q attributes :: acts =>
    match l.put q with
    | (after, .error f) => (after, some f, [])
    | (after, .ok id) =>
      match after.setAttributes id attributes with
      | (marked, some f) => (marked, some f, l.noteOf after id)
      | (marked, none) =>
        let (final, fault, log) := runActs marked acts
        (final, fault, l.noteOf after id ++ log)

def run (l : Ledger) (p : Plan) : Ledger × Option Fault × List Log.Line :=
  match runActs l p.acts with
  | (l, some f, log) => (l, some f, log)
  | (l, none, log) => (l, p.fault, log)

end Plan

namespace Synthesis

def addressTtl : Json := .int 60
def aliasTtl : Json := .int 300

def defaultGeo : Json := .str "default"
def anywhere : Json := .str "*"
def geoLabel : String := "kuadrant.io/lb-attribute-geo-code"
def weightAttribute : Json := .str "weight"
def geoAttribute : Json := .str "geo-code"
def balancerLabel : String := "klb"

def texts (ss : List String) : Json := .arr (ss.map fun (s : String) => .str s)

-- The hostname holds the addresses themselves.
def simplePlan (g : Gateway) (hostname : Json) : Plan :=
  let addresses :=
    if g.ips.isEmpty then []
    else [.emit ⟨hostname, texts g.ips, .a, .str "", addressTtl⟩ []]
  let aliases :=
    if g.hostnames.isEmpty then []
    else [.emit ⟨hostname, texts g.hostnames, .cname, .str "", addressTtl⟩ []]
  ⟨addresses ++ aliases, none⟩

def balancerName (base : String) : String := Text.lower (balancerLabel ++ "." ++ base)

-- Only an object has labels to ask for.
def geoCode : Json → Except Fault Json
  | .obj labels => .ok ((Json.field? geoLabel labels).getD defaultGeo)
  | _ => .error .noMember

def geoName (geo : Json) (balancer : String) : LooseText :=
  (geo.display ++ "." ++ balancer).mapRuns Text.lower

-- The text that stands for a gateway in its cluster.
def gatewayText (g : Gateway) : LooseText := g.name.display ++ "-" ++ g.space.display

def clusterName (p : Policy) (g : Gateway) (balancer : String) : Except Fault String :=
  match p.clusterId with
  | .str id =>
    match ShortCode.ofText ShortCode.usualLength id with
    | .error f => .error f
    | .ok cluster =>
      match ShortCode.ofText ShortCode.usualLength (gatewayText g) with
      | .error f => .error f
      | .ok gateway => .ok (Text.lower (cluster ++ "-" ++ gateway ++ "." ++ balancer))
  | _ => .error .noMember

-- The gateway's own name, with its IP addresses, if it has any.
def clusterActs (p : Policy) (g : Gateway) (balancer : String) :
    Except Fault (List String × List Act) :=
  if g.ips.isEmpty then .ok ([], [])
  else
    match clusterName p g balancer with
    | .error f => .error f
    | .ok name => .ok ([name], [.emit ⟨.str name, texts g.ips, .a, .str "", addressTtl⟩ []])

def weightActs (geoName : LooseText) (weight : Json) (targets : List String) : List Act :=
  targets.map fun t =>
    .emit ⟨.str geoName, texts [t], .cname, .str t, addressTtl⟩
      [(weightAttribute, .str weight.display)]

-- A gateway without the label does not advertise a geography.
def geoActs (p : Policy) (geo : Json) (balancer : String) (geoName : LooseText) : List Act :=
  let own := if geo.equals defaultGeo then [] else [(geoAttribute, geo)]
  let fallback : List Act :=
    if geo.equals p.defaultGeo then
      [.emit ⟨.str balancer, .arr [.str geoName], .cname, defaultGeo, aliasTtl⟩
        [(geoAttribute, anywhere)]]
    else []
  .emit ⟨.str balancer, .arr [.str geoName], .cname, geo, aliasTtl⟩ own :: fallback

def entryAct (hostname : Json) (balancer : String) : Act :=
  .emit ⟨hostname, texts [balancer], .cname, .str "", aliasTtl⟩ []

def unreachedLine (g : Gateway) : Log.Line :=
  ⟨.debug, .tree,
    s!"Gateway {g.space.shown}/{g.name.shown} has no addresses"⟩

def treeActs (p : Policy) (g : Gateway) (hostname : Json) (balancer : String) (geo : Json)
    (targets : List String) : Plan :=
  let (weight, log) := Weight.resolve p g.labels
  match weight with
  | .error f => ⟨log.map .note, some f⟩
  | .ok weight =>
    let name := geoName geo balancer
    ⟨log.map .note ++ weightActs name weight targets ++ geoActs p geo balancer name ++
      [entryAct hostname balancer], none⟩

-- The hostname leads to the name of the balancer, from there by geography, and from there by weight to
-- the gateway's own name or its hostnames.
-- `base` is the hostname without a leading wildcard.
def balancedPlan (p : Policy) (g : Gateway) (hostname : Json) (base : String) : Plan :=
  let balancer := balancerName base
  match geoCode g.labels with
  | .error f => ⟨[], some f⟩
  | .ok geo =>
    match clusterActs p g balancer with
    | .error f => ⟨[], some f⟩
    | .ok (own, acts) =>
      let targets := g.hostnames ++ own
      if targets.isEmpty then ⟨[.note (unreachedLine g)], none⟩
      else
        let tree := treeActs p g hostname balancer geo targets
        ⟨acts ++ tree.acts, tree.fault⟩

def plan (p : Policy) (g : Gateway) (hostname : Json) (base : String) : Plan :=
  if p.isSimple then simplePlan g hostname
  else if p.isBalanced then balancedPlan p g hostname base
  else ⟨[], some (.unknownStrategy p.strategy.shown)⟩

-- The hostname without a leading wildcard, where something is left.
def listenerBase (hostname : Json) : Except Fault String :=
  if !hostname.truthy then .error .hostnameMissing
  else
    match Hostname.base hostname with
    | .error f => .error f
    | .ok base => if base.isEmpty then .error .hostnameMissing else .ok base

def orderedIds (records : List Record) (ids : List Nat) : Except Fault (List Nat) :=
  let numbered := ids.filterMap fun id => (records[id]?).map fun r => (id, r)
  match Order.sort? (fun x => x.2.isOrderly) (fun x y => x.2.less? y.2) numbered with
  | some sorted => .ok (sorted.map (·.1))
  | none => .error .wrongKind

def summaryLine (count : Nat) (hostname : Json) (p : Policy) : Log.Line :=
  ⟨.debug, .synthesis,
    s!"Generated {count} records for {hostname.shown} using {p.strategy.shown} strategy"⟩

-- What a run leaves: all records with what it did to them, and the numbers of those to publish.
structure Outcome where
  records : List Record
  published : Except Fault (List Nat)
  log : List Log.Line

def carryOut (l : Ledger) (plan : Plan) (hostname : Json) (p : Policy) : Outcome :=
  match plan.run l with
  | (l, some f, log) => ⟨l.records, .error f, log⟩
  | (l, none, log) =>
    ⟨l.records, orderedIds l.records l.emittedIds,
      log ++ [summaryLine l.emittedIds.length hostname p]⟩

-- `current` numbers the records published before, if that is known.
def publish (g : Gateway) (hostname : Json) (p : Policy) (records : List Record)
    (current : Option (List Nat)) : Outcome :=
  match listenerBase hostname with
  | .error f => ⟨records, .error f, []⟩
  | .ok base =>
    match current with
    | none => ⟨records, .error .currentMissing, []⟩
    | some current =>
      match p.refusal? with
      | some f => ⟨records, .error (.policy f), []⟩
      | none =>
        match Ledger.opening records current with
        | .error f => ⟨records, .error f, []⟩
        | .ok l => carryOut l (plan p g hostname base) hostname p

end Synthesis
end DnsSteering
