import DnsSteering.Selector.Requirement

namespace DnsSteering

-- `selector` is missing where none was given.
structure WeightRule where
  weight : Json
  selector : Option Selector
  deriving DecidableEq, Repr

-- How the traffic of a hostname is spread over gateways.
structure Policy where
  strategy : Json := .str ""
  defaultGeo : Json := .str ""
  defaultWeight : Json := .int 0
  rules : List WeightRule := []
  clusterId : Json := .str ""
  deriving DecidableEq, Repr

def WeightRule.refusal? (r : WeightRule) : Option PolicyFault :=
  if r.weight.same (.int 0) then some .zeroWeight
  else
    match r.selector with
    | none => some .emptySelector
    | some s => if s.isEmpty then some .emptySelector else none

namespace Policy

def simpleStrategy : String := "simple"
def balancedStrategy : String := "loadbalanced"

def isSimple (p : Policy) : Bool := p.strategy = .str simpleStrategy
def isBalanced (p : Policy) : Bool := p.strategy = .str balancedStrategy

-- Why a policy is refused. With the simple strategy nothing else matters.
def refusal? (p : Policy) : Option PolicyFault :=
  if p.isSimple then none
  else if !p.clusterId.truthy then some .noClusterId
  else if p.defaultWeight.same (.int 0) then some .noDefaultWeight
  else if !p.defaultGeo.truthy then some .noDefaultGeo
  else p.rules.findSome? WeightRule.refusal?

end Policy

-- A policy in the making.
structure Draft where
  policy : Policy := {}
  deriving DecidableEq, Repr

namespace Draft

inductive Setting where
  | simple
  | balanced (clusterId defaultGeo defaultWeight : Json)
  | rules (rules : List WeightRule)

-- Each setting replaces its own fields; building changes none.
def set (d : Draft) : Setting → Draft
  | .simple => ⟨{ d.policy with strategy := .str Policy.simpleStrategy }⟩
  | .balanced clusterId defaultGeo defaultWeight =>
    ⟨{ d.policy with
      strategy := .str Policy.balancedStrategy, clusterId := clusterId
      defaultGeo := defaultGeo, defaultWeight := defaultWeight }⟩
  | .rules rules => ⟨{ d.policy with rules := rules }⟩

def build (d : Draft) : Except Fault Policy :=
  match d.policy.refusal? with
  | some f => .error (.policy f)
  | none => .ok d.policy

end Draft
end DnsSteering
