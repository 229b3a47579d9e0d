import DnsSteering.Json.Display

namespace DnsSteering

namespace Log

inductive Level where
  | debug
  | info
  | warning
  | error
  | critical
  deriving DecidableEq, Repr

namespace Level

def rank : Level → Nat
  | .debug => 10
  | .info => 20
  | .warning => 30
  | .error => 40
  | .critical => 50

def text : Level → String
  | .debug => "DEBUG"
  | .info => "INFO"
  | .warning => "WARNING"
  | .error => "ERROR"
  | .critical => "CRITICAL"

end Level

-- The part of the program that logs.
inductive Origin where
  | document
  | hostname
  | gateway
  | rules
  | policy
  | current
  | weight
  | ledger
  | tree
  | synthesis
  | run
  deriving DecidableEq, Repr

def Origin.text : Origin → String
  | .document => "endpoints_config_factory._load_json"
  | .hostname => "endpoints_config_factory._make_hostname"
  | .gateway => "endpoints_config_factory._make_gateway"
  | .rules => "endpoints_config_factory._make_custom_weights"
  | .policy => "endpoints_config_factory._make_routing"
  | .current => "endpoints_config_factory._make_current_records"
  | .weight => "weight.resolve_weight"
  | .ledger => "record_merger.create_or_update"
  | .tree => "endpoints._load_balanced_endpoints"
  | .synthesis => "endpoints.generate_endpoints"
  | .run => "main._main"

structure Line where
  level : Level
  origin : Origin
  message : String
  deriving DecidableEq, Repr

def Line.text (l : Line) : String := s!"{l.level.text} - {l.origin.text} - {l.message}"

-- The lines that a reader of a level sees.
def visible (level : Level) (log : List Line) : List Line :=
  log.filter fun l => level.rank ≤ l.level.rank

-- A value where a message counts: whole numbers, others toward zero. What cannot be counted drops
-- the line it should stand in.
def count? : Json → Option String
  | .bool b => some (if b then "1" else "0")
  | .int n => some (toString n)
  | .float x => x.truncate?.map toString
  | _ => none

end Log
end DnsSteering
