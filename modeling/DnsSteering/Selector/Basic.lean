import DnsSteering.Fault
import DnsSteering.Json.Display

namespace DnsSteering

inductive Operator where
  | isIn
  | notIn
  | present
  | absent
  deriving DecidableEq, Repr

namespace Operator

def text : Operator → String
  | .isIn => "In"
  | .notIn => "NotIn"
  | .present => "Exists"
  | .absent => "DoesNotExist"

def all : List Operator := [.isIn, .notIn, .present, .absent]

def ofJson? : Json → Option Operator
  | .str t => all.find? fun o => o.text = t
  | _ => none

end Operator

-- A requirement as given, or something else in its place.
inductive Expression where
  | requirement (key operator values : Json)
  | other (v : Json)
  deriving DecidableEq, Repr

inductive Expressions where
  | none
  | listed (items : List Expression)
  | other (v : Json)
  deriving DecidableEq, Repr

-- Anything may stand in a selector; whether it makes sense is found out when it is compiled.
-- `labels` is `null` where no pairs are given.
structure Selector where
  labels : Json
  expressions : Expressions
  deriving DecidableEq, Repr

def Selector.isEmpty (s : Selector) : Bool := s.labels = .null && s.expressions = .none

end DnsSteering
