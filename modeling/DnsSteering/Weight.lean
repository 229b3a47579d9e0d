import DnsSteering.Log
import DnsSteering.Policy

namespace DnsSteering

-- What a selector says about labels; a rule without one has nothing to ask.
def WeightRule.test (r : WeightRule) (labels : Json) : Except Fault Bool :=
  match r.selector with
  | none => .error .noMember
  | some s => s.matchLabels labels

-- What answers for the selector of a rule. It may remember what it was asked.
abbrev Matcher (σ : Type) := Option Selector → Json → σ → Except Fault Bool × σ

-- Selectors answer for themselves.
def Matcher.selectors : Matcher Unit := fun selector labels _ =>
  match selector with
  | none => (.error .noMember, ())
  | some s => (s.matchLabels labels, ())

namespace Weight

def matchedLine (labels weight : Json) : List Log.Line :=
  match Log.count? weight with
  | some n => [⟨.debug, .weight, s!"Labels {labels.shown} matched custom weight {n}"⟩]
  | none => []

def failedLine (weight fallback : Json) (f : Fault) : List Log.Line :=
  match Log.count? weight, Log.count? fallback with
  | some n, some m =>
    [⟨.warning, .weight,
      s!"Invalid selector in custom weight {n}, using default weight {m}: {f.message}"⟩]
  | _, _ => []

-- Rules in order, each with what its selector says.
def settle (fallback labels : Json) :
    List (WeightRule × Except Fault Bool) → Except Fault Json × List Log.Line
  | [] => (.ok fallback, [])
  | (r, .ok matched) :: rest =>
    if matched then (.ok r.weight, matchedLine labels r.weight) else settle fallback labels rest
  | (r, .error f) :: _ =>
    if f.isValue then (.ok fallback, failedLine r.weight fallback f) else (.error f, [])

-- The weight of the first rule whose selector matches, and the default where none does. A selector that
-- cannot be evaluated ends the search with the default.
def resolve (p : Policy) (labels : Json) : Except Fault Json × List Log.Line :=
  settle p.defaultWeight labels (p.rules.map fun r => (r, r.test labels))

-- Rules are asked in order, up to the first that matches or fails.
def ask {σ : Type} (matcher : Matcher σ) (labels : Json) :
    List WeightRule → σ → List (WeightRule × Except Fault Bool) × σ
  | [], s => ([], s)
  | r :: rules, s =>
    match matcher r.selector labels s with
    | (.ok false, s) =>
      let (rest, s) := ask matcher labels rules s
      ((r, .ok false) :: rest, s)
    | (answer, s) => ([(r, answer)], s)

-- The same search with any matcher in place of the selectors.
def resolveWith {σ : Type} (matcher : Matcher σ) (p : Policy) (labels : Json) (s : σ) :
    (Except Fault Json × List Log.Line) × σ :=
  let (answers, s) := ask matcher labels p.rules s
  (settle p.defaultWeight labels answers, s)

end Weight
end DnsSteering
