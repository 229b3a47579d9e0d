import DnsSteering.Selector.Basic

namespace DnsSteering

-- `values` as they were listed.
structure Requirement where
  key : LooseText
  operator : Operator
  values : List LooseText
  deriving DecidableEq, Repr

def Json.text? : Json → Option LooseText
  | .str t => some t
  | _ => none

-- All items, provided that each is a text.
def Json.texts? : List Json → Option (List LooseText)
  | [] => some []
  | v :: vs =>
    match v.text?, Json.texts? vs with
    | some t, some ts => some (t :: ts)
    | _, _ => none

namespace Requirement

-- Values are a list of texts; what counts as absent, other than a text or an object, is an empty
-- list.
def values? : Json → Option (List LooseText)
  | .str _ => none
  | .obj _ => none
  | .arr items => Json.texts? items
  | v => if v.truthy then none else some []

def operatorFits (key : LooseText) (o : Operator) (values : List LooseText) :
    Except SelectorFault Unit :=
  match o with
  | .isIn | .notIn => if values.isEmpty then .error (.valuesMissing key.shown o.text) else .ok ()
  | .present | .absent => if values.isEmpty then .ok () else .error (.valuesForbidden key.shown o.text)

def compile (key operator values : Json) : Except SelectorFault Requirement :=
  match key with
  | .str key =>
    if key = "" then .error .emptyKey
    else
      match Operator.ofJson? operator with
      | none => .error (.unknownOperator operator.shown)
      | some o =>
        match values? values with
        | none => .error (.valuesNoTexts key.shown)
        | some values =>
          match operatorFits key o values with
          | .error f => .error f
          | .ok _ => .ok ⟨key, o, values⟩
  | _ => .error .emptyKey

-- A pair asks for its very value.
def ofPair (pair : LooseText × Json) : Except SelectorFault Requirement :=
  compile (.str pair.1) (.str Operator.isIn.text) (.arr [pair.2])

def ofExpression : Expression → Except SelectorFault Requirement
  | .requirement key operator values => compile key operator values
  | .other v => .error (.noRequirement v.shown)

def compileAll {α : Type} (f : α → Except SelectorFault Requirement) :
    List α → Except SelectorFault (List Requirement)
  | [] => .ok []
  | x :: xs =>
    match f x with
    | .error e => .error e
    | .ok r => (compileAll f xs).map (r :: ·)

def hasPart (part : List LooseText.Letter) : List LooseText.Letter → Bool
  | [] => part.isEmpty
  | l :: ls => part.isPrefixOf (l :: ls) || hasPart part ls

-- Whether labels hold a key. Labels are an object as a rule; a list holds its items and a text its
-- parts, but neither has anything under a key.
def holds (key : LooseText) : Json → Except Fault Bool
  | .obj fields => .ok (Json.field? key fields).isSome
  | .arr items => .ok (items.any fun item => item.same (.str key))
  | .str t => .ok (hasPart key.letters t.letters)
  | _ => .error .wrongKind

def valueAt (key : LooseText) : Json → Except Fault Json
  | .obj fields =>
    match Json.field? key fields with
    | some v => .ok v
    | none => .error (.keyMissing (Text.quoted key))
  | _ => .error .wrongKind

-- A value that is a list or an object cannot be looked for.
def lists (values : List LooseText) (v : Json) : Except Fault Bool :=
  if v.canIdentify then .ok (values.any fun t => v = .str t) else .error .wrongKind

def isListed (r : Requirement) (labels : Json) : Except Fault Bool :=
  match valueAt r.key labels with
  | .error f => .error f
  | .ok v => lists r.values v

def test (r : Requirement) (labels : Json) : Except Fault Bool :=
  match holds r.key labels with
  | .error f => .error f
  | .ok held =>
    match r.operator with
    | .isIn => if held then isListed r labels else .ok false
    | .notIn => if held then (isListed r labels).map (!·) else .ok true
    | .present => .ok held
    | .absent => .ok !held

-- The first requirement that fails, or cannot be tested, decides.
def testAll : List Requirement → Json → Except Fault Bool
  | [], _ => .ok true
  | r :: rs, labels =>
    match r.test labels with
    | .error f => .error f
    | .ok false => .ok false
    | .ok true => testAll rs labels

end Requirement

namespace Selector

def pairs : Json → Except SelectorFault (List (LooseText × Json))
  | .null => .ok []
  | .obj fields => .ok fields
  | v => .error (.labelsNoMapping v.shown)

def expressionList : Expressions → Except SelectorFault (List Expression)
  | .none => .ok []
  | .listed items => .ok items
  | .other v => .error (.expressionsNoList v.shown)

def compile (s : Selector) : Except SelectorFault (List Requirement) :=
  match pairs s.labels with
  | .error f => .error f
  | .ok pairs =>
    match expressionList s.expressions with
    | .error f => .error f
    | .ok expressions =>
      match Requirement.compileAll Requirement.ofPair pairs with
      | .error f => .error f
      | .ok fromPairs =>
        match Requirement.compileAll Requirement.ofExpression expressions with
        | .error f => .error f
        | .ok fromExpressions => .ok (fromPairs ++ fromExpressions)

-- All pairs and expressions are compiled before any requirement is tested, so a malformed selector is
-- refused whatever the labels are.
def matchLabels (s : Selector) (labels : Json) : Except Fault Bool :=
  match s.compile with
  | .error f => .error (.value (.selector f))
  | .ok requirements => Requirement.testAll requirements labels

end Selector
end DnsSteering
