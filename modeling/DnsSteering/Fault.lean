import DnsSteering.Text.Loose

namespace DnsSteering

-- Why a text is no domain name.
inductive NameFault where
  | emptyLabel
  | labelTooLong
  | nameTooLong
  | badEscape
  deriving DecidableEq, Repr

def NameFault.message : NameFault → String
  | .emptyLabel => "A DNS label is empty."
  | .labelTooLong => "A DNS label is > 63 octets long."
  | .nameTooLong => "A DNS name is > 255 octets long."
  | .badEscape => "An escaped code in a text format of DNS name is invalid."

-- Why a value is no byte.
inductive ByteFault where
  | noNumber
  | outside
  | farOutside
  deriving DecidableEq, Repr

def ByteFault.message : ByteFault → String
  | .noNumber => "required argument is not an integer"
  | .outside => "ubyte format requires 0 <= number <= 255"
  | .farOutside => "argument out of range"

-- Why a text is no record data of a zone. `kind` numbers the kind of the token that is left over.
inductive ZoneFault where
  | malformed
  | noIdentifier
  | leftOver (kind : Nat) (token : String)
  | unbalanced
  | lineInQuotes
  | textEnded
  | name (fault : NameFault)
  deriving DecidableEq, Repr

def ZoneFault.message : ZoneFault → String
  | .malformed => "Text input is malformed."
  | .noIdentifier => "expecting an identifier"
  | .leftOver kind token => s!"expected EOL or EOF, got {kind} \"{token}\""
  | .unbalanced => "unbalanced parentheses"
  | .lineInQuotes => "newline in quoted string"
  | .textEnded => "Text input ended unexpectedly."
  | .name fault => fault.message

-- The first half that stands alone in a text, where it stands and how many follow it at once: such a text
-- has no form in UTF-8.
structure EncodingFault where
  half : Surrogate
  position : Nat
  more : Nat
  deriving DecidableEq, Repr

def EncodingFault.message (f : EncodingFault) : String :=
  let place :=
    if f.more = 0 then
      s!"character '\\u" ++ String.ofList (Text.hexDigits 4 f.half.point) ++ s!"' in position {f.position}"
    else s!"characters in position {f.position}-{f.position + f.more}"
  s!"'utf-8' codec can't encode " ++ place ++ ": surrogates not allowed"

-- Why a policy is refused.
inductive PolicyFault where
  | noClusterId
  | noDefaultWeight
  | noDefaultGeo
  | zeroWeight
  | emptySelector
  deriving DecidableEq, Repr

def PolicyFault.message : PolicyFault → String
  | .noClusterId => "cluster ID is required"
  | .noDefaultWeight => "default weight is required"
  | .noDefaultGeo => "default geocode is required"
  | .zeroWeight => "custom weight cannot be zero"
  | .emptySelector => "custom weight must define non-empty selector"

-- Why a selector is malformed. Values stand here as messages show them.
inductive SelectorFault where
  | labelsNoMapping (shown : String)
  | expressionsNoList (shown : String)
  | noRequirement (shown : String)
  | emptyKey
  | unknownOperator (shown : String)
  | valuesNoTexts (key : String)
  | valuesMissing (key operator : String)
  | valuesForbidden (key operator : String)
  deriving DecidableEq, Repr

def SelectorFault.message : SelectorFault → String
  | .labelsNoMapping shown => s!"Match labels '{shown}' must be a mapping"
  | .expressionsNoList shown => s!"Match expressions '{shown}' must be a list"
  | .noRequirement shown => s!"'{shown}' is not a label selector requirement"
  | .emptyKey => "Selector requirement key cannot be empty"
  | .unknownOperator shown => s!"'{shown}' is not a valid label selector operator"
  | .valuesNoTexts key => s!"Values for '{key}' must be a list of strings"
  | .valuesMissing key operator => s!"Values for '{key}' must be non-empty with operator {operator}"
  | .valuesForbidden key operator => s!"Values for '{key}' must be empty with operator {operator}"

-- A value that cannot be used although its kind is right.
inductive ValueFault where
  | addressKind (quoted : String)
  | badIp (shown reason : String)
  | badHostname (shown reason : String)
  | selector (fault : SelectorFault)
  | integer (quoted : String)
  | integerOfNothing
  | pairLength (index length : Nat)
  | fieldMissing (quoted : String)
  | unknownRecordType (shown : String)
  | recordTypeTooLarge
  | targetNoText
  | other (message : String)
  deriving DecidableEq, Repr

def ValueFault.message : ValueFault → String
  | .addressKind quoted => quoted ++ " is not a valid AddressType"
  | .badIp shown reason => s!"Invalid IP address '{shown}': {reason}"
  | .badHostname shown reason => s!"Invalid hostname '{shown}': {reason}"
  | .selector fault => fault.message
  | .integer quoted => "invalid literal for int() with base 10: " ++ quoted
  | .integerOfNothing => "cannot convert float NaN to integer"
  | .pairLength index length =>
    s!"dictionary update sequence element #{index} has length {length}; 2 is required"
  | .fieldMissing quoted => "Missing record field " ++ quoted
  | .unknownRecordType shown => s!"Unknown record type '{shown}'"
  | .recordTypeTooLarge => "type must be an int between >= 0 and <= 65535"
  | .targetNoText => "tok must be a string or a Tokenizer"
  | .other message => message

-- What can go wrong, by cause. Where a value is of the wrong kind nothing more is said, so the two faults
-- of that sort have no message.
inductive Fault where
  | hostnameMissing
  | currentMissing
  | unknownStrategy (shown : String)
  | policy (fault : PolicyFault)
  | name (fault : NameFault)
  | byte (fault : ByteFault)
  | zone (fault : ZoneFault)
  | unknownRecordType
  | value (fault : ValueFault)
  | encoding (fault : EncodingFault)
  | keyMissing (quoted : String)
  | integerInfinite
  | wrongKind
  | noMember
  deriving DecidableEq, Repr

namespace Fault

def message : Fault → String
  | .hostnameMissing => "listener hostname is empty"
  | .currentMissing => "require current endpoints"
  | .unknownStrategy shown => "unknown routing strategy : " ++ shown
  | .policy fault => fault.message
  | .name fault => fault.message
  | .byte fault => fault.message
  | .zone fault => fault.message
  | .unknownRecordType => "DNS resource record type is unknown."
  | .value fault => fault.message
  | .encoding fault => fault.message
  | .keyMissing quoted => quoted
  | .integerInfinite => "cannot convert float infinity to integer"
  | .wrongKind => "<TypeError>"
  | .noMember => "<AttributeError>"

-- Refusals of the synthesis itself, as opposed to those of the parts it uses.
def isRefusal : Fault → Bool
  | .hostnameMissing => true
  | .currentMissing => true
  | .unknownStrategy _ => true
  | .policy _ => true
  | _ => false

-- Whether the value is at fault and not its kind. Refusals count as such.
def isValue : Fault → Bool
  | .value _ => true
  | .encoding _ => true
  | f => f.isRefusal

end Fault

-- What comes of parts that may each fail comes of parts that did not.
theorem ok_of_map {ε α β : Type} {f : α → β} {x : Except ε α} {b : β} (done : x.map f = .ok b) :
    ∃ a, x = .ok a ∧ f a = b := by
  cases x with
  | error e => cases done
  | ok a => exact ⟨a, rfl, Except.ok.inj done⟩

theorem ok_of_bind {ε α β : Type} {x : Except ε α} {f : α → Except ε β} {b : β}
    (done : x >>= f = .ok b) : ∃ a, x = .ok a ∧ f a = .ok b := by
  cases x with
  | error e => cases done
  | ok a => exact ⟨a, rfl, done⟩

-- Values are gone through up to one that stops it: that is the first, or it is passed and one behind
-- it stops.
theorem stops_cons {α : Type} {passed stopping : α → Prop} {x : α} {xs : List α} :
    (∃ before y after, x :: xs = before ++ y :: after ∧ (∀ z ∈ before, passed z) ∧ stopping y) ↔
      stopping x ∨ (passed x ∧
        ∃ before y after, xs = before ++ y :: after ∧ (∀ z ∈ before, passed z) ∧ stopping y) := by
  constructor
  · rintro ⟨before, y, after, split, readable, stops⟩
    cases before with
    | nil =>
      cases split
      exact .inl stops
    | cons z before =>
      obtain ⟨rfl, rest⟩ := List.cons.inj split
      obtain ⟨first, later⟩ := List.forall_mem_cons.mp readable
      exact .inr ⟨first, before, y, after, rest, later, stops⟩
  · rintro (stops | ⟨first, before, y, after, rfl, readable, stops⟩)
    · exact ⟨[], x, xs, rfl, by simp, stops⟩
    · exact ⟨x :: before, y, after, rfl, List.forall_mem_cons.mpr ⟨first, readable⟩, stops⟩

end DnsSteering
