import DnsSteering.Address.Ipv6
import DnsSteering.Dns.Hostname
import DnsSteering.Json.Display

namespace DnsSteering

def Ip.emptyText : String := "It cannot be empty"
def Ip.invalidText : String := "It must be a valid IPv4 or IPv6 address"

def Ip.refusal? (s : String) : Option String :=
  if s.isEmpty then some Ip.emptyText
  else if Ipv4.isValid s.toList || Ipv6.isValid s.toList then none
  else some Ip.invalidText

-- What is no text is no IP address either.
def Ip.check (v : Json) : Option String :=
  match v with
  | .str t => Ip.refusal? t.mended
  | v => if v.truthy then some Ip.invalidText else some Ip.emptyText

inductive AddressKind where
  | ip
  | hostname
  deriving DecidableEq, Repr

namespace AddressKind

def text : AddressKind → String
  | .ip => "IPAddress"
  | .hostname => "Hostname"

def ofJson? : Json → Option AddressKind
  | .str t => if t = "IPAddress" then some .ip else if t = "Hostname" then some .hostname else none
  | _ => none

-- Why a text is no address of a kind.
def refusal? : AddressKind → String → Option String
  | .ip => Ip.refusal?
  | .hostname => Hostname.refusal? false

end AddressKind

-- An address is made of a text that passes the check of its kind, and of nothing else.
structure Address where
  kind : AddressKind
  value : String
  accepted : kind.refusal? value = none
  deriving DecidableEq

namespace Address

def isIp (a : Address) : Bool := a.kind = .ip

def describe (a : Address) : String :=
  s!"GatewayAddress(address_type={a.kind.text}, value='{a.value}')"

def ofText (kind : AddressKind) (t : LooseText) : Except Fault Address :=
  if h : kind.refusal? t.mended = none then .ok ⟨kind, t.mended, h⟩
  else
    let reason := (kind.refusal? t.mended).getD ""
    match kind with
    | .ip => .error (.value (.badIp t.shown reason))
    | .hostname => .error (.value (.badHostname t.shown reason))

def ofJson (kind value : Json) : Except Fault Address :=
  match AddressKind.ofJson? kind with
  | none => .error (.value (.addressKind kind.quoted))
  | some kind =>
    match value with
    | .str t => ofText kind t
    | value =>
      match kind with
      | .ip => .error (.value (.badIp value.shown ((Ip.check value).getD "")))
      | .hostname =>
        match Hostname.check false value with
        | .error f => .error f
        | .ok reason => .error (.value (.badHostname value.shown (reason.getD "")))

end Address
end DnsSteering
