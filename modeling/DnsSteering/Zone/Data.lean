import DnsSteering.Address.Ipv4
import DnsSteering.Dns.Name.Reader
import DnsSteering.Dns.RecordType
import DnsSteering.Zone.Token

namespace DnsSteering.Zone

-- What is read is written back in its canonical form. The generic form of data, which a token `\#`
-- announces, is not known here, and an escaped number is read in ASCII digits only.
inductive Data where
  | address (octets : List Nat)
  | alias (name : Name)
  deriving DecidableEq, Repr

namespace Data

def text : Data → List Char
  | .address octets => Ipv4.text octets
  | .alias name => name.text

-- A character by the three digits of its number.
def byNumber (c d e : Char) : Except ZoneFault Char :=
  if !(d.isDigit && e.isDigit) then .error .malformed
  else
    let n := 100 * (c.toNat - 48) + 10 * (d.toNat - 48) + (e.toNat - 48)
    if 255 < n then .error .malformed else .ok (Char.ofNat n)

-- Resolves the backslashes of an identifier.
def unescape : List Char → Except ZoneFault (List Char)
  | [] => .ok []
  | ['\\'] => .error .textEnded
  | '\\' :: c :: cs =>
    if c.isDigit then
      match cs with
      | d :: e :: cs =>
        match byNumber c d e with
        | .error f => .error f
        | .ok b => (unescape cs).map (b :: ·)
      | _ => .error .textEnded
    else (unescape cs).map (c :: ·)
  | c :: cs => (unescape cs).map (c :: ·)

def readAddress (value : List Char) : Except ZoneFault Data :=
  match unescape value with
  | .error f => .error f
  | .ok cs =>
    match Ipv4.octets? cs with
    | some octets => .ok (.address octets)
    | none => .error .malformed

def readAlias (value : List Char) : Except ZoneFault Data :=
  match Name.ofChars value with
  | .error f => .error (.name f)
  | .ok name => .ok (.alias name)

-- Addresses and aliases only.
def readValue (type : RecordType) (value : List Char) : Except ZoneFault Data :=
  if type = RecordType.a then readAddress value
  else if type = RecordType.cname then readAlias value
  else .error .malformed

-- What is said of a quoted token, which is never data. For an address its backslashes are resolved
-- first, and may be at fault themselves.
def quotedFault (type : RecordType) (value : List Char) : ZoneFault :=
  if type = RecordType.a then
    match unescape value with
    | .error f => f
    | .ok _ => .noIdentifier
  else .noIdentifier

-- One identifier, and then the end of the entry.
def read (type : RecordType) (cs : List Char) : Except ZoneFault Data :=
  match Token.next false 0 cs with
  | .error f => .error f
  | .ok found =>
    match found.token with
    | .identifier value =>
      match readValue type value with
      | .error f => .error f
      | .ok data => (Token.expectEnd found.depth found.rest).map fun _ => data
    | .quoted value => .error (quotedFault type value)
    | .finish => .error .noIdentifier

end Data
end DnsSteering.Zone
