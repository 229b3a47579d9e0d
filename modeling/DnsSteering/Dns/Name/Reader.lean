import DnsSteering.Dns.Name
import DnsSteering.Fault
import DnsSteering.International.Label
import DnsSteering.Json.Basic

namespace DnsSteering.Name

def isDot (c : Char) : Bool := c = '.' || c = '。' || c = '．' || c = '｡'

-- Why reading ends early: a fault that is met, or an escape that the end cuts off.
inductive Stop where
  | met (fault : NameFault)
  | cut
  deriving DecidableEq, Repr

def Stop.fault : Stop → NameFault
  | .met fault => fault
  | .cut => .badEscape

-- A byte by the three digits of its number.
def byNumber (c d e : Char) : Except NameFault Char :=
  if !(d.isDigit && e.isDigit) then .error .badEscape
  else
    let n := 100 * (c.toNat - 48) + 10 * (d.toNat - 48) + (e.toNat - 48)
    if 255 < n then .error .badEscape else .ok (Char.ofNat n)

-- `close` makes the bytes of a complete label; `label` is the one being read, last character first.
def readLabels (close : List Char → Except NameFault Label) (label : List Char) :
    List Char → Except Stop (List Label)
  | [] =>
    if label.isEmpty then .ok []
    else
      match close label.reverse with
      | .error f => .error (.met f)
      | .ok l => .ok [l]
  | ['\\'] => .error .cut
  | '\\' :: c :: rest =>
    if c.isDigit then
      match rest with
      | d :: e :: rest =>
        match byNumber c d e with
        | .error f => .error (.met f)
        | .ok byte => readLabels close (byte :: label) rest
      | [d] => .error (if d.isDigit then .cut else .met .badEscape)
      | [] => .error .cut
    else readLabels close (c :: label) rest
  | c :: rest =>
    if isDot c then
      if label.isEmpty then .error (.met .emptyLabel)
      else
        match close label.reverse with
        | .error f => .error (.met f)
        | .ok l => (readLabels close [] rest).map fun ls => l :: ls
    else readLabels close (c :: label) rest

def plainLabel (cs : List Char) : Except NameFault Label :=
  .ok (cs.map fun c => UInt8.ofNat c.toNat)

def internationalLabel (cs : List Char) : Except NameFault Label :=
  match International.asciiLabel? cs with
  | some l => plainLabel l
  | none => .error .labelTooLong

def check (ls : List Label) : Except NameFault Name :=
  if ls.any fun l => 63 < l.length then .error .labelTooLong
  else if 255 < (Name.mk ls).wireLength then .error .nameTooLong
  else .ok ⟨ls⟩

def isAscii (cs : List Char) : Bool := cs.all fun c => c.toNat < 128

-- Every name is meant from the root, with or without a dot at its end. In a text with characters outside
-- ASCII each label is brought to its ASCII form as soon as it is complete; otherwise bytes are taken as
-- they are. The number of a byte is given in ASCII digits, and no other digits are read as one.
def ofChars (cs : List Char) : Except NameFault Name :=
  if cs = ['@'] then .ok root
  else
    match cs with
    | [c] => if isDot c then .ok root else rest
    | _ => rest
where
  rest : Except NameFault Name :=
    match readLabels (if isAscii cs then plainLabel else internationalLabel) [] cs with
    | .error stop => .error stop.fault
    | .ok ls => check ls

def read (s : String) : Except NameFault Name := ofChars s.toList

-- A byte of a name that is given by numbers.
def byteOf (v : Json) : Except ByteFault UInt8 :=
  let ofInt (n : Int) : Except ByteFault UInt8 :=
    if n < -0x8000000000000000 || 0x8000000000000000 ≤ n then .error .farOutside
    else if n < 0 || 255 < n then .error .outside
    else .ok (UInt8.ofNat n.toNat)
  match v with
  | .bool b => ofInt (if b then 1 else 0)
  | .int n => ofInt n
  | _ => .error .noNumber

-- Bytes up to the first value that is none.
def leadingBytes : List Json → List UInt8 × Option ByteFault
  | [] => ([], none)
  | v :: vs =>
    match byteOf v with
    | .error f => ([], some f)
    | .ok b =>
      let (bytes, fault) := leadingBytes vs
      (b :: bytes, fault)

-- Values are read one by one, so a fault of the name comes before that of a later value.
def ofValues (vs : List Json) : Except Fault Name :=
  let (bytes, fault) := leadingBytes vs
  match readLabels plainLabel [] (bytes.map fun b => Char.ofNat b.toNat), fault with
  | .error (.met f), _ => .error (.name f)
  | _, some f => .error (.byte f)
  | .error .cut, none => .error (.name .badEscape)
  | .ok ls, none =>
    match check ls with
    | .error f => .error (.name f)
    | .ok name => .ok name

-- A name as a text or as its bytes. Nothing at all names the root.
def ofJson (v : Json) : Except Fault Name :=
  match v with
  | .str t =>
    match read t.mended with
    | .error f => .error (.name f)
    | .ok name => .ok name
  | v =>
    match v.items? with
    | some vs => ofValues vs
    | none => if v.truthy then .error .wrongKind else .ok root

end DnsSteering.Name
