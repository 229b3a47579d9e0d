import DnsSteering.Fault

namespace DnsSteering

-- Many types have a name. Every one can also be written as the word TYPE and its number, in ASCII digits,
-- and those without a name are printed so. Which numbers have names is taken from their registry.
structure RecordType where
  code : Fin 65536
  deriving DecidableEq, Repr

namespace RecordType

def a : RecordType := ⟨1⟩
def cname : RecordType := ⟨5⟩

-- Names as they are printed.
def names : List (String × Nat) := [
  ("TYPE0", 0), ("A", 1), ("NS", 2), ("MD", 3), ("MF", 4), ("CNAME", 5), ("SOA", 6), ("MB", 7),
  ("MG", 8), ("MR", 9), ("NULL", 10), ("WKS", 11), ("PTR", 12), ("HINFO", 13), ("MINFO", 14),
  ("MX", 15), ("TXT", 16), ("RP", 17), ("AFSDB", 18), ("X25", 19), ("ISDN", 20), ("RT", 21),
  ("NSAP", 22), ("NSAP-PTR", 23), ("SIG", 24), ("KEY", 25), ("PX", 26), ("GPOS", 27),
  ("AAAA", 28), ("LOC", 29), ("NXT", 30), ("SRV", 33), ("NAPTR", 35), ("KX", 36), ("CERT", 37),
  ("A6", 38), ("DNAME", 39), ("OPT", 41), ("APL", 42), ("DS", 43), ("SSHFP", 44),
  ("IPSECKEY", 45), ("RRSIG", 46), ("NSEC", 47), ("DNSKEY", 48), ("DHCID", 49), ("NSEC3", 50),
  ("NSEC3PARAM", 51), ("TLSA", 52), ("SMIMEA", 53), ("HIP", 55), ("NINFO", 56), ("CDS", 59),
  ("CDNSKEY", 60), ("OPENPGPKEY", 61), ("CSYNC", 62), ("ZONEMD", 63), ("SVCB", 64),
  ("HTTPS", 65), ("DSYNC", 66), ("HHIT", 67), ("BRID", 68), ("SPF", 99), ("UNSPEC", 103),
  ("NID", 104), ("L32", 105), ("L64", 106), ("LP", 107), ("EUI48", 108), ("EUI64", 109),
  ("NXNAME", 128), ("TKEY", 249), ("TSIG", 250), ("IXFR", 251), ("AXFR", 252), ("MAILB", 253),
  ("MAILA", 254), ("ANY", 255), ("URI", 256), ("CAA", 257), ("AVC", 258), ("AMTRELAY", 260),
  ("RESINFO", 261), ("WALLET", 262), ("TA", 32768), ("DLV", 32769)]

-- Further names that are read and never printed.
def aliases : List (String × Nat) := [("NONE", 0), ("NSAP_PTR", 23)]

def text (t : RecordType) : String :=
  match names.find? fun entry => entry.2 = t.code.val with
  | some entry => entry.1
  | none => "TYPE" ++ toString t.code.val

-- The capital form of the characters whose capitals are plain letters; all others stay.
def capital (c : Char) : List Char :=
  if c.toNat < 128 then [c.toUpper]
  else if c = 'ß' then ['S', 'S']
  else if c = 'ı' then ['I']
  else if c = 'ſ' then ['S']
  else if c = 'ﬀ' then ['F', 'F']
  else if c = 'ﬁ' then ['F', 'I']
  else if c = 'ﬂ' then ['F', 'L']
  else if c = 'ﬃ' then ['F', 'F', 'I']
  else if c = 'ﬄ' then ['F', 'F', 'L']
  else if c = 'ﬅ' || c = 'ﬆ' then ['S', 'T']
  else [c]

def ofCode (n : Nat) : Except Fault RecordType :=
  if h : n < 65536 then .ok ⟨⟨n, h⟩⟩ else .error (.value .recordTypeTooLarge)

def number (digits : List Char) : Nat := digits.foldl (fun n c => 10 * n + (c.toNat - 48)) 0

-- What stands after the word TYPE.
def ofDigits (digits : List Char) : Except Fault RecordType :=
  if digits.isEmpty || !digits.all Char.isDigit then .error .unknownRecordType
  else ofCode (number digits)

def read (s : String) : Except Fault RecordType :=
  let cs := s.toList.flatMap capital
  match (names ++ aliases).lookup (String.ofList cs) with
  | some n => ofCode n
  | none =>
    match cs with
    | 'T' :: 'Y' :: 'P' :: 'E' :: digits => ofDigits digits
    | _ => .error .unknownRecordType

end RecordType
end DnsSteering
