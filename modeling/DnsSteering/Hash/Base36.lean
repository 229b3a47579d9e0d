namespace DnsSteering.Base36

def digit (d : Nat) : Char := if d < 10 then Char.ofNat (48 + d) else Char.ofNat (87 + d)

def digitValue (c : Char) : Nat := if c.isDigit then c.toNat - 48 else c.toNat - 87

-- Most significant digit first, none for zero.
def digits (n : Nat) : List Char :=
  if n = 0 then [] else digits (n / 36) ++ [digit (n % 36)]
termination_by n

def ofDigits (ds : List Char) : Nat := ds.foldl (fun n d => 36 * n + digitValue d) 0

def number (bytes : List UInt8) : Nat := bytes.foldl (fun n b => 256 * n + b.toNat) 0

-- Most significant byte first, none for zero.
def bytes (n : Nat) : List UInt8 :=
  if n = 0 then [] else bytes (n / 256) ++ [UInt8.ofNat (n % 256)]
termination_by n

def leadingZeros (raw : List UInt8) : Nat := (raw.takeWhile (· = 0)).length

-- A byte string is one number, most significant byte first. Leading zero bytes, which the number forgets,
-- are kept as zeros.
def encode (raw : List UInt8) : List Char :=
  List.replicate (leadingZeros raw) '0' ++ digits (number raw)

def decode (text : List Char) : List UInt8 :=
  (text.takeWhile (· = '0')).map (fun _ => 0) ++ bytes (ofDigits (text.dropWhile (· = '0')))

end DnsSteering.Base36
