import DnsSteering.Json.Basic
import DnsSteering.Text.Hex

namespace DnsSteering.Json

inductive Complaint where
  | value
  | property
  | colon
  | comma
  | extra
  | openString
  | control
  | escape
  | unitEscape
  | byteOrderMark
  deriving DecidableEq, Repr

def Complaint.message : Complaint → String
  | .value => "Expecting value"
  | .property => "Expecting property name enclosed in double quotes"
  | .colon => "Expecting ':' delimiter"
  | .comma => "Expecting ',' delimiter"
  | .extra => "Extra data"
  | .openString => "Unterminated string starting at"
  | .control => "Invalid control character at"
  | .escape => "Invalid \\escape"
  | .unitEscape => "Invalid \\uXXXX escape"
  | .byteOrderMark => "Unexpected UTF-8 BOM (decode using utf-8-sig)"

-- `left` is how many characters are left from the place of the complaint on.
structure Refusal where
  complaint : Complaint
  left : Nat
  deriving DecidableEq, Repr

-- Line and column are counted from one, the position from zero.
def Refusal.message (r : Refusal) (text : List Char) : String :=
  let position := text.length - r.left
  let before := text.take position
  let line := before.count '\n' + 1
  let column := (before.reverse.takeWhile (· ≠ '\n')).length + 1
  s!"{r.complaint.message}: line {line} column {column} (char {position})"

def isSpace (c : Char) : Bool := c = ' ' || c = '\t' || c = '\n' || c = '\r'

def skipSpace (cs : List Char) : List Char := cs.dropWhile isSpace

def unit? (a b c d : Char) : Option Nat :=
  match Text.hexValue? a, Text.hexValue? b, Text.hexValue? c, Text.hexValue? d with
  | some w, some x, some y, some z => some (w * 0x1000 + x * 0x100 + y * 0x10 + z)
  | _, _, _, _ => none

def simpleEscape? (c : Char) : Option Char :=
  if c = '"' || c = '\\' || c = '/' then some c
  else if c = 'n' then some '\n'
  else if c = 't' then some '\t'
  else if c = 'r' then some '\r'
  else if c = 'b' then some '\x08'
  else if c = 'f' then some '\x0c'
  else none

-- The rest of a string as numbers: code points, and for escapes their units of UTF-16. `opened`
-- is how many characters were left at the opening quote.
def readUnits (opened : Nat) : List Char → Except Refusal (List Nat × List Char)
  | [] => .error ⟨.openString, opened⟩
  | '"' :: rest => .ok ([], rest)
  | ['\\'] => .error ⟨.openString, opened⟩
  | '\\' :: 'u' :: a :: b :: c :: d :: rest =>
    if rest.isEmpty then .error ⟨.unitEscape, rest.length + 5⟩
    else
      match unit? a b c d with
      | none => .error ⟨.unitEscape, rest.length + 5⟩
      | some n => (readUnits opened rest).map fun r => (n :: r.1, r.2)
  | '\\' :: 'u' :: rest => .error ⟨.unitEscape, rest.length + 1⟩
  | '\\' :: c :: rest =>
    match simpleEscape? c with
    | none => .error ⟨.escape, rest.length + 2⟩
    | some e => (readUnits opened rest).map fun r => (e.toNat :: r.1, r.2)
  | c :: rest =>
    if c.toNat < 32 then .error ⟨.control, rest.length + 1⟩
    else (readUnits opened rest).map fun r => (c.toNat :: r.1, r.2)

def isHigh (n : Nat) : Bool := 0xD800 ≤ n && n < 0xDC00

def isLow (n : Nat) : Bool := 0xDC00 ≤ n && n < 0xE000

-- A unit without its partner is no character, but stays in the text.
def letterOf (n : Nat) : LooseText.Letter :=
  if isHigh n || isLow n then .inr (Fin.ofNat 0x800 (n - 0xD800)) else .inl (Char.ofNat n)

theorem isHigh_point (half : Surrogate) : isHigh half.point = decide (half.val < 0x400) := by
  rw [Bool.eq_iff_iff]
  simp only [isHigh, Bool.and_eq_true, decide_eq_true_eq]
  unfold Surrogate.point
  omega

theorem isLow_point (half : Surrogate) : isLow half.point = decide (0x400 ≤ half.val) := by
  rw [Bool.eq_iff_iff]
  simp only [isLow, Bool.and_eq_true, decide_eq_true_eq]
  unfold Surrogate.point
  omega

theorem letterOf_point (half : Surrogate) : letterOf half.point = .inr half := by
  have either : isHigh half.point || isLow half.point := by
    simp only [isHigh_point, isLow_point, Bool.or_eq_true, decide_eq_true_eq]
    omega
  have back : half.point - 0xD800 = half.val := Nat.add_sub_cancel_left ..
  rw [letterOf, if_pos either, back, Fin.ofNat_val_eq_self]

theorem point_letterOf {n : Nat} {half : Surrogate} (alone : letterOf n = .inr half) :
    half.point = n := by
  unfold letterOf at alone
  split at alone
  · rename_i either
    simp only [isHigh, isLow, Bool.or_eq_true, Bool.and_eq_true, decide_eq_true_eq] at either
    have small : n - 0xD800 < 0x800 := by omega
    rw [← Sum.inr.inj alone, Surrogate.point, Fin.val_ofNat, Nat.mod_eq_of_lt small]
    omega
  · cases alone

def joinUnits : List Nat → List LooseText.Letter
  | [] => []
  | [n] => [letterOf n]
  | n :: m :: rest =>
    if isHigh n && isLow m then
      .inl (Char.ofNat (0x10000 + (n - 0xD800) * 0x400 + (m - 0xDC00))) :: joinUnits rest
    else letterOf n :: joinUnits (m :: rest)

-- What follows an opening quote.
def readString (rest : List Char) : Except Refusal (LooseText × List Char) :=
  (readUnits (rest.length + 1) rest).map fun r => (.ofLetters (joinUnits r.1), r.2)

def digitsOf (cs : List Char) : List Char := cs.takeWhile Char.isDigit

def ofDigits (ds : List Char) : Nat := ds.foldl (fun n d => 10 * n + (d.toNat - 48)) 0

-- Digits before the point: a single zero, or a run that does not start with one.
def readWhole (cs : List Char) : Option (List Char × List Char) :=
  match cs with
  | '0' :: rest => some (['0'], rest)
  | c :: _ => if c.isDigit then some (digitsOf cs, cs.dropWhile Char.isDigit) else none
  | [] => none

-- Digits after a point. A point that none follow belongs to what comes next.
def readFraction : List Char → Option (List Char) × List Char
  | '.' :: rest =>
    if (digitsOf rest).isEmpty then (none, '.' :: rest)
    else (some (digitsOf rest), rest.dropWhile Char.isDigit)
  | cs => (none, cs)

-- Likewise an exponent without digits.
def readExponent (cs : List Char) : Option Int × List Char :=
  match cs with
  | e :: rest =>
    if e = 'e' || e = 'E' then
      let (negative, body) :=
        match rest with
        | '-' :: body => (true, body)
        | '+' :: body => (false, body)
        | body => (false, body)
      if (digitsOf body).isEmpty then (none, cs)
      else
        let n : Int := ofDigits (digitsOf body)
        (some (if negative then -n else n), body.dropWhile Char.isDigit)
    else (none, cs)
  | [] => (none, [])

-- With a fraction or an exponent a number is a double.
def readUnsigned (negative : Bool) (cs : List Char) : Option (Json × List Char) :=
  match readWhole cs with
  | none => none
  | some (whole, rest) =>
    let (fraction, rest) := readFraction rest
    let (exponent, rest) := readExponent rest
    match fraction, exponent with
    | none, none =>
      let n : Int := ofDigits whole
      some (.int (if negative then -n else n), rest)
    | _, _ =>
      let places := fraction.getD []
      let e := exponent.getD 0 - places.length
      some (.float (Binary64.ofDecimal negative (ofDigits (whole ++ places)) e), rest)

def readNumber : List Char → Option (Json × List Char)
  | '-' :: cs => readUnsigned true cs
  | cs => readUnsigned false cs

-- Words and numbers.
def readPlain (cs : List Char) : Except Refusal (Json × List Char) :=
  match cs with
  | 'n' :: 'u' :: 'l' :: 'l' :: rest => .ok (.null, rest)
  | 't' :: 'r' :: 'u' :: 'e' :: rest => .ok (.bool true, rest)
  | 'f' :: 'a' :: 'l' :: 's' :: 'e' :: rest => .ok (.bool false, rest)
  | 'N' :: 'a' :: 'N' :: rest => .ok (.float .nan, rest)
  | 'I' :: 'n' :: 'f' :: 'i' :: 'n' :: 'i' :: 't' :: 'y' :: rest =>
    .ok (.float (.infinite false), rest)
  | '-' :: 'I' :: 'n' :: 'f' :: 'i' :: 'n' :: 'i' :: 't' :: 'y' :: rest =>
    .ok (.float (.infinite true), rest)
  | _ =>
    match readNumber cs with
    | some r => .ok r
    | none => .error ⟨.value, cs.length⟩

-- `fuel` bounds the steps; twice the length of the text is enough.
mutual
def readValue : Nat → List Char → Except Refusal (Json × List Char)
  | 0, cs => .error ⟨.value, cs.length⟩
  | fuel + 1, cs =>
    match cs with
    | '"' :: rest => (readString rest).map fun r => (.str r.1, r.2)
    | '\x7b' :: rest =>
      match skipSpace rest with
      | '\x7d' :: rest => .ok (.obj [], rest)
      | rest => (readFields fuel [] rest).map fun r => (.obj r.1, r.2)
    | '[' :: rest =>
      match skipSpace rest with
      | ']' :: rest => .ok (.arr [], rest)
      | rest => (readItems fuel rest).map fun r => (.arr r.1, r.2)
    | _ => readPlain cs
-- Items up to the closing bracket.
def readItems : Nat → List Char → Except Refusal (List Json × List Char)
  | 0, cs => .error ⟨.value, cs.length⟩
  | fuel + 1, cs =>
    match readValue fuel cs with
    | .error r => .error r
    | .ok (item, rest) =>
      match skipSpace rest with
      | ']' :: rest => .ok ([item], rest)
      | ',' :: rest => (readItems fuel (skipSpace rest)).map fun r => (item :: r.1, r.2)
      | rest => .error ⟨.comma, rest.length⟩
-- Fields up to the closing brace, added to those read before.
def readFields : Nat → List (LooseText × Json) → List Char →
    Except Refusal (List (LooseText × Json) × List Char)
  | 0, _, cs => .error ⟨.property, cs.length⟩
  | fuel + 1, fields, cs =>
    match cs with
    | '"' :: rest =>
      match readString rest with
      | .error r => .error r
      | .ok (key, rest) =>
        match skipSpace rest with
        | ':' :: rest =>
          match readValue fuel (skipSpace rest) with
          | .error r => .error r
          | .ok (value, rest) =>
            match skipSpace rest with
            | '\x7d' :: rest => .ok (setField key value fields, rest)
            | ',' :: rest => readFields fuel (setField key value fields) (skipSpace rest)
            | rest => .error ⟨.comma, rest.length⟩
        | rest => .error ⟨.colon, rest.length⟩
    | _ => .error ⟨.property, cs.length⟩
end

def readDocument (cs : List Char) : Except Refusal Json :=
  if cs.head? = some (Char.ofNat 0xFEFF) then .error ⟨.byteOrderMark, cs.length⟩
  else
    match readValue (2 * cs.length + 2) (skipSpace cs) with
    | .error r => .error r
    | .ok (v, rest) =>
      if (skipSpace rest).isEmpty then .ok v else .error ⟨.extra, (skipSpace rest).length⟩

-- Besides the numbers of the standard, of any length, the three names for an infinity and for no number
-- are accepted. A key that is given twice keeps its first place and its last value.
def read (text : String) : Except String Json :=
  (readDocument text.toList).mapError fun r => r.message text.toList

end DnsSteering.Json
