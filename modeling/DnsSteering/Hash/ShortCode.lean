import DnsSteering.Fault
import DnsSteering.Hash.Base36
import DnsSteering.Hash.Sha224

namespace DnsSteering

namespace LooseText

-- How many halves a text starts with.
def leadingHalves : LooseText → Nat
  | plain _ => 0
  | torn front _ rest => if front.isEmpty then rest.leadingHalves + 1 else 0

def utf8 : LooseText → Except EncodingFault (List UInt8)
  | plain s => .ok (s.toList.flatMap String.utf8EncodeChar)
  | torn front half rest => .error ⟨half, front.length, rest.leadingHalves⟩

theorem utf8_plain {t : LooseText} {bytes : List UInt8} (whole : t.utf8 = .ok bytes) :
    ∃ s : String, t = s := by
  cases t with
  | plain s => exact ⟨s, rfl⟩
  | torn => cases whole

end LooseText

namespace ShortCode

def usualLength : Nat := 6

def hash (t : LooseText) : Except Fault (List Char) :=
  match t.utf8 with
  | .error f => .error (.encoding f)
  | .ok bytes => .ok (Base36.encode (Sha224.hash bytes))

-- A negative length says how many characters to leave off at the end.
def cut (length : Int) (cs : List Char) : List Char :=
  if 0 ≤ length then cs.take length.toNat else cs.take (cs.length - (-length).toNat)

-- The code of a text in so many characters.
def ofText (length : Int) (t : LooseText) : Except Fault String :=
  (hash t).map fun cs => String.ofList (cut length cs)

-- A text has a code where it has a form in UTF-8.
theorem ofText_cases (n : Int) (t : LooseText) :
    (∃ bytes code, t.utf8 = .ok bytes ∧ ofText n t = .ok code) ∨
      ∃ e, t.utf8 = .error e ∧ ofText n t = .error (.encoding e) := by
  unfold ofText hash
  cases t.utf8 with
  | ok bytes => exact .inl ⟨bytes, _, rfl, rfl⟩
  | error e => exact .inr ⟨e, rfl, rfl⟩

end ShortCode
end DnsSteering
