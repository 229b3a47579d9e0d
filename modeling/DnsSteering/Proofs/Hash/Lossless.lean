import DnsSteering.Proofs.Hash.Base36

namespace DnsSteering.Base36

def alphabet : List Char := "0123456789abcdefghijklmnopqrstuvwxyz".toList

-- A number while digits are divided off it: what is left, and the digits found, least significant first.
structure Division where
  left : Nat
  found : List Char

def Division.next (d : Division) : Division := ⟨d.left / 36, d.found ++ [digit (d.left % 36)]⟩

inductive Division.Ends : Division → List Char → Prop
  | done (found : List Char) : Ends ⟨0, found⟩ found
  | next {d : Division} {found : List Char} (some : 0 < d.left) (rest : Ends d.next found) : Ends d found

-- One zero for each zero byte, up to the first byte that is none.
def addZeros (found : List Char) : List UInt8 → List Char
  | [] => found
  | b :: raw => if b = 0 then addZeros (found ++ ['0']) raw else found

namespace Division

-- What will be written, most significant first. No round changes it.
def whole (d : Division) : List Char := digits d.left ++ d.found.reverse

theorem next_whole {d : Division} (some : 0 < d.left) : d.next.whole = d.whole := by
  have last : digits d.left = digits (d.left / 36) ++ [digit (d.left % 36)] := by
    rw [digits, if_neg (Nat.ne_of_gt some)]
  simp [whole, next, last]

theorem Ends.whole {d : Division} {found : List Char} (ends : d.Ends found) :
    found.reverse = d.whole := by
  induction ends with
  | done found => simp [Division.whole, digits]
  | next some _ ih => rw [ih, next_whole some]

theorem ends (left : Nat) (found : List Char) : ∃ all, Ends ⟨left, found⟩ all := by
  induction left using Nat.strongRecOn generalizing found with
  | ind left ih =>
    by_cases zero : left = 0
    · subst zero
      exact ⟨found, .done found⟩
    · have some : 0 < left := Nat.pos_of_ne_zero zero
      obtain ⟨all, rest⟩ := ih (left / 36) (Nat.div_lt_self some (by decide)) (found ++ [digit (left % 36)])
      exact ⟨all, .next some rest⟩

theorem ends_iff {d : Division} {found : List Char} : d.Ends found ↔ found.reverse = d.whole := by
  constructor
  · exact Ends.whole
  · intro written
    obtain ⟨all, ended⟩ := ends d.left d.found
    have same : found = all := List.reverse_injective (written.trans ended.whole.symm)
    rw [same]
    exact ended

end Division

theorem addZeros_padded (found : List Char) (zeros : Nat) {rest : List UInt8} (front : rest.head? ≠ some 0) :
    addZeros found (List.replicate zeros 0 ++ rest) = found ++ List.replicate zeros '0' := by
  induction zeros generalizing found with
  | zero =>
    cases rest with
    | nil => simp [addZeros]
    | cons b rest =>
      have some : b ≠ 0 := by simpa using front
      simp [addZeros, some]
  | succ zeros ih =>
    rw [List.replicate_succ, List.cons_append, addZeros, if_pos rfl, ih, List.append_assoc,
      List.replicate_succ, List.singleton_append]

theorem encode_divided {raw : List UInt8} {found : List Char}
    (ended : Division.Ends ⟨number raw, []⟩ found) : encode raw = (addZeros found raw).reverse := by
  have written : found.reverse = digits (number raw) := by simpa [Division.whole] using ended.whole
  obtain ⟨zeros, rest, rfl, front⟩ := padded 0 raw
  rw [addZeros_padded found zeros front, List.reverse_append, List.reverse_replicate, written,
    encode_padded zeros front, number_padded]

theorem digits_front (n : Nat) : (digits n).head? ≠ some '0' := by
  rw [digits_write]
  exact Radix.write_front n

theorem decode_encode (raw : List UInt8) : decode (encode raw) = raw := by
  obtain ⟨zeros, rest, rfl, front⟩ := padded 0 raw
  have number_back : ofDigits (digits (number rest)) = number rest := by
    rw [ofDigits_read, digits_write, Radix.read_write]
  rw [encode_padded zeros front, decode_padded zeros (digits_front _), number_back, bytes_number front]

theorem mem_alphabet {c : Char} : c ∈ alphabet ↔ letters.IsSign c := by
  have listed : alphabet = (List.range 36).map digit := by decide
  simp [listed, Radix.IsSign, letters]

theorem encode_mem_alphabet (raw : List UInt8) : ∀ c ∈ encode raw, c ∈ alphabet :=
  forall_encode (by decide) raw

theorem encode_decode {text : List Char} (chars : ∀ c ∈ text, c ∈ alphabet) :
    encode (decode text) = text := by
  obtain ⟨zeros, numeral, rfl, front⟩ := padded '0' text
  have signs : ∀ c ∈ numeral, letters.IsSign c := by
    intro c member
    exact mem_alphabet.mp (chars c (List.mem_append_right _ member))
  have some : (bytes (ofDigits numeral)).head? ≠ some 0 := by
    rw [bytes_write]
    exact Radix.write_front _
  have number_back : number (bytes (ofDigits numeral)) = ofDigits numeral := by
    rw [number_read, bytes_write, Radix.read_write]
  rw [decode_padded zeros front, encode_padded zeros some, number_back, digits_write, ofDigits_read,
    Radix.write_read signs front]

-- Between byte strings and texts of the alphabet nothing is lost either way.
theorem encode_lossless :
    (∀ raw : List UInt8, number raw = octets.read raw ∧
      ∃ found, (∀ other, Division.Ends ⟨number raw, []⟩ other ↔ other = found) ∧
        encode raw = (addZeros found raw).reverse) ∧
    (∀ raw : List UInt8, ∃ zeros rest numeral,
      raw = List.replicate zeros 0 ++ rest ∧ rest.head? ≠ some 0 ∧
      encode raw = List.replicate zeros '0' ++ numeral ∧
      letters.IsNumeral (octets.read raw) numeral ∧ (numeral = [] ↔ octets.read raw = 0)) ∧
    (∀ raw, decode (encode raw) = raw) ∧
    Function.Injective encode ∧
    ∀ text, encode (decode text) = text ↔ ∀ c ∈ text, c ∈ alphabet := by
  refine ⟨?_, ?_, decode_encode, ?_, ?_⟩
  · intro raw
    obtain ⟨found, ended⟩ := Division.ends (number raw) []
    refine ⟨number_read raw, found, fun other => ?_, encode_divided ended⟩
    rw [Division.ends_iff, ← ended.whole]
    exact List.reverse_injective.eq_iff
  · intro raw
    obtain ⟨zeros, rest, rfl, front⟩ := padded 0 raw
    refine ⟨zeros, rest, digits (number rest), rfl, front, encode_padded zeros front, ?_, ?_⟩
    · rw [← number_read, number_padded, Radix.isNumeral_iff]
      exact digits_write _
    · rw [← number_read, number_padded, digits_write]
      exact Radix.write_eq_nil
  · exact Function.LeftInverse.injective decode_encode
  · intro text
    constructor
    · intro same
      rw [← same]
      exact encode_mem_alphabet _
    · exact encode_decode

-- Two bytes that the number forgets.
def padding : List UInt8 := [0, 0, 36, 1]

theorem padding_lossless : encode padding = "00741".toList ∧ decode "00741".toList = padding ∧
    Division.Ends ⟨number padding, []⟩ "147".toList ∧
    ∀ raw, encode raw = "00741".toList → raw = padding := by
  have written : encode padding = "00741".toList := by
    simp [padding, encode, leadingZeros, number, digits, digit]
  obtain ⟨divided, _, back, injective, _⟩ := encode_lossless
  obtain ⟨_, found, ended, text⟩ := divided padding
  have digits : found = "147".toList := by
    have turned : found ++ ['0', '0'] = "147".toList ++ ['0', '0'] := by
      rw [written] at text
      simpa [padding, addZeros] using (congrArg List.reverse text).symm
    exact List.append_cancel_right turned
  refine ⟨written, ?_, (ended _).mpr digits.symm, fun raw same => ?_⟩
  · rw [← written]
    exact back padding
  · exact injective (same.trans written.symm)

end DnsSteering.Base36
