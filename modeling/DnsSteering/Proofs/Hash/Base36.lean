import DnsSteering.Hash.ShortCode
import DnsSteering.Proofs.Hash.Radix

namespace DnsSteering

namespace Base36

-- What is true of the 36 digits is true of every character of a number.
theorem forall_digits {P : Char → Prop} (digit : ∀ d : Fin 36, P (Base36.digit d)) (n : Nat) :
    ∀ c ∈ digits n, P c := by
  intro c member
  rw [digits_write] at member
  obtain ⟨d, small, rfl⟩ := Radix.write_signs n c member
  exact digit ⟨d, small⟩

theorem forall_encode {P : Char → Prop} (digit : ∀ d : Fin 36, P (Base36.digit d)) (raw : List UInt8) :
    ∀ c ∈ encode raw, P c := by
  intro c member
  rcases List.mem_append.mp member with zero | high
  · rw [List.eq_of_mem_replicate zero]
    exact digit 0
  · exact forall_digits digit _ c high

section

variable {α : Type} [DecidableEq α]

-- A list is parted behind the zeros that it starts with, whatever serves as zero.
theorem padded (zero : α) (xs : List α) :
    ∃ zeros rest, xs = List.replicate zeros zero ++ rest ∧ rest.head? ≠ some zero := by
  induction xs with
  | nil => exact ⟨0, [], rfl, by simp⟩
  | cons x xs ih =>
    by_cases here : x = zero
    · obtain ⟨zeros, rest, parts, front⟩ := ih
      exact ⟨zeros + 1, rest, by rw [here, parts, List.replicate_succ, List.cons_append], front⟩
    · exact ⟨0, x :: xs, rfl, by simpa using here⟩

theorem takeWhile_padded {zero : α} (zeros : Nat) {rest : List α} (front : rest.head? ≠ some zero) :
    (List.replicate zeros zero ++ rest).takeWhile (· = zero) = List.replicate zeros zero := by
  induction zeros with
  | zero => cases rest <;> simp_all
  | succ zeros ih => simpa [List.replicate_succ] using ih

theorem dropWhile_padded {zero : α} (zeros : Nat) {rest : List α} (front : rest.head? ≠ some zero) :
    (List.replicate zeros zero ++ rest).dropWhile (· = zero) = rest := by
  induction zeros with
  | zero => cases rest <;> simp_all
  | succ zeros ih => simpa [List.replicate_succ] using ih

end

theorem number_padded (zeros : Nat) (rest : List UInt8) :
    number (List.replicate zeros 0 ++ rest) = number rest := by
  induction zeros with
  | zero => rfl
  | succ zeros ih => simpa [List.replicate_succ, number] using ih

theorem leadingZeros_padded (zeros : Nat) {rest : List UInt8} (front : rest.head? ≠ some 0) :
    leadingZeros (List.replicate zeros 0 ++ rest) = zeros := by
  rw [leadingZeros, takeWhile_padded zeros front, List.length_replicate]

theorem encode_padded (zeros : Nat) {rest : List UInt8} (front : rest.head? ≠ some 0) :
    encode (List.replicate zeros 0 ++ rest) = List.replicate zeros '0' ++ digits (number rest) := by
  rw [encode, leadingZeros_padded zeros front, number_padded]

theorem decode_padded (zeros : Nat) {numeral : List Char} (front : numeral.head? ≠ some '0') :
    decode (List.replicate zeros '0' ++ numeral) =
      List.replicate zeros 0 ++ bytes (ofDigits numeral) := by
  rw [decode, takeWhile_padded zeros front, dropWhile_padded zeros front, List.map_replicate]

theorem bytes_number {rest : List UInt8} (front : rest.head? ≠ some 0) : bytes (number rest) = rest := by
  rw [bytes_write, number_read]
  exact Radix.write_read (fun b _ => octets_sign b) front

theorem length_le_digits {rest : List UInt8} (front : rest.head? ≠ some 0) :
    rest.length ≤ (digits (number rest)).length :=
  calc rest.length = (octets.write (number rest)).length := by rw [← bytes_write, bytes_number front]
    _ ≤ (letters.write (number rest)).length := Radix.length_write_le (by decide) _
    _ = (digits (number rest)).length := by rw [digits_write]

theorem length_le_encode (raw : List UInt8) : raw.length ≤ (encode raw).length := by
  obtain ⟨zeros, rest, rfl, front⟩ := padded 0 raw
  rw [encode_padded zeros front, List.length_append, List.length_append, List.length_replicate,
    List.length_replicate]
  exact Nat.add_le_add_left (length_le_digits front) _

end Base36

namespace ShortCode

theorem length_cut {n : Nat} {cs : List Char} (enough : n ≤ cs.length) : (cut n cs).length = n := by
  have positive : (0 : Int) ≤ n := Int.natCast_nonneg n
  rw [cut, if_pos positive, Int.toNat_natCast, List.length_take]
  exact Nat.min_eq_left enough

theorem mem_of_mem_cut {n : Int} {cs : List Char} {c : Char} (member : c ∈ cut n cs) : c ∈ cs := by
  unfold cut at member
  split at member
  · exact List.mem_of_mem_take member
  · exact List.mem_of_mem_take member

end ShortCode
end DnsSteering
