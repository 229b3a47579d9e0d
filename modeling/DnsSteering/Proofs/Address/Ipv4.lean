import DnsSteering.Address.Ipv4
import DnsSteering.Proofs.Json.Numbers
import DnsSteering.Proofs.Text.Parts
import Mathlib.Data.List.Induction

namespace DnsSteering.Ipv4

theorem digit_facts {c : Char} (digit : c.isDigit = true) :
    c.toNat - 48 < 10 ∧ Nat.digitChar (c.toNat - 48) = c ∧ (c.toNat - 48 = 0 → c = '0') := by
  have every : ∀ n < 58, (Char.ofNat n).isDigit = true → (Char.ofNat n).toNat - 48 < 10 ∧
      Nat.digitChar ((Char.ofNat n).toNat - 48) = Char.ofNat n ∧
      ((Char.ofNat n).toNat - 48 = 0 → Char.ofNat n = '0') := by decide
  have last : c.toNat ≤ 57 := by
    simp only [Char.isDigit, Bool.and_eq_true, decide_eq_true_eq, UInt32.le_iff_toNat_le] at digit
    exact digit.2
  have here := every c.toNat (Nat.lt_succ_of_le last)
  rw [Char.ofNat_toNat] at here
  exact here digit

-- The induction is on the digits from the last one, in which a number ends.
theorem toDigits_ofDigits {cs : List Char} (given : cs ≠ []) (digits : ∀ c ∈ cs, c.isDigit = true)
    (single : cs.head? = some '0' → cs = ['0']) : Nat.toDigits 10 (Json.ofDigits cs) = cs := by
  induction cs using List.reverseRecOn with
  | nil => exact absurd rfl given
  | append_singleton front c ih =>
    obtain ⟨small, shown, _⟩ := digit_facts (digits c (by simp))
    have value : Json.ofDigits (front ++ [c]) = 10 * Json.ofDigits front + (c.toNat - 48) := by
      simp [Json.ofDigits]
    rw [value]
    by_cases alone : front = []
    · rw [alone]
      simpa [Json.ofDigits, Nat.toDigits_of_lt_base small] using shown
    · have leading : front.head? ≠ some '0' := by
        intro zero
        have longer : front ++ [c] = ['0'] := single (by simp [List.head?_append, zero])
        simp [alone, List.append_eq_cons_iff] at longer
      have written := ih alone (fun d member => digits d (List.mem_append_left _ member))
        fun zero => absurd zero leading
      have positive : 0 < Json.ofDigits front := by
        refine Nat.pos_of_ne_zero fun zero => leading ?_
        rw [zero] at written
        rw [← written]
        rfl
      rw [Nat.toDigits_of_base_le (by decide) (by omega),
        show (10 * Json.ofDigits front + (c.toNat - 48)) / 10 = Json.ofDigits front by omega,
        show (10 * Json.ofDigits front + (c.toNat - 48)) % 10 = c.toNat - 48 by omega, written, shown]

theorem octet?_some {cs : List Char} {n : Nat} (made : octet? cs = some n) :
    (∀ c ∈ cs, c.isDigit = true) ∧ Nat.toDigits 10 n = cs := by
  unfold octet? at made
  split at made
  · cases made
  · rename_i run
    simp only [Bool.or_eq_true, Bool.not_eq_true', not_or, Bool.not_eq_false] at run
    obtain ⟨given, digits⟩ := run
    rw [List.all_eq_true] at digits
    split at made
    · cases made
    · rename_i short
      dsimp only at made
      split at made
      · cases made
        refine ⟨digits, toDigits_ofDigits (by simpa using given) digits fun zero => ?_⟩
        have one : cs.length ≤ 1 := by
          by_contra longer
          simp [zero] at short
          omega
        obtain ⟨c, rest, rfl⟩ := List.exists_cons_of_ne_nil (show cs ≠ [] by simpa using given)
        simp only [List.length_cons, List.head?_cons, Option.some.injEq] at one zero
        rw [zero, List.eq_nil_of_length_eq_zero (by omega : rest.length = 0)]
      · cases made

section Octets

variable {cs : List Char} {octets : List Nat} (made : octets? cs = some octets)

include made

theorem octets?_parts : (Text.split '.' cs).map octet? = octets.map some := by
  unfold octets? at made
  split at made
  · rename_i four
    rw [four, ← Option.some.inj made]
    rfl
  · cases made

theorem octets?_chars : ∀ c ∈ cs, c.isDigit = true ∨ c = '.' := by
  intro c listed
  rcases Text.part_of_mem listed with stop | ⟨p, member, inside⟩
  · exact .inr stop
  · have read := List.mem_map_of_mem (f := octet?) member
    rw [octets?_parts made] at read
    obtain ⟨n, _, some⟩ := List.mem_map.mp read
    exact .inl ((octet?_some some.symm).1 c inside)

-- An address is written as it was read.
theorem text_octets : text octets = cs := by
  have parts := octets?_parts made
  have written : ∀ (ps : List (List Char)) (ns : List Nat), ps.map octet? = ns.map some →
      ns.map (Nat.toDigits 10) = ps := by
    intro ps
    induction ps with
    | nil =>
      intro ns same
      rw [List.map_eq_nil_iff.mp same.symm]
      rfl
    | cons p ps ih =>
      intro ns same
      obtain ⟨n, more, rfl, here, rest⟩ := List.map_eq_cons_iff.mp same.symm
      rw [List.map_cons, ih more rest.symm, (octet?_some here.symm).2]
  rw [text, written _ _ parts, Text.join_split]

end Octets

end DnsSteering.Ipv4
